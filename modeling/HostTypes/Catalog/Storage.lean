import HostTypes.Catalog.Lookup
import HostTypes.Conversion.Convert

/-!
Storing values and loading them again. A value is stored under the code name of the entry that
encodes it: the closest entry of its type, or the one that entry's values are stored as.
-/

namespace HostTypes

namespace TypeEntry

def encode (entry : TypeEntry) (value : Value) (onPrimary : Bool) :
    Query (Option StoredValue) := do
  match entry.serializer with
  | none => return none
  | some serializer =>
    if serializer.synchronous && !onPrimary then notify (.serializedOffPrimary entry.codeName)
    match serializer.encode value with
    | .ok bytes => return some ⟨entry.codeName, bytes⟩
    | .error error =>
      notify (.serializeFailed entry.codeName error)
      return none

end TypeEntry

namespace Catalog

variable (catalog : Catalog)

/-- Follows the types that values are stored as, converting the value from one to the next. `hops`
bounds their number. -/
def followAliases : Nat → TypeEntry → Value → Query (Option (TypeEntry × Value))
  | hops, entry, value =>
    match entry.serializeAs with
    | none => return some (entry, value)
    | some target =>
      match hops with
      | 0 => do
        notify (.aliasLoop entry.codeName)
        return none
      | hops + 1 => do
        match ← catalog.graph.convert value target with
        | none => return none
        | some converted =>
          match catalog.entryFor? target with
          | none => return none
          | some next => followAliases hops next converted

/-- The stored form of a value. A walk along more types than there are entries goes in circles. -/
def serialize (value : Value) (onPrimary : Bool) : Query (Option StoredValue) := do
  match ← catalog.closest? value.type with
  | none => return none
  | some entry =>
    match ← catalog.followAliases catalog.entries.length entry value with
    | none => return none
    | some (entry, value) => entry.encode value onPrimary

def deserialize (stored : StoredValue) : Query (Option Value) := do
  match catalog.entryNamed? stored.codeName with
  | none =>
    notify (.unknownCodeName stored.codeName)
    return none
  | some entry =>
    match entry.serializer with
    | none => return none
    | some serializer =>
      match serializer.decode entry.native stored.bytes with
      | .ok value => return some value
      | .error error =>
        notify (.deserializeFailed stored.codeName error)
        return none

end Catalog

end HostTypes
