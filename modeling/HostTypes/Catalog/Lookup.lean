import HostTypes.Catalog.Basic
import HostTypes.Query

/-!
Look-ups in a frozen catalog by the runtime type of a value. Each type is looked for once.
-/

namespace HostTypes

namespace Catalog

variable (catalog : Catalog)

def fetchClosest (type : TypeKey) : Query (Option Nat) :=
  Cache.fetch Memory.closestSlot type (pure (catalog.closestNumber? type))

def entryAt (number? : Option Nat) : Option TypeEntry :=
  number?.bind fun number => catalog.entries[number]?

def closest? (type : TypeKey) : Query (Option TypeEntry) := do
  return catalog.entryAt (← catalog.fetchClosest type)

def closestToAll? (types : List TypeKey) : Query (Option TypeEntry) :=
  match catalog.hierarchy.commonSupertype? types with
  | some common => catalog.closest? common
  | none => return none

/-- The number of the entry that prints values of a type: the first that accepts the type and has a
parser, else the first that accepts it. -/
def fetchPrinting (type : TypeKey) : Query (Option Nat) :=
  Cache.fetch Memory.printingSlot type <|
    match catalog.printingNumber? type with
    | some number => return some number
    | none => catalog.fetchClosest type

def printing? (type : TypeKey) : Query (Option TypeEntry) := do
  return catalog.entryAt (← catalog.fetchPrinting type)

/-- A copy of a value, made by the cloner of its closest entry; without one, the value itself. -/
def cloneValue (value : Value) : Query Value := do
  match (← catalog.closest? value.type).bind TypeEntry.cloner with
  | some clone => return clone value
  | none => return value

end Catalog

end HostTypes
