import HostTypes.Change
import HostTypes.Codec.Serializer
import HostTypes.Parser
import HostTypes.Pattern.Matching

/-!
Type entries: everything known about one registered type.
-/

namespace HostTypes

structure TypeEntry where
  codeName : String
  native : TypeKey
  name : Option String := none
  parser : Option Parser := none
  serializer : Option Serializer := none
  /-- Values are stored by converting them to this type first. -/
  serializeAs : Option TypeKey := none
  mutator : Option Mutator := none
  /-- The patterns of texts by which a script names the type. -/
  patterns : List String := []
  /-- The patterns in the form that is matched, once the entry is registered. -/
  compiled : List Pattern := []
  /-- The code names of entries that must come after this one. -/
  before : List String := []
  /-- The code names of entries that must come before this one. -/
  after : List String := []
  cloner : Option (Value → Value) := none

namespace TypeEntry

def displayName (entry : TypeEntry) : String :=
  entry.name.getD entry.codeName

def compilePatterns (entry : TypeEntry) : Except String TypeEntry := do
  let compiled ← entry.patterns.mapM fun source =>
    match Pattern.anchored? source with
    | some pattern => .ok pattern
    | none => .error source
  return { entry with compiled }

def matchesUserInput (entry : TypeEntry) (text : String) : Bool :=
  entry.compiled.any (·.isMatch text)

end TypeEntry

end HostTypes
