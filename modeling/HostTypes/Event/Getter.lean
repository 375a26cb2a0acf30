import HostTypes.Value

/-!
Event getters: how to extract values of a type from the events of a type, before, during or after
the event.
-/

namespace HostTypes

/-- The state that a value reflects: that before the event, that during it, or that after it. -/
inductive TimeVariant where
  | before
  | default
  | after
  deriving DecidableEq, Repr

namespace TimeVariant

def name : TimeVariant → String
  | before => "before"
  | default => "default"
  | after => "after"

def named? (name : String) : Option TimeVariant :=
  [before, default, after].find? fun time => time.name == name

def offset : TimeVariant → Int
  | before => -1
  | default => 0
  | after => 1

def ofOffset? (offset : Int) : Option TimeVariant :=
  [before, default, after].find? fun time => time.offset == offset

end TimeVariant

structure EventGetter where
  event : TypeKey
  valueType : TypeKey
  time : TimeVariant := .default
  extract : Value → Option Extracted
  /-- It may extract several values at once. -/
  supportsMultiple : Bool := false

/-- The getter chosen for a request, and the type to which its values have yet to be converted. -/
structure ResolvedGetter where
  getter : EventGetter
  convertTo : Option TypeKey := none

/-- What is asked of the getters: values of a type, from events of a runtime type, at a time. An
exact request is for getters of exactly the value type. -/
structure GetterRequest where
  event : TypeKey
  valueType : TypeKey
  time : TimeVariant
  exact : Bool
  deriving DecidableEq, Repr

/-- The answer to a request. Candidates of an ambiguity are types of events, or of values if the
event type is clear. -/
inductive Resolution where
  | found (getter : ResolvedGetter)
  | missing
  | ambiguous (candidates : List TypeKey)

namespace Resolution

def isMissing : Resolution → Bool
  | missing => true
  | _ => false

end Resolution

end HostTypes
