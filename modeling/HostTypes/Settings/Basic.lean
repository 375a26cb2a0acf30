/-!
The settings of a catalog and their defaults.
-/

namespace HostTypes

inductive LogFormat where
  | pretty
  | compact
  | json
  deriving DecidableEq, Repr

namespace LogFormat

def name : LogFormat → String
  | pretty => "pretty"
  | compact => "compact"
  | json => "json"

def named? (name : String) : Option LogFormat :=
  [pretty, compact, json].find? fun format => format.name == name

end LogFormat

structure RegistrationSettings where
  /-- Skip entries that conflict with an earlier one instead of refusing them. -/
  softConflicts : Bool := false
  warnUnresolved : Bool := true
  /-- Give notice of the frozen order. -/
  logOrder : Bool := false
  deriving DecidableEq, Repr, Inhabited

structure DisplaySettings where
  /-- The decimals of a displayed number. -/
  numberAccuracy : Nat := 2
  /-- The display of no value at all. -/
  noneText : String := "<none>"
  deriving DecidableEq, Repr, Inhabited

structure LoggingSettings where
  level : String := "info"
  format : LogFormat := .pretty
  filter : Option String := none
  /-- Where to keep log files; without it the log goes to the error output. -/
  directory : Option String := none
  deriving DecidableEq, Repr, Inhabited

structure Settings where
  registration : RegistrationSettings := {}
  display : DisplaySettings := {}
  logging : LoggingSettings := {}
  deriving DecidableEq, Repr, Inhabited

end HostTypes
