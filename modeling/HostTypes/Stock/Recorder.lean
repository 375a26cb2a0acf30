import HostTypes.Change
import HostTypes.Stock.Affixes

/-!
Changes that are only written down: one line for each target.
-/

namespace HostTypes

structure ChangeRecorder where
  /-- The start of each line. -/
  tag : String := ""
  /-- A change without a delta, or with an empty one, is refused. -/
  needsDelta : Bool := false
  deriving DecidableEq, Repr

namespace ChangeRecorder

def deltaText : Option (List Value) → String
  | none => "none"
  | some values => "[" ++ String.intercalate "," (values.map Value.plainText) ++ "]"

def line (recorder : ChangeRecorder) (mode : ChangeMode) (delta : Option (List Value))
    (target : Value) : String :=
  recorder.tag ++ mode.name ++ " " ++ target.plainText ++ " -> " ++ deltaText delta

def apply (recorder : ChangeRecorder) : ApplyChange := fun targets delta mode =>
  if recorder.needsDelta && (delta.getD []).isEmpty then
    .error (.invalidDelta "expected a delta")
  else .ok (targets.map (recorder.line mode delta))

end ChangeRecorder

end HostTypes
