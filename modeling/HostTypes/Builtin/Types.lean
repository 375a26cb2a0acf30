import HostTypes.Hierarchy

/-!
The types that every host needs.
-/

namespace HostTypes

structure BuiltinTypes where
  object : TypeKey
  number : TypeKey
  truth : TypeKey
  text : TypeKey
  timespan : TypeKey
  deriving DecidableEq, Repr

namespace BuiltinTypes

/-- Declares the built-in types. Whatever else a host declares should be below the first of them. -/
def declare : Declaring BuiltinTypes := do
  let object ← declareType "Object" []
  let number ← declareType "Number" [object]
  let truth ← declareType "Boolean" [object]
  let text ← declareType "Text" [object]
  let timespan ← declareType "Timespan" [object]
  return { object, number, truth, text, timespan }

end BuiltinTypes

end HostTypes
