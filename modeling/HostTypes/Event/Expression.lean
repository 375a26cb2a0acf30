import HostTypes.Attempt
import HostTypes.Catalog.Display
import HostTypes.Event.Resolve

/-!
Event value expressions: the values of a type, of whatever event has triggered a script. An
expression is bound to the declared types of the events in question and remembers the getter for
each runtime type. Operations that change an expression give the new one beside their result. Binding
it and turning it to another time may fail as well: these are calls with the expression as their state.
-/

namespace HostTypes

structure EventExpression where
  registry : EventRegistry
  valueType : TypeKey
  time : TimeVariant := .default
  /-- Only getters of exactly the value type will do. -/
  exact : Bool := false
  /-- Only the first value counts. -/
  single : Bool := true
  /-- The event types to which the expression is bound. -/
  events : List TypeKey := []
  /-- How to change the values, in place of the way of their type. -/
  mutator : Option Mutator := none
  /-- The getters found for event types, `none` where there is none. -/
  getters : List (TypeKey × Option ResolvedGetter) := []

namespace EventExpression

variable (expression : EventExpression)

def lookup (event : TypeKey) (time : TimeVariant) :
    Query (Except SetupError (Option ResolvedGetter)) := do
  let request := ⟨event, expression.valueType, time, expression.exact⟩
  return (← expression.registry.resolve request).mapError SetupError.ofResolveError

/-- Whether events of a type, for which a getter was found or not, may offer the value. -/
def mayOffer (event : TypeKey) (time : TimeVariant) (getter : Option ResolvedGetter) : Bool :=
  getter.isSome || expression.registry.hasGetterBelow event expression.valueType time

def lookupAll (time : TimeVariant) :
    List TypeKey → Query (Except SetupError (List (TypeKey × Option ResolvedGetter)))
  | [] => return .ok []
  | event :: rest => do
    match ← expression.lookup event time with
    | .error error => return .error error
    | .ok getter =>
      match ← lookupAll time rest with
      | .error error => return .error error
      | .ok getters => return .ok ((event, getter) :: getters)

def noValueError (events : List TypeKey) : SetupError :=
  .noEventValue (expression.registry.hierarchy.name expression.valueType)
    (events.map expression.registry.hierarchy.name)

def bind (events : List TypeKey) (time : TimeVariant) :
    Query (Except SetupError (List (TypeKey × Option ResolvedGetter))) := do
  match ← expression.lookupAll time events with
  | .error error => return .error error
  | .ok getters =>
    if getters.any fun (event, getter) => expression.mayOffer event time getter then
      return .ok getters
    else return .error (expression.noValueError events)

def anyTimeStates : List TypeKey → Query Bool
  | [] => return false
  | event :: rest => do
    if ← expression.registry.hasTimeStates event expression.valueType expression.exact then
      return true
    else anyTimeStates rest

end EventExpression

/-- Calls on an expression, one after the other. -/
abbrev Adjusting := Attempt SetupError EventExpression Query

def bindTo (events : List TypeKey) : Adjusting Unit := do
  let expression ← get
  match ← expression.bind events expression.time with
  | .error error => throw error
  | .ok getters => set { expression with events, getters }

/-- Turns an expression to another time, if that makes a difference for some of its event types. The
answer says whether it does. -/
def turnTo (time : TimeVariant) : Adjusting Bool := do
  let expression ← get
  if ← expression.anyTimeStates expression.events then
    match ← expression.bind expression.events time with
    | .error error => throw error
    | .ok getters =>
      set { expression with time, getters }
      return true
  else return false

namespace EventExpression

variable (expression : EventExpression)

/-- The expression bound to the declared types of events. -/
def init (events : List TypeKey) : Query (Except SetupError EventExpression) := do
  return (← outcomeOf (bindTo events) expression).map Prod.snd

/-- The expression turned to another time, with the answer whether that makes a difference. -/
def setTime (time : TimeVariant) : Query (Except SetupError (Bool × EventExpression)) :=
  outcomeOf (turnTo time) expression

/-- The getter for events of a runtime type. One that is not remembered is looked up. -/
def getterFor (event : TypeKey) : Query (Option ResolvedGetter × EventExpression) := do
  match expression.getters.lookup event with
  | some getter => return (getter, expression)
  | none =>
    let getter ←
      match ← expression.lookup event expression.time with
      | .ok getter => pure getter
      -- An ambiguity counts as no getter, and is remembered as such.
      | .error error => do
        notify (.ambiguousGetter error)
        pure none
    return (getter, { expression with getters := expression.getters ++ [(event, getter)] })

def select? (extracted : Extracted) : Option Extracted :=
  if expression.single then extracted.first? else some extracted

def get (event : Value) : Query (Option Extracted × EventExpression) := do
  let (getter?, next) ← expression.getterFor event.type
  match getter? with
  | none => return (none, next)
  | some getter =>
    return ((← expression.registry.extract getter event).bind expression.select?, next)

def getValues (event : Value) : Query (List Value × EventExpression) := do
  let (extracted?, next) ← expression.get event
  return ((extracted?.map Extracted.toList).getD [], next)

/-- How to change the values: in the expression's own way, else in that of the closest entry of
their type. -/
def mutatorIn (catalog : Catalog) : Query (Option Mutator) := do
  match expression.mutator with
  | some mutator => return some mutator
  | none => return (← catalog.closest? expression.valueType).bind TypeEntry.mutator

def acceptedDeltas (catalog : Catalog) (mode : ChangeMode) :
    Query (Except SetupError (List TypeKey)) := do
  match (← expression.mutatorIn catalog).bind (·.acceptedDeltas mode) with
  | some deltas => return .ok deltas
  | none =>
    return .error (.unsupportedChange (catalog.hierarchy.name expression.valueType) mode)

def change (catalog : Catalog) (event : Value) (delta : Option (List Value)) (mode : ChangeMode) :
    Query (Except ChangeError (List String) × EventExpression) := do
  match ← expression.mutatorIn catalog with
  | none => return (.error (.unsupported mode), expression)
  | some mutator =>
    let (targets, next) ← expression.getValues event
    return (mutator.change targets delta mode, next)

def scriptName (catalog : Catalog) : Query String := do
  match ← catalog.closest? expression.valueType with
  | some entry => return "event-" ++ entry.displayName
  | none => return "event-" ++ catalog.hierarchy.name expression.valueType

def debugText (catalog : Catalog) (event : Value) : Query (String × EventExpression) := do
  match ← expression.get event with
  | (none, next) => return (catalog.display.noneText, next)
  | (some extracted, next) => return (← catalog.displayExtracted .debug extracted, next)

def describe (catalog : Catalog) (debugEvent : Option Value) :
    Query (String × EventExpression) := do
  match debugEvent with
  | some event => expression.debugText catalog event
  | none => return (← expression.scriptName catalog, expression)

end EventExpression

end HostTypes
