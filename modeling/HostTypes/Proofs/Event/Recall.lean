import HostTypes.Proofs.Query.Ensuring

/-!
What the calls of an expression do. The getters that one remembers are fresh if a look-up for its value
type and exactness at some time gives them. Binding finds fresh getters, and an expression whose
getters are fresh for its time gives the values of fresh getters and stays so.
-/

namespace HostTypes

namespace EventExpression

/-- What a look-up in the getters gives. An ambiguity counts as no getter. -/
def fresh? (expression : EventExpression) (time : TimeVariant) (event : TypeKey) :
    Option ResolvedGetter :=
  (expression.registry.outcome
    ⟨event, expression.valueType, time, expression.exact⟩).toOption.join

/-- The value of an event by a fresh getter. -/
def value? (expression : EventExpression) (event : Value) : Option Extracted :=
  ((expression.fresh? expression.time event.type).bind
    (expression.registry.extracted? · event)).bind expression.select?

/-- Remembered getters are those that a look-up for a time gives. -/
def Fresh (expression : EventExpression) (time : TimeVariant)
    (getters : List (TypeKey × Option ResolvedGetter)) : Prop :=
  ∀ row ∈ getters, row.2 = expression.fresh? time row.1

/-- An expression after a call that may at most have added to what it remembers. -/
def Refreshed (expression next : EventExpression) : Prop :=
  ∃ getters, next = { expression with getters } ∧ expression.Fresh expression.time getters

variable {env : Environment} {expression : EventExpression} {catalog : Catalog}

theorem eq_fresh?_of_ok {outcome : Except SetupError (Option ResolvedGetter)} {time : TimeVariant}
    {event : TypeKey} (found : outcome.toOption.join = expression.fresh? time event)
    {getter : Option ResolvedGetter} (ok : outcome = .ok getter) :
    getter = expression.fresh? time event := by
  rw [← found, ok]
  cases getter <;> rfl

theorem init_eq (expression : EventExpression) (events : List TypeKey) :
    expression.init events = (bindTo events).run.run expression >>= fun (outcome, next) =>
      pure (outcome.map fun _ => next) := by
  rw [init, outcomeOf, bind_assoc]
  refine bind_congr fun (outcome, next) => ?_
  cases outcome <;> rfl

section

variable (owner : expression.registry = env.registry)

include owner

theorem ensures_resolve (event : TypeKey) (time : TimeVariant) :
    env.Ensures (expression.registry.resolve ⟨event, expression.valueType, time, expression.exact⟩)
      fun outcome => outcome.toOption.join = expression.fresh? time event := by
  unfold fresh?
  rw [owner]
  exact ⟨_, _, env.computes_resolve _, rfl⟩

theorem ensures_lookup (event : TypeKey) (time : TimeVariant) :
    env.Ensures (expression.lookup event time)
      fun outcome => outcome.toOption.join = expression.fresh? time event := by
  unfold lookup
  refine (ensures_resolve owner event time).bind fun outcome found => ?_
  apply Environment.ensures_pure
  rw [← found]
  cases outcome <;> rfl

theorem ensures_lookupAll (time : TimeVariant) (events : List TypeKey) :
    env.Ensures (expression.lookupAll time events) fun outcome => ∀ getters, outcome = .ok getters →
      getters = events.map fun event => (event, expression.fresh? time event) := by
  induction events with
  | nil =>
      apply Environment.ensures_pure
      rintro _ ⟨⟩
      rfl
  | cons event rest ih =>
      unfold lookupAll
      refine (ensures_lookup owner event time).bind fun outcome found => ?_
      cases outcome with
      | error error => exact Environment.ensures_pure fun _ ok => nomatch ok
      | ok getter =>
          refine ih.bind fun outcome later => ?_
          cases outcome with
          | error error => exact Environment.ensures_pure fun _ ok => nomatch ok
          | ok getters =>
              apply Environment.ensures_pure
              rintro _ ⟨⟩
              rw [List.map_cons, ← later getters rfl, eq_fresh?_of_ok found rfl]

/-- Binding finds fresh getters, and one of the types may offer a value. -/
theorem ensures_bind (events : List TypeKey) (time : TimeVariant) :
    env.Ensures (expression.bind events time) fun outcome => ∀ getters, outcome = .ok getters →
      expression.Fresh time getters ∧
        ∃ event ∈ events, expression.mayOffer event time (expression.fresh? time event) := by
  unfold bind
  refine (ensures_lookupAll owner time events).bind fun outcome found => ?_
  cases outcome with
  | error error => exact Environment.ensures_pure fun _ ok => nomatch ok
  | ok getters =>
      obtain rfl := found getters rfl
      dsimp only
      split
      · rename_i some_offers
        obtain ⟨row, member, offers⟩ := List.any_eq_true.1 some_offers
        obtain ⟨event, listed, rfl⟩ := List.mem_map.1 member
        apply Environment.ensures_pure
        rintro _ ⟨⟩
        refine ⟨fun row member => ?_, event, listed, offers⟩
        obtain ⟨event, _, rfl⟩ := List.mem_map.1 member
        rfl
      · exact Environment.ensures_pure fun _ ok => nomatch ok

/-- Binding that fails leaves the expression as it is. -/
theorem ensures_bindTo (events : List TypeKey) :
    env.Ensures ((bindTo events).run.run expression) fun ran =>
      (∃ error, ran.1 = .error error ∧ ran.2 = expression) ∨
        (ran.1 = .ok () ∧ ∃ getters, ran.2 = { expression with events, getters } ∧
          expression.Fresh expression.time getters ∧ ∃ event ∈ events,
            expression.mayOffer event expression.time
              (expression.fresh? expression.time event)) := by
  rw [bindTo, run_get_bind, run_lift_bind]
  refine (ensures_bind owner events expression.time).bind fun outcome found => ?_
  cases outcome with
  | error error => exact Environment.ensures_pure (.inl ⟨error, rfl, rfl⟩)
  | ok getters => exact Environment.ensures_pure (.inr ⟨rfl, getters, rfl, found getters rfl⟩)

theorem ensures_init (events : List TypeKey) :
    env.Ensures (expression.init events) fun outcome => ∀ next, outcome = .ok next →
      ∃ getters, next = { expression with events, getters } ∧
        expression.Fresh expression.time getters ∧ ∃ event ∈ events,
          expression.mayOffer event expression.time (expression.fresh? expression.time event) := by
  rw [init_eq]
  refine (ensures_bindTo owner events).bind fun (outcome, next) bound => ?_
  apply Environment.ensures_pure
  rcases bound with ⟨error, rfl, _⟩ | ⟨rfl, bound⟩
  · exact fun _ ok => nomatch ok
  · rintro _ ⟨⟩
    exact bound

theorem ensures_anyTimeStates (events : List TypeKey) :
    env.Ensures (expression.anyTimeStates events) fun _ => True := by
  induction events with
  | nil => exact Environment.ensures_pure trivial
  | cons event rest ih =>
      unfold anyTimeStates
      rw [owner]
      refine (env.computes_hasTimeStates _ _ _).ensures.bind fun differs _ => ?_
      cases differs with
      | true => exact Environment.ensures_pure trivial
      | false => exact ih

/-- Turning to another time that fails, or that makes no difference, leaves the expression as it is. -/
theorem ensures_turnTo (time : TimeVariant) :
    env.Ensures ((turnTo time).run.run expression) fun ran =>
      (∃ error, ran.1 = .error error ∧ ran.2 = expression) ∨
        (ran.1 = .ok false ∧ ran.2 = expression) ∨
        (ran.1 = .ok true ∧ ∃ getters, ran.2 = { expression with time, getters } ∧
          expression.Fresh time getters) := by
  rw [turnTo, run_get_bind, run_lift_bind]
  refine (ensures_anyTimeStates owner expression.events).bind fun differs _ => ?_
  cases differs with
  | false => exact Environment.ensures_pure (.inr (.inl ⟨rfl, rfl⟩))
  | true =>
      rw [if_pos rfl, run_lift_bind]
      refine (ensures_bind owner expression.events time).bind fun outcome found => ?_
      cases outcome with
      | error error => exact Environment.ensures_pure (.inl ⟨error, rfl, rfl⟩)
      | ok getters =>
          exact Environment.ensures_pure (.inr (.inr ⟨rfl, getters, rfl, (found getters rfl).1⟩))

variable (recalls : expression.Fresh expression.time expression.getters)

include recalls

theorem ensures_getterFor (event : TypeKey) :
    env.Ensures (expression.getterFor event) fun (getter, next) =>
      getter = expression.fresh? expression.time event ∧ expression.Refreshed next := by
  unfold getterFor
  cases found : expression.getters.lookup event with
  | some getter =>
      obtain ⟨before, after, parts, _⟩ := List.lookup_eq_some_iff.1 found
      have remembered : (event, getter) ∈ expression.getters := by simp [parts]
      exact Environment.ensures_pure ⟨recalls _ remembered, expression.getters, rfl, recalls⟩
  | none =>
      have kept : expression.Refreshed { expression with
          getters := expression.getters ++ [(event, expression.fresh? expression.time event)] } := by
        refine ⟨_, rfl, fun row member => ?_⟩
        rcases List.mem_append.1 member with old | new
        · exact recalls row old
        · rw [List.mem_singleton.1 new]
      refine (ensures_lookup owner event expression.time).bind fun outcome looked => ?_
      cases outcome with
      | ok getter =>
          obtain rfl := eq_fresh?_of_ok looked rfl
          exact Environment.ensures_pure ⟨rfl, kept⟩
      | error error =>
          refine (Environment.computes_notify _).ensures.bind fun _ _ => ?_
          have missing : none = expression.fresh? expression.time event := looked
          rw [← missing] at kept ⊢
          exact Environment.ensures_pure ⟨rfl, kept⟩

theorem ensures_get (event : Value) :
    env.Ensures (expression.get event) fun (extracted, next) =>
      extracted = expression.value? event ∧ expression.Refreshed next := by
  unfold get value?
  refine (ensures_getterFor owner recalls event.type).bind fun (getter, next) ⟨fresh, kept⟩ => ?_
  rw [← fresh]
  cases getter with
  | none => exact Environment.ensures_pure ⟨rfl, kept⟩
  | some getter =>
      rw [owner]
      refine (env.ensures_extract getter event).bind ?_
      rintro _ rfl
      exact Environment.ensures_pure ⟨rfl, kept⟩

theorem ensures_getValues (event : Value) :
    env.Ensures (expression.getValues event) fun (values, next) =>
      values = ((expression.value? event).map Extracted.toList).getD [] ∧
        expression.Refreshed next := by
  unfold getValues
  refine (ensures_get owner recalls event).bind fun (extracted, next) ⟨value, kept⟩ => ?_
  exact Environment.ensures_pure ⟨by rw [← value], kept⟩

theorem ensures_change (event : Value) (delta : Option (List Value)) (mode : ChangeMode) :
    env.Ensures (expression.change env.catalog event delta mode)
      fun (_, next) => expression.Refreshed next := by
  have chooses : env.Ensures (expression.mutatorIn env.catalog) fun _ => True := by
    unfold mutatorIn
    cases expression.mutator with
    | some mutator => exact Environment.ensures_pure trivial
    | none =>
        exact (Environment.computes_closest expression.valueType).ensures.bind fun _ _ =>
          Environment.ensures_pure trivial
  unfold change
  refine chooses.bind fun mutator _ => ?_
  cases mutator with
  | none => exact Environment.ensures_pure ⟨expression.getters, rfl, recalls⟩
  | some mutator =>
      exact (ensures_getValues owner recalls event).bind fun _ ⟨_, kept⟩ =>
        Environment.ensures_pure kept

theorem ensures_describe (debugEvent : Option Value) :
    env.Ensures (expression.describe env.catalog debugEvent)
      fun (_, next) => expression.Refreshed next := by
  unfold describe
  cases debugEvent with
  | none =>
      have names : env.Ensures (expression.scriptName env.catalog) fun _ => True := by
        unfold scriptName
        refine (Environment.computes_closest expression.valueType).ensures.bind fun entry _ => ?_
        cases entry <;> exact Environment.ensures_pure trivial
      exact names.bind fun _ _ => Environment.ensures_pure ⟨expression.getters, rfl, recalls⟩
  | some event =>
      unfold debugText
      refine (ensures_get owner recalls event).bind fun (extracted, next) ⟨_, kept⟩ => ?_
      cases extracted with
      | none => exact Environment.ensures_pure kept
      | some extracted =>
          exact (Environment.ensures_displayExtracted .debug extracted).bind fun _ _ =>
            Environment.ensures_pure kept

end

end EventExpression

end HostTypes
