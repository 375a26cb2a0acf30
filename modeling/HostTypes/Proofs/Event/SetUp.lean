import HostTypes.Proofs.Event.Recall
import HostTypes.Proofs.Event.Selection

/-!
Binding an expression to the declared types of events. It succeeds if the look-up for one of them gives
a getter, or if there is a getter for a subtype of one (`ensures_init_offers`). A look-up for that
subtype then gives something, unless only getters of exactly the value type will do and this one is of
a subtype: then binding accepts what may never be offered (`init_offers`).
-/

namespace HostTypes

namespace EventRegistry

variable {registry : EventRegistry} {request : GetterRequest}

theorem outcome_ne_none_of_candidate {stage : Stage} {getter : EventGetter}
    (tried : stage ∈ request.stages) (candidate : registry.IsCandidate request stage getter) :
    registry.outcome request ≠ .ok none := by
  rw [ne_eq, outcome_eq_none_iff, answer_eq_missing_iff]
  exact fun none => none stage tried getter candidate

end EventRegistry

namespace EventExpression

variable {env : Environment} {expression : EventExpression}

/-- The look-up for events of a type gives a getter or is ambiguous. -/
def Offers (expression : EventExpression) (time : TimeVariant) (type : TypeKey) : Prop :=
  expression.registry.outcome ⟨type, expression.valueType, time, expression.exact⟩ ≠ .ok none

/-- Only getters of exactly the value type will do, and there is one of a subtype for events below a
given type. -/
def Overlooks (expression : EventExpression) (time : TimeVariant) (event : TypeKey) : Prop :=
  expression.exact ∧ ∃ getter ∈ expression.registry.getters, getter.time = time ∧
    expression.registry.hierarchy.isStrictSubtype getter.event event ∧
    expression.registry.hierarchy.isStrictSubtype getter.valueType expression.valueType

theorem offers_of_fresh? {time : TimeVariant} {event : TypeKey} {getter : ResolvedGetter}
    (found : expression.fresh? time event = some getter) : expression.Offers time event := by
  intro missing
  unfold fresh? at found
  rw [missing] at found
  cases found

theorem offers_or_overlooks {time : TimeVariant} {event : TypeKey}
    (below : expression.registry.hasGetterBelow event expression.valueType time) :
    (∃ type, expression.registry.hierarchy.isStrictSubtype type event ∧
      expression.Offers time type) ∨ expression.Overlooks time event := by
  obtain ⟨getter, registered, fits⟩ := List.any_eq_true.1 below
  simp only [Bool.and_eq_true, beq_iff_eq] at fits
  obtain ⟨⟨sameTime, lower⟩, usable⟩ := fits
  have own : expression.registry.hierarchy.isAssignable getter.event getter.event :=
    Hierarchy.isAssignable_refl
      (Hierarchy.contains_of_isAssignable (Hierarchy.isStrictSubtype_iff.1 lower).2)
  -- The getter is a candidate for requests about its own events.
  let request : GetterRequest := ⟨getter.event, expression.valueType, time, expression.exact⟩
  by_cases same : getter.valueType = expression.valueType
  · have candidate : expression.registry.IsCandidate request .same getter :=
      ⟨registered, sameTime, own, beq_iff_eq.2 same⟩
    have tried : .same ∈ request.stages := by
      unfold GetterRequest.stages
      split <;> exact List.mem_cons_self
    exact .inl ⟨getter.event, lower, EventRegistry.outcome_ne_none_of_candidate tried candidate⟩
  · have strict := Hierarchy.isStrictSubtype_iff.2 ⟨same, usable⟩
    have candidate : expression.registry.IsCandidate request .subtype getter :=
      ⟨registered, sameTime, own, strict⟩
    by_cases exactly : expression.exact
    · exact .inr ⟨exactly, getter, registered, sameTime, lower, strict⟩
    · have tried : .subtype ∈ request.stages := by
        simp [request, GetterRequest.stages, exactly]
      exact .inl ⟨getter.event, lower, EventRegistry.outcome_ne_none_of_candidate tried candidate⟩

/-! ## Binding -/

theorem ensures_init_offers (owner : expression.registry = env.registry) (events : List TypeKey) :
    env.Ensures (expression.init events) fun outcome => ∀ next, outcome = .ok next →
      (∃ event ∈ events, ∃ type,
        (type = event ∨ expression.registry.hierarchy.isStrictSubtype type event) ∧
          expression.Offers expression.time type) ∨
      ∃ event ∈ events, expression.Overlooks expression.time event := by
  refine (ensures_init owner events).mono fun outcome bound next ok => ?_
  obtain ⟨_, _, _, event, listed, may⟩ := bound next ok
  rcases Bool.or_eq_true _ _ |>.mp may with found | below
  · obtain ⟨getter, same⟩ := Option.isSome_iff_exists.1 found
    exact .inl ⟨event, listed, event, .inl rfl, offers_of_fresh? same⟩
  · rcases offers_or_overlooks below with ⟨type, lower, offered⟩ | overlooked
    · exact .inl ⟨event, listed, type, .inr lower, offered⟩
    · exact .inr ⟨event, listed, overlooked⟩

theorem ensures_lookup_offers (owner : expression.registry = env.registry) (type : TypeKey)
    (time : TimeVariant) :
    env.Ensures (expression.lookup type time)
      fun found => found = .ok none ↔ ¬ expression.Offers time type := by
  have resolves : env.Ensures
      (expression.registry.resolve ⟨type, expression.valueType, time, expression.exact⟩)
      fun found => found = .ok none ↔ ¬ expression.Offers time type := by
    unfold Offers
    rw [owner]
    exact ⟨_, _, env.computes_resolve _, not_ne_iff.symm⟩
  refine resolves.bind fun found same => Environment.ensures_pure ?_
  rw [← same]
  cases found <;> simp [Except.mapError]

end EventExpression

/-! ## The statement -/

theorem init_offers (env : Environment) (questions : List Environment.Question)
    (expression next : EventExpression) (owner : expression.registry = env.registry)
    (events : List TypeKey)
    (bound : ((expression.init events).run (env.memoryAfter questions)).1 = .ok next) :
    (∃ event ∈ events, ∃ type,
      (type = event ∨ env.registry.hierarchy.isStrictSubtype type event) ∧
        ∀ later, ((expression.lookup type expression.time).run (env.memoryAfter later)).1 ≠
          .ok none) ∨
    (expression.exact = true ∧ ∃ getter ∈ env.registry.getters, getter.time = expression.time ∧
      (∃ event ∈ events, env.registry.hierarchy.isStrictSubtype getter.event event) ∧
      env.registry.hierarchy.isStrictSubtype getter.valueType expression.valueType) := by
  have offered := (EventExpression.ensures_init_offers owner events).holds
    (env.faithful_memoryAfter questions) next bound
  rw [owner] at offered
  rcases offered with ⟨event, listed, type, lower, offers⟩ | ⟨event, listed, overlooked⟩
  · exact .inl ⟨event, listed, type, lower, fun later =>
      mt ((EventExpression.ensures_lookup_offers owner type expression.time).holds
        (env.faithful_memoryAfter later)).1 (not_not_intro offers)⟩
  · obtain ⟨exactly, getter, registered, sameTime, lower, strict⟩ := overlooked
    rw [owner] at registered lower strict
    exact .inr ⟨exactly, getter, registered, sameTime, ⟨event, listed, lower⟩, strict⟩

/-- One getter, of `named` values for `entity` events. -/
def EventRegistry.below : EventRegistry where
  hierarchy := .diamond
  graph := ⟨.diamond, []⟩
  getters := [{ event := ⟨3⟩, valueType := ⟨1⟩, extract := fun _ => none }]

def Environment.below : Environment :=
  ⟨⟨.diamond, {}, [], ⟨.diamond, []⟩, []⟩, .below, rfl⟩

def EventExpression.below (exact : Bool) : EventExpression :=
  { registry := .below, valueType := ⟨0⟩, exact }

theorem init_offers_below :
    ∃ next, (((EventExpression.below false).init [⟨2⟩]).run (Environment.below.memoryAfter [])).1 =
      .ok next ∧
      ∃ type, ∀ later, (((EventExpression.below false).lookup type .default).run
        (Environment.below.memoryAfter later)).1 ≠ .ok none := by
  refine ⟨_, rfl, ?_⟩
  rcases init_offers .below [] (.below false) _ rfl [⟨2⟩] rfl with
    ⟨_, _, type, _, offers⟩ | ⟨exactly, _⟩
  · exact ⟨type, offers⟩
  · cases exactly

/-- If the value has to be exactly an `object`, binding succeeds although no event offers it. -/
theorem init_overlooks_below :
    ∃ next, (((EventExpression.below true).init [⟨2⟩]).run (Environment.below.memoryAfter [])).1 =
      .ok next ∧
      ∀ type later, (((EventExpression.below true).lookup type .default).run
        (Environment.below.memoryAfter later)).1 = .ok none := by
  refine ⟨_, rfl, fun type later => ?_⟩
  have owner : (EventExpression.below true).registry = Environment.below.registry := rfl
  refine ((EventExpression.ensures_lookup_offers owner type .default).holds
    (Environment.below.faithful_memoryAfter later)).2 (not_not_intro ?_)
  refine EventRegistry.outcome_eq_none_iff.2 (EventRegistry.answer_of_empty ?_)
  rintro stage tried getter ⟨registered, _, _, serves⟩
  obtain rfl := List.mem_singleton.1 tried
  obtain rfl := List.mem_singleton.1 registered
  cases serves

end HostTypes
