import HostTypes.Proofs.Catalog.ClosestEntry
import HostTypes.Proofs.Event.Selection

/-!
What does not matter for the answer to a request. Only which getters there are counts, not in what
order they were registered, except that the order decides between getters that the answer does not
tell apart (`outcome_agree`). Getters that the request is not about may stand anywhere among the others
(`outcome_of_interspersed`).
-/

namespace HostTypes

namespace EventRegistry

variable {registry : EventRegistry} {request : GetterRequest} {stage : Stage}
  {getters : List EventGetter}

def withGetters (registry : EventRegistry) (getters : List EventGetter) : EventRegistry :=
  { registry with getters }

/-! ## The same getters in another order -/

theorem isCandidate_withGetters_iff (same : ∀ getter, getter ∈ getters ↔ getter ∈ registry.getters)
    {getter : EventGetter} :
    (registry.withGetters getters).IsCandidate request stage getter ↔
      registry.IsCandidate request stage getter :=
  ⟨fun ⟨registered, time, event, serves⟩ => ⟨(same getter).1 registered, time, event, serves⟩,
    fun ⟨registered, time, event, serves⟩ => ⟨(same getter).2 registered, time, event, serves⟩⟩

theorem isMostSpecific_withGetters_iff
    (same : ∀ getter, getter ∈ getters ↔ getter ∈ registry.getters) {getter : EventGetter} :
    (registry.withGetters getters).IsMostSpecific request stage getter ↔
      registry.IsMostSpecific request stage getter := by
  have candidates := @isCandidate_withGetters_iff registry request stage getters same
  constructor
  · rintro ⟨candidate, least⟩
    exact ⟨candidates.1 candidate, fun other usable => least other (candidates.2 usable)⟩
  · rintro ⟨candidate, least⟩
    exact ⟨candidates.2 candidate, fun other usable => least other (candidates.1 usable)⟩

theorem IsFirstStage.withGetters (same : ∀ getter, getter ∈ getters ↔ getter ∈ registry.getters)
    (decides : registry.IsFirstStage request stage) :
    (registry.withGetters getters).IsFirstStage request stage := by
  obtain ⟨⟨getter, candidate⟩, before, after, split, empty⟩ := decides
  refine ⟨⟨getter, (isCandidate_withGetters_iff same).2 candidate⟩, before, after, split, ?_⟩
  intro earlier member other usable
  exact empty earlier member other ((isCandidate_withGetters_iff same).1 usable)

theorem agreeOn_withGetters_iff (same : ∀ getter, getter ∈ getters ↔ getter ∈ registry.getters)
    {key : EventGetter → TypeKey} :
    (registry.withGetters getters).AgreeOn request stage key ↔
      registry.AgreeOn request stage key := by
  simp only [AgreeOn, isMostSpecific_withGetters_iff same]

theorem Lists.perm (same : ∀ getter, getter ∈ getters ↔ getter ∈ registry.getters)
    {key : EventGetter → TypeKey} {one two : List TypeKey}
    (lists : registry.Lists request stage key one)
    (other : (registry.withGetters getters).Lists request stage key two) : one.Perm two := by
  apply (List.perm_ext_iff_of_nodup lists.nodup other.nodup).2
  intro listed
  simp only [lists.mem_iff, other.mem_iff, isMostSpecific_withGetters_iff same]

/-! ## Outcomes -/

/-- Two outcomes are of one kind, with getters for the same events and values that are both converted
or both not, or with the same candidates. -/
inductive Agree : Except ResolveError (Option ResolvedGetter) →
    Except ResolveError (Option ResolvedGetter) → Prop
  | missing : Agree (.ok none) (.ok none)
  | found {one two : ResolvedGetter} (event : one.getter.event = two.getter.event)
      (valueType : one.getter.valueType = two.getter.valueType)
      (time : one.getter.time = two.getter.time) (converted : one.convertTo = two.convertTo) :
      Agree (.ok (some one)) (.ok (some two))
  | ambiguous {one two : ResolveError} (event : one.event = two.event)
      (value : one.value = two.value) (candidates : one.candidates.Perm two.candidates) :
      Agree (.error one) (.error two)

theorem outcome_agree (same : ∀ getter, getter ∈ getters ↔ getter ∈ registry.getters) :
    Agree (registry.outcome request) ((registry.withGetters getters).outcome request) := by
  by_cases empty : ∀ stage ∈ request.stages, ∀ getter, ¬ registry.IsCandidate request stage getter
  · have missing : (registry.withGetters getters).answer request = .missing :=
      answer_of_empty fun stage member getter candidate =>
        empty stage member getter ((isCandidate_withGetters_iff same).1 candidate)
    rw [outcome, outcome, answer_of_empty empty, missing]
    exact .missing
  · push Not at empty
    obtain ⟨stage, decides⟩ := exists_isFirstStage empty
    have choice := answer_isChoice decides
    have other := answer_isChoice (decides.withGetters same)
    rw [outcome, outcome]
    generalize registry.answer request = one at choice
    generalize (registry.withGetters getters).answer request = two at other
    -- The same stage decides, and whether its most specific getters agree is the same question.
    cases choice with
    | found getter earliest event valueType =>
        cases other with
        | found second chosen _ _ =>
            have specific := (isMostSpecific_withGetters_iff same).1 chosen.1
            apply Agree.found
            · exact event _ _ earliest.1 specific
            · exact valueType _ _ earliest.1 specific
            · exact earliest.1.candidate.time.trans specific.candidate.time.symm
            · rfl
        | events _ differ _ => exact absurd ((agreeOn_withGetters_iff same).2 event) differ
        | valueTypes _ _ differ _ => exact absurd ((agreeOn_withGetters_iff same).2 valueType) differ
    | events keys differ lists =>
        cases other with
        | found _ _ event _ => exact absurd ((agreeOn_withGetters_iff same).1 event) differ
        | events others _ listed => exact .ambiguous rfl rfl ((lists.perm same listed).map _)
        | valueTypes _ event _ _ => exact absurd ((agreeOn_withGetters_iff same).1 event) differ
    | valueTypes keys event differ lists =>
        cases other with
        | found _ _ _ valueType => exact absurd ((agreeOn_withGetters_iff same).1 valueType) differ
        | events _ apart _ => exact absurd ((agreeOn_withGetters_iff same).2 event) apart
        | valueTypes others _ _ listed => exact .ambiguous rfl rfl ((lists.perm same listed).map _)

/-! ## Getters that a request is not about -/

/-- The getter is for another time, or not for the events that the request is about. -/
def Irrelevant (registry : EventRegistry) (request : GetterRequest) (getter : EventGetter) : Prop :=
  getter.time ≠ request.time ∨ ¬ registry.hierarchy.isAssignable request.event getter.event

/-- The second list is the first with more members put in anywhere. -/
inductive Interspersed (extra : EventGetter → Prop) : List EventGetter → List EventGetter → Prop
  | done : Interspersed extra [] []
  | keep {getters more : List EventGetter} (getter : EventGetter)
      (rest : Interspersed extra getters more) :
      Interspersed extra (getter :: getters) (getter :: more)
  | add {getters more : List EventGetter} {getter : EventGetter} (adds : extra getter)
      (rest : Interspersed extra getters more) : Interspersed extra getters (getter :: more)

theorem Interspersed.filter_eq {extra : EventGetter → Prop} {few many : List EventGetter}
    (more : Interspersed extra few many) {keeps : EventGetter → Bool}
    (drops : ∀ getter, extra getter → keeps getter = false) :
    many.filter keeps = few.filter keeps := by
  induction more with
  | done => rfl
  | keep getter _ ih => simp only [List.filter_cons, ih]
  | add adds _ ih => simp [drops _ adds, ih]

theorem not_isApplicable_iff {getter : EventGetter} :
    registry.isApplicable request getter = false ↔ registry.Irrelevant request getter := by
  simp [isApplicable, Irrelevant, Decidable.imp_iff_not_or]

theorem candidates_of_interspersed
    (more : Interspersed (registry.Irrelevant request) registry.getters getters) (stage : Stage) :
    (registry.withGetters getters).candidates request stage = registry.candidates request stage := by
  apply more.filter_eq
  intro getter irrelevant
  have refused : (registry.withGetters getters).isApplicable request getter = false :=
    not_isApplicable_iff.2 irrelevant
  rw [refused, Bool.false_and]

theorem outcome_of_interspersed
    (more : Interspersed (registry.Irrelevant request) registry.getters getters) :
    (registry.withGetters getters).outcome request = registry.outcome request := by
  have same : (registry.withGetters getters).answer request = registry.answer request := by
    simp only [answer_eq, candidates_of_interspersed more]
    rfl
  rw [outcome, outcome, same]
  rfl

end EventRegistry

/-! ## The statement -/

def Environment.withGetters (env : Environment) (getters : List EventGetter) : Environment where
  catalog := env.catalog
  registry := env.registry.withGetters getters
  shared := env.shared

theorem resolve_rearranged (env : Environment) (request : GetterRequest)
    (questions others : List Environment.Question) :
    let registry := env.registry
    let outcome := ((registry.resolve request).run (env.memoryAfter questions)).1
    (∀ getters, getters.Perm registry.getters →
      let other := env.withGetters getters
      EventRegistry.Agree outcome
        ((other.registry.resolve request).run (other.memoryAfter others)).1) ∧
    ∀ getters, EventRegistry.Interspersed (registry.Irrelevant request) registry.getters getters →
      let other := env.withGetters getters
      ((other.registry.resolve request).run (other.memoryAfter others)).1 = outcome := by
  intro registry outcome
  have outcomeIs : outcome = registry.outcome request := env.resolve_eq_outcome questions request
  constructor
  · intro getters permuted other
    rw [outcomeIs, other.resolve_eq_outcome]
    exact EventRegistry.outcome_agree fun getter => permuted.mem_iff
  · intro getters more other
    rw [outcomeIs, other.resolve_eq_outcome]
    exact EventRegistry.outcome_of_interspersed more

theorem resolve_rearranged_diamond :
    let env := Environment.diamond.withGetters EventRegistry.diamond.getters
    let request : GetterRequest := ⟨⟨3⟩, ⟨0⟩, .default, false⟩
    let early : EventGetter :=
      { event := ⟨3⟩, valueType := ⟨0⟩, time := .before, extract := fun _ => none }
    let outcome := ((env.registry.resolve request).run (env.memoryAfter [.resolve request])).1
    let turned := env.withGetters env.registry.getters.reverse
    let larger := env.withGetters (early :: env.registry.getters)
    outcome = .error ⟨"Entity", "Object", ["Located", "Named"]⟩ ∧
      ((turned.registry.resolve request).run {}).1 =
        .error ⟨"Entity", "Object", ["Named", "Located"]⟩ ∧
      EventRegistry.Agree outcome ((turned.registry.resolve request).run {}).1 ∧
      ((larger.registry.resolve request).run {}).1 = outcome := by
  intro env request early outcome turned larger
  obtain ⟨agree, unchanged⟩ := resolve_rearranged env request [.resolve request] []
  refine ⟨rfl, rfl, agree _ (List.reverse_perm _), unchanged _ ?_⟩
  apply EventRegistry.Interspersed.add
  · exact .inl (by decide)
  · exact .keep _ (.keep _ (.keep _ .done))

end HostTypes
