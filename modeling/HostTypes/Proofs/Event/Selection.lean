import HostTypes.Proofs.Hierarchy.Reachability
import HostTypes.Proofs.Query.Questions
import Mathlib.Data.List.MinMax
import Mathlib.Data.List.Nodup

/-!
Which getter answers a request. The stages are tried in order, and the first with a candidate decides:
the most specific of its candidates, of which there is one (`exists_isMostSpecific`), have to agree. The
answer is the same whatever has been asked before (`resolve_mostSpecific`).
-/

namespace HostTypes

/-! ## Distinct keys -/

theorem mem_distinct {key : TypeKey} {keys : List TypeKey} : key ∈ distinct keys ↔ key ∈ keys := by
  induction keys with
  | nil => rfl
  | cons first rest ih =>
      by_cases same : key = first
      · simp [distinct, same]
      · simp [distinct, same, ih]

theorem nodup_distinct (keys : List TypeKey) : (distinct keys).Nodup := by
  induction keys with
  | nil => exact List.nodup_nil
  | cons first rest ih =>
      rw [distinct, List.nodup_cons]
      exact ⟨by simp, ih.filter _⟩

theorem one_lt_length_distinct_iff {keys : List TypeKey} :
    1 < (distinct keys).length ↔ ∃ one ∈ keys, ∃ two ∈ keys, one ≠ two := by
  have nodup := nodup_distinct keys
  have member : ∀ key, key ∈ keys ↔ key ∈ distinct keys := fun _ => mem_distinct.symm
  simp only [member]
  match distinct keys, nodup with
  | [], _ => simp
  | [only], _ => simp
  | one :: two :: rest, nodup =>
      have apart : one ≠ two := fun same => (List.nodup_cons.1 nodup).1 (by simp [same])
      exact ⟨fun _ => ⟨one, by simp, two, by simp, apart⟩, fun _ => by simp⟩

/-! ## Stages -/

inductive Stage where
  | same
  | subtype
  | converted
  deriving DecidableEq, Repr

namespace GetterRequest

def stages (request : GetterRequest) : List Stage :=
  if request.exact then [.same] else [.same, .subtype, .converted]

/-- The type to which the getters of a stage leave the values to be converted. -/
def conversion (request : GetterRequest) : Stage → Option TypeKey
  | .same => none
  | .subtype => none
  | .converted => some request.valueType

end GetterRequest

namespace EventRegistry

variable {registry : EventRegistry} {request : GetterRequest} {stage : Stage}

def serves (registry : EventRegistry) (request : GetterRequest) (getter : EventGetter) : Stage → Bool
  | .same => getter.valueType == request.valueType
  | .subtype => registry.hierarchy.isStrictSubtype getter.valueType request.valueType
  | .converted => registry.graph.converts getter.valueType request.valueType

structure IsCandidate (registry : EventRegistry) (request : GetterRequest) (stage : Stage)
    (getter : EventGetter) : Prop where
  registered : getter ∈ registry.getters
  time : getter.time = request.time
  event : registry.hierarchy.isAssignable request.event getter.event
  serves : registry.serves request getter stage

structure IsMostSpecific (registry : EventRegistry) (request : GetterRequest) (stage : Stage)
    (getter : EventGetter) : Prop where
  candidate : registry.IsCandidate request stage getter
  least : ∀ other, registry.IsCandidate request stage other →
    ¬ registry.hierarchy.isStrictSubtype other.event getter.event

structure IsFirstStage (registry : EventRegistry) (request : GetterRequest) (stage : Stage) :
    Prop where
  inhabited : ∃ getter, registry.IsCandidate request stage getter
  first : ∃ before after, request.stages = before ++ stage :: after ∧
    ∀ earlier ∈ before, ∀ getter, ¬ registry.IsCandidate request earlier getter

def AgreeOn (registry : EventRegistry) (request : GetterRequest) (stage : Stage)
    (key : EventGetter → TypeKey) : Prop :=
  ∀ one two, registry.IsMostSpecific request stage one →
    registry.IsMostSpecific request stage two → key one = key two

structure Lists (registry : EventRegistry) (request : GetterRequest) (stage : Stage)
    (key : EventGetter → TypeKey) (keys : List TypeKey) : Prop where
  nodup : keys.Nodup
  mem_iff : ∀ listed, listed ∈ keys ↔
    ∃ getter, registry.IsMostSpecific request stage getter ∧ key getter = listed

def IsEarliest (registry : EventRegistry) (request : GetterRequest) (stage : Stage)
    (getter : EventGetter) : Prop :=
  registry.IsMostSpecific request stage getter ∧
    ∃ before after, registry.getters = before ++ getter :: after ∧
      ∀ other ∈ before, ¬ registry.IsMostSpecific request stage other

def candidates (registry : EventRegistry) (request : GetterRequest) (stage : Stage) :
    List EventGetter :=
  registry.getters.filter fun getter =>
    registry.isApplicable request getter && registry.serves request getter stage

theorem mem_candidates {getter : EventGetter} :
    getter ∈ registry.candidates request stage ↔ registry.IsCandidate request stage getter := by
  simp only [candidates, List.mem_filter, isApplicable, Bool.and_eq_true, beq_iff_eq]
  exact ⟨fun ⟨registered, ⟨time, event⟩, serves⟩ => ⟨registered, time, event, serves⟩,
    fun ⟨registered, time, event, serves⟩ => ⟨registered, ⟨time, event⟩, serves⟩⟩

theorem candidates_eq_nil_iff :
    registry.candidates request stage = [] ↔
      ∀ getter, ¬ registry.IsCandidate request stage getter := by
  simp only [List.eq_nil_iff_forall_not_mem, mem_candidates]

/-! ## The most specific candidates -/

theorem mem_mostSpecific {getter : EventGetter} :
    getter ∈ registry.mostSpecific (registry.candidates request stage) ↔
      registry.IsMostSpecific request stage getter := by
  simp only [mostSpecific, List.mem_filter, mem_candidates, Bool.not_eq_true', List.any_eq_false]
  exact ⟨fun ⟨candidate, least⟩ => ⟨candidate, least⟩,
    fun ⟨candidate, least⟩ => ⟨candidate, least⟩⟩

theorem exists_isMostSpecific (inhabited : ∃ getter, registry.IsCandidate request stage getter) :
    ∃ getter, registry.IsMostSpecific request stage getter := by
  -- Lower events are declared later, so a candidate whose event comes last will do.
  cases located : (registry.candidates request stage).argmax fun getter => getter.event.index with
  | none =>
      obtain ⟨getter, candidate⟩ := inhabited
      exact absurd candidate (candidates_eq_nil_iff.1 (List.argmax_eq_none.1 located) getter)
  | some getter =>
      refine ⟨getter, mem_candidates.1 (List.argmax_mem located), fun other candidate strict => ?_⟩
      have later : getter.event.index < other.event.index :=
        Hierarchy.index_lt_of_isStrictSubtype strict
      have last := List.le_of_mem_argmax (mem_candidates.2 candidate) located
      omega

theorem IsMostSpecific.unrelated {one two : EventGetter}
    (first : registry.IsMostSpecific request stage one)
    (second : registry.IsMostSpecific request stage two) (apart : one.event ≠ two.event) :
    ¬ registry.hierarchy.isAssignable one.event two.event :=
  fun assignable => second.least one first.candidate
    (Hierarchy.isStrictSubtype_iff.2 ⟨apart, assignable⟩)

theorem head?_mostSpecific {getter : EventGetter}
    (head : (registry.mostSpecific (registry.candidates request stage)).head? = some getter) :
    registry.IsEarliest request stage getter := by
  refine ⟨mem_mostSpecific.1 (List.mem_of_mem_head? head), ?_⟩
  -- Both filters in one, so that the head is a first match among the getters.
  obtain ⟨keeps, filtered⟩ : ∃ keeps, registry.mostSpecific (registry.candidates request stage) =
      registry.getters.filter keeps := ⟨_, List.filter_filter⟩
  rw [filtered, List.head?_filter, List.find?_eq_some_iff_append] at head
  obtain ⟨_, before, after, split, refused⟩ := head
  refine ⟨before, after, split, fun other member specific => ?_⟩
  have kept := mem_mostSpecific.2 specific
  rw [filtered, List.mem_filter] at kept
  have refuses := refused other member
  rw [kept.2] at refuses
  cases refuses

/-! ## The choice in a stage -/

theorem lists_distinct (key : EventGetter → TypeKey) :
    registry.Lists request stage key
      (distinct ((registry.mostSpecific (registry.candidates request stage)).map key)) where
  nodup := nodup_distinct _
  mem_iff := fun listed => by simp only [mem_distinct, List.mem_map, mem_mostSpecific]

theorem Lists.pairwise_unrelated {events : List TypeKey}
    (lists : registry.Lists request stage EventGetter.event events) :
    events.Pairwise fun one two => ¬ registry.hierarchy.isAssignable one two ∧
      ¬ registry.hierarchy.isAssignable two one := by
  refine lists.nodup.imp_of_mem fun {one two} first second apart => ?_
  obtain ⟨earlier, specific, rfl⟩ := (lists.mem_iff one).1 first
  obtain ⟨later, other, rfl⟩ := (lists.mem_iff two).1 second
  exact ⟨specific.unrelated other apart, other.unrelated specific apart.symm⟩

theorem one_lt_length_distinct_map_iff (registry : EventRegistry) (request : GetterRequest)
    (stage : Stage) (key : EventGetter → TypeKey) :
    1 < (distinct ((registry.mostSpecific (registry.candidates request stage)).map key)).length ↔
      ¬ registry.AgreeOn request stage key := by
  rw [one_lt_length_distinct_iff]
  constructor
  · rintro ⟨one, first, two, second, apart⟩ agree
    obtain ⟨earlier, specific, rfl⟩ := List.mem_map.1 first
    obtain ⟨later, other, rfl⟩ := List.mem_map.1 second
    exact apart (agree _ _ (mem_mostSpecific.1 specific) (mem_mostSpecific.1 other))
  · intro differ
    simp only [AgreeOn, not_forall] at differ
    obtain ⟨one, two, first, second, apart⟩ := differ
    exact ⟨key one, List.mem_map_of_mem (mem_mostSpecific.2 first), key two,
      List.mem_map_of_mem (mem_mostSpecific.2 second), apart⟩

/-- What a stage that has candidates may answer. -/
inductive IsChoice (registry : EventRegistry) (request : GetterRequest) (stage : Stage) :
    Resolution → Prop where
  | found (getter : EventGetter) (earliest : registry.IsEarliest request stage getter)
      (event : registry.AgreeOn request stage EventGetter.event)
      (valueType : registry.AgreeOn request stage EventGetter.valueType) :
      IsChoice registry request stage (.found ⟨getter, request.conversion stage⟩)
  | events (keys : List TypeKey) (differ : ¬ registry.AgreeOn request stage EventGetter.event)
      (lists : registry.Lists request stage EventGetter.event keys) :
      IsChoice registry request stage (.ambiguous keys)
  | valueTypes (keys : List TypeKey) (event : registry.AgreeOn request stage EventGetter.event)
      (differ : ¬ registry.AgreeOn request stage EventGetter.valueType)
      (lists : registry.Lists request stage EventGetter.valueType keys) :
      IsChoice registry request stage (.ambiguous keys)

/-- A stage that has candidates never leaves the answer to the next one. -/
theorem select?_isChoice (inhabited : ∃ getter, registry.IsCandidate request stage getter) :
    ∃ resolution, registry.select? (request.conversion stage) (registry.candidates request stage) =
      some resolution ∧ registry.IsChoice request stage resolution := by
  obtain ⟨getter, specific⟩ := exists_isMostSpecific inhabited
  have several := one_lt_length_distinct_map_iff registry request stage
  unfold select?
  split
  · rename_i empty
    have member := mem_mostSpecific.2 specific
    rw [empty] at member
    cases member
  · rename_i first rest chosen
    rw [← chosen]
    by_cases event : registry.AgreeOn request stage EventGetter.event
    · rw [if_neg fun more => (several _).1 more event]
      by_cases valueType : registry.AgreeOn request stage EventGetter.valueType
      · rw [if_neg fun more => (several _).1 more valueType]
        have earliest := head?_mostSpecific (congrArg List.head? chosen)
        exact ⟨_, rfl, .found first earliest event valueType⟩
      · rw [if_pos ((several _).2 valueType)]
        exact ⟨_, rfl, .valueTypes _ event valueType (lists_distinct _)⟩
    · rw [if_pos ((several _).2 event)]
      exact ⟨_, rfl, .events _ event (lists_distinct _)⟩

theorem select?_of_empty (convertTo : Option TypeKey)
    (empty : ∀ getter, ¬ registry.IsCandidate request stage getter) :
    registry.select? convertTo (registry.candidates request stage) = none := by
  rw [candidates_eq_nil_iff.2 empty]
  rfl

/-! ## The answer -/

theorem answer_eq (registry : EventRegistry) (request : GetterRequest) :
    registry.answer request = (request.stages.findSome? fun stage =>
      registry.select? (request.conversion stage) (registry.candidates request stage)).getD
        .missing := by
  have one : registry.sameType request = registry.candidates request .same := rfl
  have two : registry.subtypes request = registry.candidates request .subtype := rfl
  have three : registry.convertible request = registry.candidates request .converted := rfl
  rw [answer, one, two, three]
  cases first : registry.select? none (registry.candidates request .same) with
  | some resolution =>
      cases exact : request.exact <;> simp [GetterRequest.stages, GetterRequest.conversion, exact, first]
  | none =>
      cases exact : request.exact with
      | true => simp [GetterRequest.stages, GetterRequest.conversion, exact, first]
      | false =>
          cases second : registry.select? none (registry.candidates request .subtype) with
          | some resolution =>
              simp [GetterRequest.stages, GetterRequest.conversion, exact, first, second]
          | none =>
              cases third : registry.select? (some request.valueType)
                  (registry.candidates request .converted) <;>
                simp [GetterRequest.stages, GetterRequest.conversion, exact, first, second, third]

theorem answer_of_empty (empty : ∀ stage ∈ request.stages, ∀ getter,
    ¬ registry.IsCandidate request stage getter) : registry.answer request = .missing := by
  rw [answer_eq, List.findSome?_eq_none_iff.2 fun stage member =>
    select?_of_empty _ (empty stage member), Option.getD_none]

theorem answer_isChoice (decides : registry.IsFirstStage request stage) :
    registry.IsChoice request stage (registry.answer request) := by
  obtain ⟨inhabited, before, after, split, empty⟩ := decides
  obtain ⟨resolution, selected, choice⟩ := select?_isChoice inhabited
  have located := List.findSome?_eq_some_iff.2 ⟨before, stage, after, split, selected,
    fun earlier member => select?_of_empty (request.conversion earlier) (empty earlier member)⟩
  rw [answer_eq, located, Option.getD_some]
  exact choice

theorem exists_isFirstStage (inhabited : ∃ stage ∈ request.stages, ∃ getter,
    registry.IsCandidate request stage getter) :
    ∃ stage, registry.IsFirstStage request stage := by
  classical
  obtain ⟨stage, member, getter, candidate⟩ := inhabited
  cases located : request.stages.find? fun stage =>
      ∃ getter, registry.IsCandidate request stage getter with
  | none =>
      have refused := List.find?_eq_none.1 located stage member
      exact absurd (decide_eq_true ⟨getter, candidate⟩) refused
  | some first =>
      obtain ⟨holds, before, after, split, refused⟩ := List.find?_eq_some_iff_append.1 located
      refine ⟨first, of_decide_eq_true holds, before, after, split, ?_⟩
      intro earlier sooner other usable
      have refuses := refused earlier sooner
      rw [decide_eq_true ⟨other, usable⟩] at refuses
      cases refuses

theorem answer_eq_missing_iff :
    registry.answer request = .missing ↔
      ∀ stage ∈ request.stages, ∀ getter, ¬ registry.IsCandidate request stage getter := by
  refine ⟨fun missing stage member getter candidate => ?_, answer_of_empty⟩
  obtain ⟨first, decides⟩ := exists_isFirstStage ⟨stage, member, getter, candidate⟩
  have choice := answer_isChoice decides
  rw [missing] at choice
  cases choice

theorem outcome_eq_none_iff :
    registry.outcome request = .ok none ↔ registry.answer request = .missing := by
  unfold outcome
  cases registry.answer request <;> simp

theorem outcome_eq_some_iff {resolved : ResolvedGetter} :
    registry.outcome request = .ok (some resolved) ↔ registry.answer request = .found resolved := by
  unfold outcome
  cases registry.answer request <;> simp

end EventRegistry

theorem Environment.resolve_eq_outcome (env : Environment) (questions : List Question)
    (request : GetterRequest) :
    ((env.registry.resolve request).run (env.memoryAfter questions)).1 =
      env.registry.outcome request :=
  (env.computes_resolve request _ (env.faithful_memoryAfter questions)).1

/-! ## The statement -/

theorem resolve_mostSpecific (env : Environment) (questions : List Environment.Question)
    (request : GetterRequest) :
    let registry := env.registry
    let memory := env.memoryAfter questions
    let outcome := ((registry.resolve request).run memory).1
    (∀ source target, ((registry.graph.converterExists source target).run memory).1 =
      registry.graph.converts source target) ∧
    (outcome = .ok none ↔ ∀ stage ∈ request.stages, ∀ getter,
      ¬ registry.IsCandidate request stage getter) ∧
    ((∃ stage ∈ request.stages, ∃ getter, registry.IsCandidate request stage getter) →
      ∃ stage, registry.IsFirstStage request stage) ∧
    ∀ stage, registry.IsFirstStage request stage →
      (∃ getter, registry.IsMostSpecific request stage getter) ∧
      ((∃ resolved, outcome = .ok (some resolved)) ↔
        registry.AgreeOn request stage EventGetter.event ∧
          registry.AgreeOn request stage EventGetter.valueType) ∧
      (∀ resolved, outcome = .ok (some resolved) →
        registry.IsEarliest request stage resolved.getter ∧
          resolved.convertTo = request.conversion stage) ∧
      (¬ registry.AgreeOn request stage EventGetter.event → ∃ events,
        outcome = .error (registry.ambiguityError request events) ∧
          registry.Lists request stage EventGetter.event events ∧
          events.Pairwise fun one two => ¬ registry.hierarchy.isAssignable one two ∧
            ¬ registry.hierarchy.isAssignable two one) ∧
      (registry.AgreeOn request stage EventGetter.event →
        ¬ registry.AgreeOn request stage EventGetter.valueType → ∃ valueTypes,
          outcome = .error (registry.ambiguityError request valueTypes) ∧
            registry.Lists request stage EventGetter.valueType valueTypes) := by
  intro registry memory outcome
  have faithful := env.faithful_memoryAfter questions
  have outcomeIs : outcome = _ := (env.computes_resolve request memory faithful).1
  refine ⟨fun source target => ?_, ?_, EventRegistry.exists_isFirstStage, fun stage decides => ?_⟩
  · have computes := env.computes_converterExists source target memory faithful
    rw [← env.shared] at computes
    exact computes.1
  · rw [← EventRegistry.answer_eq_missing_iff, outcomeIs]
    cases registry.answer request <;> simp
  · refine ⟨EventRegistry.exists_isMostSpecific decides.inhabited, ?_⟩
    have choice := EventRegistry.answer_isChoice decides
    have failed : ∀ keys, outcome = .error (registry.ambiguityError request keys) →
        ∀ resolved, outcome ≠ .ok (some resolved) := by
      intro keys ambiguous resolved found
      rw [ambiguous] at found
      cases found
    generalize registry.answer request = resolution at choice outcomeIs
    cases choice with
    | found getter earliest event valueType =>
        refine ⟨⟨fun _ => ⟨event, valueType⟩, fun _ => ⟨_, outcomeIs⟩⟩, fun resolved found => ?_,
          fun differ => absurd event differ, fun _ differ => absurd valueType differ⟩
        rw [outcomeIs] at found
        cases found
        exact ⟨earliest, rfl⟩
    | events keys differ lists =>
        exact ⟨⟨fun ⟨resolved, found⟩ => absurd found (failed keys outcomeIs resolved),
            fun ⟨event, _⟩ => absurd event differ⟩,
          fun resolved found => absurd found (failed keys outcomeIs resolved),
          fun _ => ⟨keys, outcomeIs, lists, lists.pairwise_unrelated⟩,
          fun event => absurd event differ⟩
    | valueTypes keys event differ lists =>
        exact ⟨⟨fun ⟨resolved, found⟩ => absurd found (failed keys outcomeIs resolved),
            fun ⟨_, valueType⟩ => absurd valueType differ⟩,
          fun resolved found => absurd found (failed keys outcomeIs resolved),
          fun different => absurd event different,
          fun _ _ => ⟨keys, outcomeIs, lists⟩⟩

def EventRegistry.diamond : EventRegistry where
  hierarchy := .diamond
  graph := ⟨.diamond, []⟩
  getters := [{ event := ⟨2⟩, valueType := ⟨3⟩, extract := fun _ => none },
    { event := ⟨0⟩, valueType := ⟨3⟩, extract := fun _ => none },
    { event := ⟨1⟩, valueType := ⟨3⟩, extract := fun _ => none }]

example : (EventRegistry.diamond.resolve ⟨⟨3⟩, ⟨0⟩, .default, false⟩).run' {} =
    .error ⟨"Entity", "Object", ["Located", "Named"]⟩ := by
  rfl

end HostTypes
