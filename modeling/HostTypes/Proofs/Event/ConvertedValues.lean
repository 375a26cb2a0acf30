import HostTypes.Proofs.Conversion.Composing
import HostTypes.Proofs.Conversion.Running
import HostTypes.Proofs.Event.Selection
import HostTypes.Proofs.Query.Ensuring

/-!
The values of a getter that was chosen because its values convert. It was chosen by their declared type,
but each value is converted from its own type, along a chain of its own. There is such a chain whenever
the value has the declared type, since a chain also starts at every subtype of its start
(`converts_narrow`); so a value is lost only to a converter that declines it or does not keep to its
target type (`exists_failing_call`).
-/

namespace HostTypes

/-! ## Why a value is lost -/

namespace ConversionGraph

variable {graph : ConversionGraph} {value input result : Value} {target : TypeKey}
  {chain : List Nat} {number : Nat}

/-- What the converter makes of the input is nothing, or is not of its target type. -/
def FailsOn (graph : ConversionGraph) (number : Nat) (input : Value) : Prop :=
  ∃ converter, graph.converters[number]? = some converter ∧
    ∀ result, converter.apply input = some result →
      ¬ graph.hierarchy.isAssignable result.type converter.target

theorem Calls.failsOn_of_declined (calls : graph.Calls value target number input)
    (declined : graph.made? number input = none) : graph.FailsOn number input := by
  obtain ⟨_, before, after, found, _⟩ := calls
  obtain ⟨_, converter, _, located, _⟩ := exists_converter_of_search found
  rw [made?, located, Option.bind_some] at declined
  refine ⟨converter, located, fun result gives => ?_⟩
  rw [declined] at gives
  cases gives

/-- An unusable result is the fault of the last converter of the chain. -/
theorem exists_failing_call_of_unusable (different : ¬ graph.hierarchy.isAssignable value.type target)
    (found : graph.search value.type target = some chain) (runs : graph.Runs value chain result)
    (unusable : ¬ graph.hierarchy.isAssignable result.type target) :
    ∃ number input, graph.Calls value target number input ∧ graph.FailsOn number input := by
  obtain ⟨nonempty, ⟨type, leads, fits⟩, _⟩ := validChain_of_search found
  cases runs with
  | start => exact absurd rfl nonempty
  | @step before number input _ previous gives =>
      refine ⟨number, input, ⟨different, before, [], found, previous⟩, ?_⟩
      -- The chain was found to end at its target type, which is usable as the goal.
      obtain ⟨_, converter, _, located, _, rfl⟩ := path_concat_iff.1 leads
      refine ⟨converter, located, fun again made fitting => unusable ?_⟩
      rw [made?, located, Option.bind_some, made, Option.some.injEq] at gives
      subst gives
      exact Hierarchy.isAssignable_trans fitting fits

theorem exists_failing_call (converts : graph.converts value.type target)
    (lost : graph.result? value target = none) :
    ∃ number input, graph.Calls value target number input ∧ graph.FailsOn number input := by
  have different : ¬ graph.hierarchy.isAssignable value.type target := by
    intro usable
    rw [result?, if_pos usable] at lost
    cases lost
  rcases (result?_eq_none_iff different).1 lost with absent | ⟨number, input, calls, declined⟩ |
    ⟨chain, result, found, runs, unusable⟩
  · simp [ConversionGraph.converts, different, absent] at converts
  · exact ⟨number, input, calls, calls.failsOn_of_declined declined⟩
  · exact exists_failing_call_of_unusable different found runs unusable

end ConversionGraph

/-! ## Getters chosen for their conversions -/

namespace EventRegistry

variable {registry : EventRegistry} {request : GetterRequest} {resolved : ResolvedGetter}

theorem candidate_of_answer (found : registry.answer request = .found resolved) :
    ∃ stage, registry.IsCandidate request stage resolved.getter ∧
      resolved.convertTo = request.conversion stage := by
  have inhabited : ∃ stage ∈ request.stages, ∃ getter, registry.IsCandidate request stage getter := by
    by_contra none
    push Not at none
    rw [answer_of_empty none] at found
    cases found
  obtain ⟨stage, decides⟩ := exists_isFirstStage inhabited
  have choice := answer_isChoice decides
  rw [found] at choice
  cases choice with
  | found getter earliest => exact ⟨stage, earliest.1.candidate, rfl⟩

theorem converts_of_answer (found : registry.answer request = .found resolved)
    (converted : resolved.convertTo.isSome) :
    resolved.convertTo = some request.valueType ∧
      registry.graph.converts resolved.getter.valueType request.valueType := by
  obtain ⟨stage, candidate, conversion⟩ := candidate_of_answer found
  rw [conversion] at converted ⊢
  cases stage with
  | same => cases converted
  | subtype => cases converted
  | converted => exact ⟨rfl, candidate.serves⟩

theorem extracted?_of_converted {target : TypeKey} (converted : resolved.convertTo = some target)
    (event : Value) : registry.extracted? resolved event =
      (resolved.getter.extract event).bind fun extracted =>
        extracted.filterMap (registry.graph.result? · target) := by
  unfold extracted?
  rw [converted]
  cases resolved.getter.extract event <;> rfl

end EventRegistry

theorem Extracted.mem_of_filterMap {f : Value → Option Value} {extracted kept : Extracted}
    (mapped : extracted.filterMap f = some kept) {value : Value} (member : value ∈ kept.toList) :
    ∃ original ∈ extracted.toList, f original = some value := by
  cases extracted with
  | one original =>
      obtain ⟨image, gives, rfl⟩ := Option.map_eq_some_iff.1 mapped
      obtain rfl := List.mem_singleton.1 member
      exact ⟨original, List.mem_singleton_self _, gives⟩
  | many originals =>
      unfold filterMap at mapped
      dsimp only at mapped
      split at mapped
      · cases mapped
      · cases mapped
        exact List.mem_filterMap.1 member

/-! ## The statement -/

theorem extract_converted (env : Environment) (earlier later : List Environment.Question)
    (request : GetterRequest) (resolved : ResolvedGetter)
    (found : ((env.registry.resolve request).run (env.memoryAfter earlier)).1 = .ok (some resolved))
    (converted : resolved.convertTo.isSome) (event : Value) :
    let graph := env.registry.graph
    let target := request.valueType
    let extracted := resolved.getter.extract event
    let outcome := ((env.registry.extract resolved event).run (env.memoryAfter later)).1
    let convert (value : Value) : Option Value :=
      ((graph.convert value target).run (env.memoryAfter later)).1
    resolved.convertTo = some target ∧
    (∀ kept, outcome = some kept →
      ∀ value ∈ kept.toList, graph.hierarchy.isAssignable value.type target) ∧
    (extracted = none → outcome = none) ∧
    (∀ value, extracted = some (.one value) → outcome = (convert value).map .one) ∧
    (∀ values, extracted = some (.many values) →
      outcome = if values.filterMap convert = [] then none
        else some (.many (values.filterMap convert))) ∧
    ∀ values, extracted = some values → ∀ value ∈ values.toList,
      graph.hierarchy.isAssignable value.type resolved.getter.valueType →
        (graph.hierarchy.isAssignable value.type target ∨
          ∃ chain, graph.ValidChain value.type target chain) ∧
        (convert value = none → ∃ number input, graph.Calls value target number input ∧
          graph.FailsOn number input) := by
  intro graph target extracted outcome convert
  have chosen : env.registry.answer request = .found resolved :=
    EventRegistry.outcome_eq_some_iff.1 ((env.resolve_eq_outcome earlier request).symm.trans found)
  obtain ⟨toTarget, converts⟩ := EventRegistry.converts_of_answer chosen converted
  have convertIs : convert = fun value => graph.result? value target := by
    funext value
    have computes := env.computes_convert value target _ (env.faithful_memoryAfter later)
    rw [← env.shared] at computes
    exact computes.1
  have outcomeIs : outcome = extracted.bind fun values => values.filterMap convert := by
    rw [convertIs, ← EventRegistry.extracted?_of_converted toTarget]
    exact (env.ensures_extract resolved event).holds (env.faithful_memoryAfter later)
  rw [outcomeIs]
  refine ⟨toTarget, fun kept mapped value member => ?_, fun nothing => ?_,
    fun value single => ?_, fun values several => ?_, fun values given value member fits => ⟨?_, fun lost => ?_⟩⟩
  · obtain ⟨values, _, maps⟩ := Option.bind_eq_some_iff.1 mapped
    obtain ⟨original, _, gives⟩ := Extracted.mem_of_filterMap maps member
    rw [convertIs] at gives
    exact ConversionGraph.isAssignable_of_result? gives
  · rw [nothing]
    rfl
  · rw [single]
    rfl
  · rw [several]
    simp [Extracted.filterMap]
  · exact ConversionGraph.converts_iff.1 (ConversionGraph.converts_narrow fits converts)
  · rw [convertIs] at lost
    exact ConversionGraph.exists_failing_call (ConversionGraph.converts_narrow fits converts) lost

/-- Something named is extracted from every event, with a unit that the converter declines and an
entity. -/
def Environment.guarded : Environment where
  catalog := ⟨.diamond, {}, [], .bridge true, []⟩
  registry :=
    { hierarchy := .diamond
      graph := .bridge true
      getters :=
        [{ event := ⟨0⟩, valueType := ⟨1⟩, supportsMultiple := true
           extract := fun event =>
            some (.many [⟨⟨1⟩, event.payload⟩, ⟨⟨1⟩, .unit⟩, ⟨⟨3⟩, .unit⟩]) }] }
  shared := rfl

theorem extract_converted_guarded :
    let env := Environment.guarded
    let graph := env.registry.graph
    let memory := env.memoryAfter [.converterExists ⟨1⟩ ⟨3⟩]
    let event : Value := ⟨⟨3⟩, .truth true⟩
    ∃ resolved,
      ((env.registry.resolve ⟨⟨3⟩, ⟨3⟩, .default, false⟩).run {}).1 = .ok (some resolved) ∧
        resolved.convertTo.isSome ∧
        ((env.registry.extract resolved event).run memory).1 =
          some (.many [⟨⟨3⟩, .truth true⟩, ⟨⟨3⟩, .unit⟩]) ∧
        (∃ chain, graph.ValidChain ⟨1⟩ ⟨3⟩ chain) ∧
        ∃ number input, graph.Calls ⟨⟨1⟩, .unit⟩ ⟨3⟩ number input ∧ graph.FailsOn number input := by
  intro env graph memory event
  have named : graph.hierarchy.isAssignable ⟨1⟩ ⟨1⟩ := by decide
  have different : ¬ graph.hierarchy.isAssignable ⟨1⟩ ⟨3⟩ := by decide
  refine ⟨_, rfl, rfl, ?_⟩
  obtain ⟨_, _, _, _, several, typed⟩ :=
    extract_converted env [] [.converterExists ⟨1⟩ ⟨3⟩] ⟨⟨3⟩, ⟨3⟩, .default, false⟩ _ rfl rfl event
  obtain ⟨converts, fails⟩ := typed _ rfl ⟨⟨1⟩, .unit⟩ (by simp [Extracted.toList]) named
  exact ⟨several _ rfl, converts.resolve_left different, fails rfl⟩

end HostTypes
