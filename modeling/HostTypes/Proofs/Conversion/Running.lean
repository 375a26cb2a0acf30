import HostTypes.Proofs.Conversion.Search
import HostTypes.Proofs.Hierarchy.Reachability
import HostTypes.Proofs.Query.Questions

/-!
What a conversion runs. It gives the value itself if that is usable as it is, and else what the
converters of the chain make of it one after the other (`result?_eq_some_iff`). Nothing but the calls
of these converters matters for it (`convert_congr`). If every converter keeps to its target type,
each of them is called with a value of its source type, and what comes out at the end is always
usable (`Runs.usable`).
-/

namespace HostTypes

/-- A converter apart from what it does to values. -/
def Converter.signature (converter : Converter) : TypeKey × TypeKey × ConverterFlags :=
  (converter.source, converter.target, converter.flags)

namespace ConversionGraph

variable {graph other : ConversionGraph} {value input result : Value} {target : TypeKey}
  {chain : List Nat} {number : Nat}

/-! ## Running a chain -/

def made? (graph : ConversionGraph) (number : Nat) (input : Value) : Option Value :=
  graph.converters[number]?.bind fun converter => converter.apply input

inductive Runs (graph : ConversionGraph) (value : Value) : List Nat → Value → Prop
  | start : Runs graph value [] value
  | step {chain : List Nat} {number : Nat} {input result : Value}
      (previous : Runs graph value chain input) (gives : graph.made? number input = some result) :
      Runs graph value (chain ++ [number]) result

theorem applyChain_cons (number : Nat) (rest : List Nat) (value : Value) :
    graph.applyChain (number :: rest) value =
      (graph.made? number value).bind (graph.applyChain rest) := by
  rw [applyChain, made?]
  cases graph.converters[number]? with
  | none => rfl
  | some converter =>
      simp only [Option.bind_some]
      cases converter.apply value <;> rfl

theorem applyChain_append (chain rest : List Nat) (value : Value) :
    graph.applyChain (chain ++ rest) value =
      (graph.applyChain chain value).bind (graph.applyChain rest) := by
  induction chain generalizing value with
  | nil => simp [applyChain]
  | cons number chain ih =>
      rw [List.cons_append, applyChain_cons, applyChain_cons, Option.bind_assoc]
      simp only [ih]

theorem applyChain_concat (chain : List Nat) (number : Nat) (value : Value) :
    graph.applyChain (chain ++ [number]) value =
      (graph.applyChain chain value).bind (graph.made? number) := by
  have single : graph.applyChain [number] = graph.made? number := by
    funext input
    rw [applyChain_cons]
    exact Option.bind_fun_some _
  rw [applyChain_append, single]

theorem applyChain_eq_some_iff :
    graph.applyChain chain value = some result ↔ graph.Runs value chain result := by
  constructor
  · intro applied
    induction chain using List.reverseRecOn generalizing result with
    | nil =>
        obtain rfl : value = result := by simpa [applyChain] using applied
        exact .start
    | append_singleton chain number ih =>
        rw [applyChain_concat] at applied
        obtain ⟨input, before, gives⟩ := Option.bind_eq_some_iff.1 applied
        exact .step (ih before) gives
  · intro runs
    induction runs with
    | start => rfl
    | step _ gives ih => simp [applyChain_concat, ih, gives]

theorem applyChain_eq_none_iff :
    graph.applyChain chain value = none ↔ ∃ before number after input,
      chain = before ++ number :: after ∧ graph.Runs value before input ∧
        graph.made? number input = none := by
  constructor
  · intro failed
    induction chain using List.reverseRecOn with
    | nil => simp [applyChain] at failed
    | append_singleton chain number ih =>
        rw [applyChain_concat] at failed
        cases applied : graph.applyChain chain value with
        | none =>
            obtain ⟨before, stuck, after, input, split, runs, declined⟩ := ih applied
            exact ⟨before, stuck, after ++ [number], input, by simp [split], runs, declined⟩
        | some input =>
            rw [applied, Option.bind_some] at failed
            exact ⟨chain, number, [], input, rfl, applyChain_eq_some_iff.1 applied, failed⟩
  · rintro ⟨before, number, after, input, rfl, runs, declined⟩
    simp [applyChain_append, applyChain_eq_some_iff.2 runs, applyChain_cons, declined]

theorem applyChain_congr (agree : ∀ before number after input, chain = before ++ number :: after →
      graph.Runs value before input → other.made? number input = graph.made? number input) :
    other.applyChain chain value = graph.applyChain chain value := by
  induction chain using List.reverseRecOn with
  | nil => rfl
  | append_singleton chain number ih =>
      -- The calls on the way are also calls of the longer chain.
      have earlier := ih fun before step after input split runs =>
        agree before step (after ++ [number]) input (by simp [split]) runs
      rw [applyChain_concat, applyChain_concat, earlier]
      cases applied : graph.applyChain chain value with
      | none => rfl
      | some input => exact agree chain number [] input rfl (applyChain_eq_some_iff.1 applied)

/-! ## Calls -/

/-- Converting a value calls a numbered converter with an input: it is the next one of the chain when
the converters before it have made that input. -/
def Calls (graph : ConversionGraph) (value : Value) (target : TypeKey) (number : Nat)
    (input : Value) : Prop :=
  ¬ graph.hierarchy.isAssignable value.type target ∧ ∃ before after,
    graph.search value.type target = some (before ++ number :: after) ∧
      graph.Runs value before input

theorem result?_eq_some_iff (different : ¬ graph.hierarchy.isAssignable value.type target) :
    graph.result? value target = some result ↔ graph.hierarchy.isAssignable result.type target ∧
      ∃ chain, graph.search value.type target = some chain ∧ graph.Runs value chain result := by
  simp only [result?, if_neg different, Option.filter_eq_some_iff, Option.bind_eq_some_iff,
    applyChain_eq_some_iff]
  exact and_comm

theorem result?_eq_none_iff (different : ¬ graph.hierarchy.isAssignable value.type target) :
    graph.result? value target = none ↔ graph.search value.type target = none ∨
      (∃ number input, graph.Calls value target number input ∧ graph.made? number input = none) ∨
      ∃ chain result, graph.search value.type target = some chain ∧ graph.Runs value chain result ∧
        ¬ graph.hierarchy.isAssignable result.type target := by
  rw [result?, if_neg different]
  constructor
  · intro failed
    cases found : graph.search value.type target with
    | none => exact .inl rfl
    | some chain =>
        rw [found, Option.bind_some] at failed
        cases applied : graph.applyChain chain value with
        | none =>
            obtain ⟨before, number, after, input, rfl, runs, declined⟩ :=
              applyChain_eq_none_iff.1 applied
            exact .inr (.inl ⟨number, input, ⟨different, before, after, found, runs⟩, declined⟩)
        | some result =>
            have unusable : ¬ graph.hierarchy.isAssignable result.type target := by
              simpa [applied] using failed
            exact .inr (.inr ⟨chain, result, rfl, applyChain_eq_some_iff.1 applied, unusable⟩)
  · rintro (absent | ⟨number, input, ⟨_, before, after, found, runs⟩, declined⟩ |
      ⟨chain, result, found, runs, unusable⟩)
    · simp [absent]
    · simp [found, applyChain_eq_none_iff.2 ⟨before, number, after, input, rfl, runs, declined⟩]
    · simp [found, applyChain_eq_some_iff.2 runs, unusable]

/-! ## Converters that keep to their target types -/

def KeepsTargets (graph : ConversionGraph) : Prop :=
  ∀ converter ∈ graph.converters, ∀ input result, converter.apply input = some result →
    graph.hierarchy.isAssignable result.type converter.target

theorem exists_converter_of_made? (gives : graph.made? number input = some result) :
    ∃ converter, graph.converters[number]? = some converter ∧ converter.apply input = some result :=
  Option.bind_eq_some_iff.1 gives

theorem Runs.fits (keeps : graph.KeepsTargets) {type : TypeKey}
    (leads : graph.Path value.type chain type) (runs : graph.Runs value chain result) :
    result.type = type ∨ graph.hierarchy.isAssignable result.type type := by
  cases runs with
  | start =>
      generalize nothing : [] = path at leads
      cases leads with
      | start => exact .inl rfl
      | step => simp at nothing
  | step previous gives =>
      obtain ⟨_, converter, _, located, _, rfl⟩ := path_concat_iff.1 leads
      obtain ⟨other, place, applied⟩ := exists_converter_of_made? gives
      obtain rfl : converter = other := by simpa [located] using place
      exact .inr (keeps converter (List.mem_of_getElem? located) _ _ applied)

theorem Runs.usable (keeps : graph.KeepsTargets) {type sup : TypeKey}
    (leads : graph.Path value.type chain type) (runs : graph.Runs value chain result)
    (assignable : graph.hierarchy.isAssignable type sup) :
    graph.hierarchy.isAssignable result.type sup := by
  cases runs.fits keeps leads with
  | inl same => rwa [same]
  | inr below => exact Hierarchy.isAssignable_trans below assignable

theorem path_of_append {source type : TypeKey} {before after : List Nat}
    (leads : graph.Path source (before ++ after) type) :
    ∃ middle, graph.Path source before middle := by
  induction after using List.reverseRecOn generalizing type with
  | nil => exact ⟨type, by simpa using leads⟩
  | append_singleton after number ih =>
      rw [← List.append_assoc] at leads
      obtain ⟨earlier, _, previous, _⟩ := path_concat_iff.1 leads
      exact ih previous

theorem path_of_search {source goal : TypeKey} (found : graph.search source goal = some chain) :
    ∃ type, graph.Path source chain type ∧ graph.hierarchy.isAssignable type goal :=
  (validChain_of_search found).leads

theorem exists_converter_of_search {source goal : TypeKey} {before after : List Nat}
    (found : graph.search source goal = some (before ++ number :: after)) :
    ∃ type converter, graph.Path source before type ∧
      graph.converters[number]? = some converter ∧
      graph.hierarchy.isAssignable type converter.source := by
  obtain ⟨_, leads, _⟩ := path_of_search found
  rw [List.append_cons] at leads
  obtain ⟨_, upTo⟩ := path_of_append leads
  obtain ⟨type, converter, previous, located, applies, _⟩ := path_concat_iff.1 upTo
  exact ⟨type, converter, previous, located, applies⟩

theorem Calls.fits (keeps : graph.KeepsTargets) (calls : graph.Calls value target number input) :
    ∃ converter, graph.converters[number]? = some converter ∧
      graph.hierarchy.isAssignable input.type converter.source := by
  obtain ⟨_, before, after, found, runs⟩ := calls
  obtain ⟨type, converter, leads, located, applies⟩ := exists_converter_of_search found
  exact ⟨converter, located, runs.usable keeps leads applies⟩

/-! ## What converters do otherwise does not matter -/

/-- Two graphs differ at most in what their converters do to values. -/
structure SameSignatures (graph other : ConversionGraph) : Prop where
  hierarchy : other.hierarchy = graph.hierarchy
  signatures : other.converters.map Converter.signature = graph.converters.map Converter.signature

namespace SameSignatures

theorem symm (same : graph.SameSignatures other) : other.SameSignatures graph :=
  ⟨same.hierarchy.symm, same.signatures.symm⟩

theorem exists_converter (same : graph.SameSignatures other) {converter : Converter}
    (located : graph.converters[number]? = some converter) :
    ∃ twin, other.converters[number]? = some twin ∧ twin.source = converter.source ∧
      twin.target = converter.target ∧ twin.flags = converter.flags := by
  have place : (other.converters.map Converter.signature)[number]? = some converter.signature := by
    rw [same.signatures, List.getElem?_map, located]
    rfl
  rw [List.getElem?_map, Option.map_eq_some_iff] at place
  obtain ⟨twin, found, alike⟩ := place
  simp only [Converter.signature, Prod.mk.injEq] at alike
  exact ⟨twin, found, alike⟩

theorem path (same : graph.SameSignatures other) {source type : TypeKey}
    (leads : graph.Path source chain type) : other.Path source chain type := by
  induction leads with
  | start => exact .start
  | step _ located applies ih =>
      obtain ⟨twin, place, sources, targets, _⟩ := same.exists_converter located
      rw [← sources, ← same.hierarchy] at applies
      rw [← targets]
      exact .step ih place applies

theorem validChain (same : graph.SameSignatures other) {source goal : TypeKey}
    (valid : graph.ValidChain source goal chain) : other.ValidChain source goal chain := by
  obtain ⟨nonempty, ⟨type, leads, fits⟩, chainable⟩ := valid
  refine ⟨nonempty, ⟨type, same.path leads, same.hierarchy ▸ fits⟩, ?_⟩
  intro several number member twin place
  obtain ⟨converter, located, _, _, flags⟩ := same.symm.exists_converter place
  rw [← flags]
  exact chainable several number member converter located

theorem search_eq (same : graph.SameSignatures other) (source goal : TypeKey) :
    other.search source goal = graph.search source goal := by
  have first := search_isAnswer graph source goal
  have second := search_isAnswer other source goal
  cases one : graph.search source goal with
  | none =>
      rw [one] at first
      cases two : other.search source goal with
      | none => rfl
      | some chain =>
          rw [two] at second
          exact absurd (same.symm.validChain second.1) (first chain)
  | some chain =>
      rw [one] at first
      cases two : other.search source goal with
      | none =>
          rw [two] at second
          exact absurd (same.validChain first.1) (second chain)
      | some twin =>
          rw [two] at second
          -- Each of the two chains is valid in the other graph, so neither comes first.
          have before := second.2 chain (same.validChain first.1)
          have after := first.2 twin (same.symm.validChain second.1)
          rw [rank_injective (le_antisymm before after)]

end SameSignatures

/-! ## The query -/

theorem convert_of_assignable (usable : graph.hierarchy.isAssignable value.type target)
    (memory : Memory) : (graph.convert value target).run memory = (some value, memory) := by
  unfold convert
  rw [if_pos usable]
  rfl

/-- From a memory that has no other chain than that of the search. -/
theorem convert_run (different : ¬ graph.hierarchy.isAssignable value.type target) {memory : Memory}
    (plain : ((graph.chain? value.type target).run memory).1 = graph.search value.type target) :
    (graph.convert value target).run memory =
      (((graph.search value.type target).bind (graph.applyChain · value)).elim (pure none)
        (graph.checkResult target)).run ((graph.chain? value.type target).run memory).2 := by
  obtain ⟨next, isBind, ends⟩ : ∃ next : Option (List Nat) → Query (Option Value),
      graph.convert value target = graph.chain? value.type target >>= next ∧
        ∀ chain, next chain =
          (chain.bind (graph.applyChain · value)).elim (pure none) (graph.checkResult target) := by
    unfold convert
    rw [if_neg different]
    refine ⟨_, rfl, fun chain => ?_⟩
    cases chain.bind (graph.applyChain · value) <;> rfl
  rw [isBind, ← ends, ← plain]
  rfl

theorem notices_chain? (source goal : TypeKey) (memory : Memory) :
    ((graph.chain? source goal).run memory).2.notices = memory.notices := by
  unfold chain?
  cases stored : (Memory.chainsSlot.read memory).get? (source, goal) with
  | some chain =>
      rw [Cache.fetch_of_stored stored]
      rfl
  | none =>
      rw [Cache.fetch_of_missing stored]
      rfl

theorem checkResult_of_assignable (usable : graph.hierarchy.isAssignable result.type target)
    (memory : Memory) : (graph.checkResult target result).run memory = (some result, memory) := by
  unfold checkResult
  rw [if_pos usable]
  rfl

theorem convert_congr (same : graph.SameSignatures other)
    (agree : ∀ number input, graph.Calls value target number input →
      other.made? number input = graph.made? number input) {memory : Memory}
    (plain : ((graph.chain? value.type target).run memory).1 = graph.search value.type target) :
    (other.convert value target).run memory = (graph.convert value target).run memory := by
  by_cases usable : graph.hierarchy.isAssignable value.type target
  · rw [convert_of_assignable usable, convert_of_assignable (same.hierarchy ▸ usable)]
  · have searches := same.search_eq value.type target
    have looksUp : other.chain? value.type target = graph.chain? value.type target := by
      rw [chain?, chain?, searches]
    have checks : other.checkResult target = graph.checkResult target := by
      funext result
      rw [checkResult, checkResult, same.hierarchy]
    have runs : (graph.search value.type target).bind (other.applyChain · value) =
        (graph.search value.type target).bind (graph.applyChain · value) := by
      cases found : graph.search value.type target with
      | none => rfl
      | some chain =>
          apply applyChain_congr
          rintro before number after input rfl earlier
          exact agree number input ⟨usable, before, after, found, earlier⟩
    have twinPlain : ((other.chain? value.type target).run memory).1 =
        other.search value.type target := by
      rw [looksUp, searches, plain]
    rw [convert_run usable plain, convert_run (same.hierarchy ▸ usable) twinPlain, looksUp, checks,
      searches, runs]

theorem notices_convert (keeps : graph.KeepsTargets) {memory : Memory}
    (plain : ((graph.chain? value.type target).run memory).1 = graph.search value.type target) :
    ((graph.convert value target).run memory).2.notices = memory.notices := by
  by_cases usable : graph.hierarchy.isAssignable value.type target
  · rw [convert_of_assignable usable]
  · rw [convert_run usable plain, ← notices_chain? value.type target memory]
    cases made : (graph.search value.type target).bind (graph.applyChain · value) with
    | none => rfl
    | some result =>
        obtain ⟨chain, found, applied⟩ := Option.bind_eq_some_iff.1 made
        obtain ⟨type, leads, fits⟩ := path_of_search found
        have usable := (applyChain_eq_some_iff.1 applied).usable keeps leads fits
        rw [Option.elim_some, checkResult_of_assignable usable]

end ConversionGraph

/-! ## The statement -/

theorem convert_runs (env : Environment) (questions : List Environment.Question) (value : Value)
    (target : TypeKey) :
    let graph := env.catalog.graph
    let memory := env.memoryAfter questions
    let outcome := ((graph.convert value target).run memory).1
    (graph.hierarchy.isAssignable value.type target →
      (graph.convert value target).run memory = (some value, memory) ∧
        ∀ number input, ¬ graph.Calls value target number input) ∧
    (¬ graph.hierarchy.isAssignable value.type target →
      (∀ result, outcome = some result ↔ graph.hierarchy.isAssignable result.type target ∧
        ∃ chain, graph.search value.type target = some chain ∧ graph.Runs value chain result) ∧
      (outcome = none ↔ graph.search value.type target = none ∨
        (∃ number input, graph.Calls value target number input ∧
          graph.made? number input = none) ∨
        ∃ chain result, graph.search value.type target = some chain ∧
          graph.Runs value chain result ∧
          ¬ graph.hierarchy.isAssignable result.type target)) ∧
    (∀ other, graph.SameSignatures other →
      (∀ number input, graph.Calls value target number input →
        other.made? number input = graph.made? number input) →
      (other.convert value target).run memory = (graph.convert value target).run memory) ∧
    (graph.KeepsTargets →
      (∀ number input, graph.Calls value target number input →
        ∃ converter, graph.converters[number]? = some converter ∧
          graph.hierarchy.isAssignable input.type converter.source) ∧
      (∀ chain result, graph.search value.type target = some chain →
        graph.Runs value chain result → graph.hierarchy.isAssignable result.type target) ∧
      ((graph.convert value target).run memory).2.notices = memory.notices) := by
  intro graph memory outcome
  have faithful := env.faithful_memoryAfter questions
  have outcomeIs : outcome = graph.result? value target :=
    (env.computes_convert value target memory faithful).1
  have plain := (env.computes_chain value.type target memory faithful).1
  rw [outcomeIs]
  refine ⟨fun usable => ⟨?_, ?_⟩, fun different => ⟨?_, ?_⟩, ?_, fun keeps => ⟨?_, ?_, ?_⟩⟩
  · exact ConversionGraph.convert_of_assignable usable memory
  · exact fun number input calls => calls.1 usable
  · exact fun result => ConversionGraph.result?_eq_some_iff different
  · exact ConversionGraph.result?_eq_none_iff different
  · exact fun other same agree => ConversionGraph.convert_congr same agree plain
  · exact fun number input calls => calls.fits keeps
  · intro chain result found runs
    obtain ⟨type, leads, fits⟩ := ConversionGraph.path_of_search found
    exact runs.usable keeps leads fits
  · exact ConversionGraph.notices_convert keeps plain

/-- Two converters in a row. The first declines units if it is guarded. -/
def ConversionGraph.bridge (guarded : Bool) : ConversionGraph where
  hierarchy := .diamond
  converters :=
    [{ source := ⟨1⟩, target := ⟨2⟩
       apply := fun value =>
        if guarded && value.payload == .unit then none else some ⟨⟨2⟩, value.payload⟩ },
      { source := ⟨2⟩, target := ⟨3⟩, apply := fun value => some ⟨⟨3⟩, value.payload⟩ }]

def Environment.bridge : Environment :=
  ⟨⟨.diamond, {}, [], .bridge false, []⟩, ⟨.diamond, .bridge false, []⟩, rfl⟩

theorem ConversionGraph.bridge_keepsTargets (guarded : Bool) : (bridge guarded).KeepsTargets := by
  have usable : ∀ number < 4, Hierarchy.diamond.isAssignable ⟨number⟩ ⟨number⟩ := by decide
  intro converter member input result gives
  rcases List.mem_cons.1 member with rfl | member
  · obtain ⟨_, rfl⟩ : _ ∧ (⟨⟨2⟩, input.payload⟩ : Value) = result := by simpa using gives
    exact usable 2 (by decide)
  · obtain rfl := List.mem_singleton.1 member
    cases gives
    exact usable 3 (by decide)

theorem convert_runs_bridge :
    let env := Environment.bridge
    let graph := env.catalog.graph
    let memory := env.memoryAfter [.converterExists ⟨1⟩ ⟨3⟩]
    let value : Value := ⟨⟨1⟩, .truth true⟩
    let halfway : Value := ⟨⟨2⟩, .truth true⟩
    ((graph.convert value ⟨3⟩).run memory).1 = some ⟨⟨3⟩, .truth true⟩ ∧
      ((graph.convert value ⟨3⟩).run memory).2.notices = memory.notices ∧
      graph.Calls value ⟨3⟩ 1 halfway ∧
      (∃ converter, graph.converters[1]? = some converter ∧
        graph.hierarchy.isAssignable halfway.type converter.source) ∧
      ((ConversionGraph.bridge true).convert value ⟨3⟩).run memory =
        (graph.convert value ⟨3⟩).run memory ∧
      (graph.convert halfway ⟨0⟩).run memory = (some halfway, memory) := by
  intro env graph memory value halfway
  have different : ¬ graph.hierarchy.isAssignable value.type ⟨3⟩ := by decide
  have found : graph.search value.type ⟨3⟩ = some [0, 1] := by rfl
  have first : graph.Runs value [0] halfway :=
    ConversionGraph.applyChain_eq_some_iff.1 rfl
  have calls : graph.Calls value ⟨3⟩ 1 halfway := ⟨different, [0], [], found, first⟩
  obtain ⟨_, converts, congr, typed⟩ := convert_runs env [.converterExists ⟨1⟩ ⟨3⟩] value ⟨3⟩
  obtain ⟨fits, _, notices⟩ := typed (ConversionGraph.bridge_keepsTargets false)
  obtain ⟨identity, _⟩ := convert_runs env [.converterExists ⟨1⟩ ⟨3⟩] halfway ⟨0⟩
  refine ⟨?_, notices, calls, fits 1 halfway calls, congr _ ⟨rfl, rfl⟩ ?_, (identity (by decide)).1⟩
  · refine ((converts different).1 _).2 ⟨by decide, [0, 1], found, ?_⟩
    exact ConversionGraph.applyChain_eq_some_iff.1 rfl
  · rintro number input ⟨_, before, after, again, runs⟩
    have split : before ++ number :: after = [0, 1] := by
      rw [found, Option.some.injEq] at again
      exact again.symm
    cases before with
    | nil =>
        cases ConversionGraph.applyChain_eq_some_iff.2 runs
        cases split
        rfl
    | cons step rest =>
        cases rest with
        | nil =>
            cases split
            rfl
        | cons => simp at split

end HostTypes
