import HostTypes.Proofs.Conversion.Search
import HostTypes.Proofs.Hierarchy.Reachability
import HostTypes.Proofs.Query.Questions

/-!
Which conversions there are, beside subtyping. A chain can be joined to any path whose end is usable
where the chain starts (`Path.append`); joined to no step at all, it starts at a subtype. As the search
misses no chain, a conversion between two types is one from every subtype of the first to every
supertype of the second, and conversions compose where every converter may be part of a longer chain
(`converterExists_composes`).
-/

namespace HostTypes

namespace ConversionGraph

variable {graph : ConversionGraph} {source start middle goal result : TypeKey}
  {chain rest : List Nat}

/-! ## Joining chains -/

theorem Path.append (first : graph.Path source chain middle)
    (joint : graph.hierarchy.isAssignable middle start) (second : graph.Path start rest result)
    (nonempty : rest ≠ []) : graph.Path source (chain ++ rest) result := by
  induction second with
  | start => exact absurd rfl nonempty
  | @step path type number converter previous located applies ih =>
      rw [← List.append_assoc]
      cases path with
      | nil =>
          -- Only the first step sees where the path starts.
          obtain rfl : start = type := by
            generalize nothing : [] = path at previous
            cases previous with
            | start => rfl
            | step => simp at nothing
          rw [List.append_nil]
          exact .step first located (Hierarchy.isAssignable_trans joint applies)
      | cons head tail => exact .step (ih (List.cons_ne_nil _ _)) located applies

theorem ValidChain.narrow (narrows : graph.hierarchy.isAssignable source start)
    (valid : graph.ValidChain start goal chain) : graph.ValidChain source goal chain := by
  obtain ⟨nonempty, ⟨result, leads, fits⟩, chainable⟩ := valid
  exact ⟨nonempty, ⟨result, Path.append .start narrows leads nonempty, fits⟩, chainable⟩

theorem ValidChain.widen (valid : graph.ValidChain source middle chain)
    (widens : graph.hierarchy.isAssignable middle goal) : graph.ValidChain source goal chain := by
  obtain ⟨nonempty, ⟨result, leads, fits⟩, chainable⟩ := valid
  exact ⟨nonempty, ⟨result, leads, Hierarchy.isAssignable_trans fits widens⟩, chainable⟩

def Unrestricted (graph : ConversionGraph) : Prop :=
  ∀ converter ∈ graph.converters, converter.flags.noChaining = false

theorem Unrestricted.chainable (free : graph.Unrestricted) (chain : List Nat) :
    graph.Chainable chain :=
  fun _ _ converter located => free converter (List.mem_of_getElem? located)

theorem ValidChain.append (free : graph.Unrestricted) (first : graph.ValidChain source middle chain)
    (second : graph.ValidChain middle goal rest) : graph.ValidChain source goal (chain ++ rest) := by
  obtain ⟨_, ⟨_, toMiddle, joint⟩, _⟩ := first
  obtain ⟨nonempty, ⟨result, toGoal, fits⟩, _⟩ := second
  exact ⟨List.append_ne_nil_of_right_ne_nil _ nonempty,
    ⟨result, toMiddle.append joint toGoal nonempty, fits⟩, fun _ => free.chainable _⟩

/-! ## Whether there is a conversion -/

theorem converts_iff : graph.converts source goal = true ↔
    graph.hierarchy.isAssignable source goal ∨ ∃ chain, graph.ValidChain source goal chain := by
  have answer := search_isAnswer graph source goal
  rw [converts, Bool.or_eq_true]
  refine or_congr_right ?_
  cases found : graph.search source goal with
  | none =>
      rw [found] at answer
      exact ⟨nofun, fun ⟨chain, valid⟩ => absurd valid (answer chain)⟩
  | some chain =>
      rw [found] at answer
      exact ⟨fun _ => ⟨chain, answer.1⟩, fun _ => rfl⟩

theorem converts_narrow (narrows : graph.hierarchy.isAssignable source start)
    (converts : graph.converts start goal) : graph.converts source goal := by
  refine converts_iff.2 ?_
  rcases converts_iff.1 converts with usable | ⟨chain, valid⟩
  · exact .inl (Hierarchy.isAssignable_trans narrows usable)
  · exact .inr ⟨chain, valid.narrow narrows⟩

theorem converts_widen (converts : graph.converts source middle)
    (widens : graph.hierarchy.isAssignable middle goal) : graph.converts source goal := by
  refine converts_iff.2 ?_
  rcases converts_iff.1 converts with usable | ⟨chain, valid⟩
  · exact .inl (Hierarchy.isAssignable_trans usable widens)
  · exact .inr ⟨chain, valid.widen widens⟩

theorem converts_trans (free : graph.Unrestricted) (first : graph.converts source middle)
    (second : graph.converts middle goal) : graph.converts source goal := by
  rcases converts_iff.1 first with narrows | ⟨chain, toMiddle⟩
  · exact converts_narrow narrows second
  · rcases converts_iff.1 second with widens | ⟨rest, toGoal⟩
    · exact converts_widen first widens
    · exact converts_iff.2 (.inr ⟨chain ++ rest, toMiddle.append free toGoal⟩)

end ConversionGraph

/-! ## The statement -/

theorem converterExists_composes (env : Environment) :
    let graph := env.catalog.graph
    let answer (questions : List Environment.Question) (source target : TypeKey) : Bool :=
      ((graph.converterExists source target).run (env.memoryAfter questions)).1
    (∀ earlier later sub source target sup, graph.hierarchy.isAssignable sub source →
      answer earlier source target → graph.hierarchy.isAssignable target sup →
        answer later sub sup) ∧
    ((∀ converter ∈ graph.converters, converter.flags.noChaining = false) →
      ∀ earlier next later source middle target, answer earlier source middle →
        answer next middle target → answer later source target) := by
  intro graph answer
  have plain questions source target : answer questions source target = graph.converts source target :=
    (env.computes_converterExists source target _ (env.faithful_memoryAfter questions)).1
  simp only [plain]
  refine ⟨?_, ?_⟩
  · intro _ _ sub source target sup narrows converts widens
    exact ConversionGraph.converts_widen (ConversionGraph.converts_narrow narrows converts) widens
  · exact fun free _ _ _ _ _ _ => ConversionGraph.converts_trans free

/-- Whatever is an object can be had as a located thing, and that as an entity. -/
def ConversionGraph.ladder (single : Bool) : ConversionGraph where
  hierarchy := .diamond
  converters :=
    [{ source := ⟨0⟩, target := ⟨2⟩, flags := { noChaining := single }
       apply := fun value => some ⟨⟨2⟩, value.payload⟩ },
      { source := ⟨2⟩, target := ⟨3⟩, apply := fun value => some ⟨⟨3⟩, value.payload⟩ }]

def Environment.ladder : Environment :=
  ⟨⟨.diamond, {}, [], .ladder false, []⟩, ⟨.diamond, .ladder false, []⟩, rfl⟩

theorem converterExists_composes_ladder :
    let graph := Environment.ladder.catalog.graph
    let answer (source target : TypeKey) : Bool :=
      ((graph.converterExists source target).run (Environment.ladder.memoryAfter [])).1
    ¬ graph.hierarchy.isAssignable ⟨1⟩ ⟨2⟩ ∧ answer ⟨1⟩ ⟨2⟩ ∧
      answer ⟨0⟩ ⟨2⟩ ∧ answer ⟨2⟩ ⟨3⟩ ∧ answer ⟨0⟩ ⟨3⟩ := by
  intro graph answer
  obtain ⟨between, composes⟩ := converterExists_composes .ladder
  have first : answer ⟨0⟩ ⟨2⟩ := rfl
  have second : answer ⟨2⟩ ⟨3⟩ := rfl
  have both : answer ⟨0⟩ ⟨3⟩ := composes (by decide) [] [] [] _ _ _ first second
  exact ⟨by decide, between [] [] ⟨1⟩ ⟨0⟩ ⟨3⟩ ⟨2⟩ (by decide) both (by decide), first, second, both⟩

/-- A converter for single use cannot be followed by another one. -/
example : (ConversionGraph.ladder true).converts ⟨0⟩ ⟨2⟩ = true ∧
    (ConversionGraph.ladder true).converts ⟨2⟩ ⟨3⟩ = true ∧
      (ConversionGraph.ladder true).converts ⟨0⟩ ⟨3⟩ = false := by
  decide

end HostTypes
