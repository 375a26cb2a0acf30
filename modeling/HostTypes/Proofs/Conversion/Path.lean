import HostTypes.Conversion.Graph
import Mathlib.Data.List.Lex
import Mathlib.Data.Prod.Lex

/-!
Paths of converters, and their order. A search tries paths by length, and those of one length in
lexicographic order; `rank` is the linear order in which it tries them.
-/

namespace HostTypes

namespace ConversionGraph

/-! ## The order of paths -/

/-- The place of a path among all paths: shorter ones first, then by the converters' numbers. -/
def rank (path : List Nat) : ℕ ×ₗ List ℕ :=
  toLex (path.length, path)

theorem rank_lt_iff {first second : List Nat} :
    rank first < rank second ↔
      first.length < second.length ∨ first.length = second.length ∧ first < second :=
  Prod.Lex.toLex_lt_toLex

theorem rank_le_iff {first second : List Nat} :
    rank first ≤ rank second ↔
      first.length < second.length ∨ first.length = second.length ∧ first ≤ second :=
  Prod.Lex.toLex_le_toLex

theorem rank_injective {first second : List Nat} (same : rank first = rank second) :
    first = second :=
  congrArg (fun place => (ofLex place).2) same

theorem rank_nil_le (path : List Nat) : rank [] ≤ rank path := by
  cases path with
  | nil => exact le_refl _
  | cons number rest => exact rank_le_iff.2 (.inl (by simp))

theorem concat_lt_concat {first second : List Nat} (lengths : first.length = second.length)
    (before : first < second) (m n : Nat) : first ++ [m] < second ++ [n] := by
  induction first generalizing second with
  | nil =>
      obtain rfl := List.length_eq_zero_iff.1 lengths.symm
      exact absurd before (lt_irrefl _)
  | cons head tail ih =>
      cases second with
      | nil => cases lengths
      | cons other rest =>
          rw [List.cons_append, List.cons_append, List.cons_lt_cons_iff]
          rcases List.cons_lt_cons_iff.1 before with smaller | ⟨same, later⟩
          · exact .inl smaller
          · exact .inr ⟨same, ih (by simpa using lengths) later⟩

theorem concat_lt_concat_right {m n : Nat} (path : List Nat) (before : m < n) :
    path ++ [m] < path ++ [n] := by
  induction path with
  | nil => exact List.cons_lt_cons_iff.2 (.inl before)
  | cons head tail ih => exact List.cons_lt_cons_iff.2 (.inr ⟨rfl, ih⟩)

theorem rank_concat_lt {first second : List Nat} (before : rank first < rank second) (m n : Nat) :
    rank (first ++ [m]) < rank (second ++ [n]) := by
  rw [rank_lt_iff] at before ⊢
  simp only [List.length_append, List.length_singleton, Nat.add_lt_add_iff_right,
    Nat.add_right_cancel_iff]
  rcases before with shorter | ⟨lengths, smaller⟩
  · exact .inl shorter
  · exact .inr ⟨lengths, concat_lt_concat lengths smaller m n⟩

theorem rank_concat_lt_right {m n : Nat} (path : List Nat) :
    rank (path ++ [m]) < rank (path ++ [n]) ↔ m < n := by
  have rises : ∀ {m n : Nat}, m < n → rank (path ++ [m]) < rank (path ++ [n]) :=
    fun before => rank_lt_iff.2 (.inr ⟨by simp, concat_lt_concat_right path before⟩)
  refine ⟨fun before => ?_, rises⟩
  by_contra after
  rcases Nat.lt_or_eq_of_le (Nat.le_of_not_lt after) with later | rfl
  · exact lt_asymm before (rises later)
  · exact lt_irrefl _ before

theorem rank_concat_le {first second : List Nat} (before : rank first ≤ rank second)
    (number : Nat) : rank (first ++ [number]) ≤ rank (second ++ [number]) := by
  rcases lt_or_eq_of_le before with less | same
  · exact le_of_lt (rank_concat_lt less number number)
  · rw [rank_injective same]

theorem rank_lt_concat (path : List Nat) (number : Nat) : rank path < rank (path ++ [number]) :=
  rank_lt_iff.2 (.inl (by simp))

theorem rank_concat_lt_succ {first second : List Nat} {m n : Nat}
    (before : rank (first ++ [m]) < rank (second ++ [n + 1])) :
    rank (first ++ [m]) < rank (second ++ [n]) ∨ first = second ∧ m = n := by
  rcases lt_trichotomy (rank first) (rank second) with less | same | more
  · exact .inl (rank_concat_lt less m n)
  · obtain rfl := rank_injective same
    rw [rank_concat_lt_right] at before
    rcases Nat.lt_succ_iff_lt_or_eq.1 before with less | rfl
    · exact .inl ((rank_concat_lt_right first).2 less)
    · exact .inr ⟨rfl, rfl⟩
  · exact absurd before (lt_asymm (rank_concat_lt more (n + 1) m))

/-! ## Paths and chains -/

/-- Whether the numbered converters, one after the other, lead from `source` to a type. Each takes
what the one before it gives. -/
inductive Path (graph : ConversionGraph) (source : TypeKey) : List Nat → TypeKey → Prop
  | start : Path graph source [] source
  | step {path : List Nat} {type : TypeKey} {number : Nat} {converter : Converter}
      (previous : Path graph source path type)
      (located : graph.converters[number]? = some converter)
      (applies : graph.hierarchy.isAssignable type converter.source) :
      Path graph source (path ++ [number]) converter.target

def Chainable (graph : ConversionGraph) (path : List Nat) : Prop :=
  ∀ number ∈ path, ∀ converter, graph.converters[number]? = some converter →
    converter.flags.noChaining = false

structure ValidChain (graph : ConversionGraph) (source goal : TypeKey) (chain : List Nat) :
    Prop where
  nonempty : chain ≠ []
  leads : ∃ result, graph.Path source chain result ∧ graph.hierarchy.isAssignable result goal
  chainable : 1 < chain.length → graph.Chainable chain

variable {graph : ConversionGraph} {source goal type : TypeKey} {path chain : List Nat}
  {number : Nat} {converter : Converter}

theorem chainable_concat (located : graph.converters[number]? = some converter) :
    graph.Chainable (path ++ [number]) ↔
      graph.Chainable path ∧ converter.flags.noChaining = false := by
  simp only [Chainable, List.mem_append, List.mem_singleton]
  constructor
  · exact fun all => ⟨fun other member => all other (.inl member),
      all number (.inr rfl) converter located⟩
  · rintro ⟨before, last⟩ other (member | rfl) found place
    · exact before other member found place
    · rw [located, Option.some.injEq] at place
      exact place ▸ last

theorem path_concat_iff {result : TypeKey} :
    graph.Path source (path ++ [number]) result ↔ ∃ type converter, graph.Path source path type ∧
      graph.converters[number]? = some converter ∧
      graph.hierarchy.isAssignable type converter.source ∧ converter.target = result := by
  constructor
  · intro leads
    generalize whole : path ++ [number] = steps at leads
    cases leads with
    | start => simp at whole
    | step previous located applies =>
        obtain ⟨rfl, last⟩ := List.append_inj' whole rfl
        obtain rfl : number = _ := by simpa using last
        exact ⟨_, _, previous, located, applies, rfl⟩
  · rintro ⟨type, converter, previous, located, applies, rfl⟩
    exact .step previous located applies

theorem canFollow_iff {reached : Reached} :
    graph.canFollow reached converter = true ↔
      graph.hierarchy.isAssignable reached.type converter.source ∧
        (converter.flags.noChaining → reached.path = []) := by
  simp [canFollow, Decidable.imp_iff_not_or]

/-- The last step of a chain may be for single use only if it is the first as well. -/
theorem validChain_concat_iff :
    graph.ValidChain source goal (path ++ [number]) ↔ ∃ type converter,
      graph.Path source path type ∧ graph.Chainable path ∧
      graph.converters[number]? = some converter ∧ graph.canFollow ⟨type, path⟩ converter ∧
      graph.hierarchy.isAssignable converter.target goal := by
  have longer : path ≠ [] → 1 < (path ++ [number]).length := by
    intro nonempty
    have positive := List.length_pos_of_ne_nil nonempty
    simpa using positive
  constructor
  · rintro ⟨_, ⟨_, leads, fits⟩, chainable⟩
    obtain ⟨type, converter, previous, located, applies, rfl⟩ := path_concat_iff.1 leads
    refine ⟨type, converter, previous, ?_, located, canFollow_iff.2 ⟨applies, ?_⟩, fits⟩
    · cases path with
      | nil => simp [Chainable]
      | cons head tail =>
          exact ((chainable_concat located).1 (chainable (longer (List.cons_ne_nil _ _)))).1
    · intro single
      by_contra nonempty
      have several := ((chainable_concat located).1 (chainable (longer nonempty))).2
      rw [several] at single
      cases single
  · rintro ⟨type, converter, previous, before, located, follows, fits⟩
    obtain ⟨applies, alone⟩ := canFollow_iff.1 follows
    refine ⟨by simp, ⟨_, .step previous located applies, fits⟩, fun several => ?_⟩
    refine (chainable_concat located).2 ⟨before, Bool.eq_false_of_not_eq_true fun single => ?_⟩
    obtain rfl : path = [] := alone single
    simp at several

end ConversionGraph

end HostTypes
