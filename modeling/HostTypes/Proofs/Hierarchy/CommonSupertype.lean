import HostTypes.Proofs.Hierarchy.Declaring
import Mathlib.Data.List.MinMax

/-!
The common supertype of several types. Of the types that all of them are assignable to the deepest one
is taken, and of several the one declared first (`commonSupertype?_eq_some_iff`). As a strict subtype
lies deeper, no common supertype is below the one taken, which is the least one if there is a least
(`commonSupertype_deepest`).
-/

namespace HostTypes

namespace Hierarchy

variable {hierarchy : Hierarchy} {types others : List TypeKey} {key other least : TypeKey}

/-! ## Declared keys -/

theorem mem_keys : key ∈ hierarchy.keys ↔ hierarchy.contains key := by
  rw [keys, List.mem_map, contains_iff]
  constructor
  · rintro ⟨index, bound, rfl⟩
    exact List.mem_range.1 bound
  · intro bound
    exact ⟨key.index, List.mem_range.2 bound, rfl⟩

theorem keys_ascending (hierarchy : Hierarchy) :
    hierarchy.keys.Pairwise fun earlier later => earlier.index < later.index :=
  List.pairwise_map.2 List.pairwise_lt_range

/-! ## The deepest key -/

/-- Whether one key is taken rather than another: it lies deeper, or as deep and is declared no later. -/
def Prefers (hierarchy : Hierarchy) (key other : TypeKey) : Prop :=
  hierarchy.depth other < hierarchy.depth key ∨
    hierarchy.depth other = hierarchy.depth key ∧ key.index ≤ other.index

theorem Prefers.not_isStrictSubtype (prefers : hierarchy.Prefers key other) :
    ¬ hierarchy.isStrictSubtype other key := by
  intro strict
  have deeper := depth_lt_of_isStrictSubtype strict
  rcases prefers with less | ⟨same, _⟩ <;> omega

theorem prefers_of_isAssignable (assignable : hierarchy.isAssignable key other) :
    hierarchy.Prefers key other := by
  by_cases same : key = other
  · subst same
    exact .inr ⟨rfl, Nat.le_refl _⟩
  · exact .inl (depth_lt_of_isStrictSubtype (isStrictSubtype_iff.2 ⟨same, assignable⟩))

theorem deepest?_eq_argmax (keys : List TypeKey) :
    hierarchy.deepest? keys = keys.argmax hierarchy.depth := by
  unfold deepest? List.argmax
  congr 1
  funext held key
  cases held with
  | none => rfl
  | some held =>
      by_cases deeper : hierarchy.depth held < hierarchy.depth key
      · simp [List.argAux, deeper, Nat.not_le.2 deeper]
      · simp [List.argAux, deeper, Nat.not_lt.1 deeper]

theorem idxOf_le_idxOf_iff {keys : List TypeKey}
    (ascending : keys.Pairwise fun earlier later => earlier.index < later.index)
    (first : key ∈ keys) (second : other ∈ keys) :
    keys.idxOf key ≤ keys.idxOf other ↔ key.index ≤ other.index := by
  have rises : ∀ {one two : TypeKey}, one ∈ keys → two ∈ keys →
      keys.idxOf one < keys.idxOf two → one.index < two.index := by
    intro one two early late before
    have placed := List.pairwise_iff_getElem.1 ascending _ _ (List.idxOf_lt_length_iff.2 early)
      (List.idxOf_lt_length_iff.2 late) before
    rwa [List.getElem_idxOf, List.getElem_idxOf] at placed
  constructor
  · intro before
    rcases Nat.lt_or_eq_of_le before with earlier | same
    · exact Nat.le_of_lt (rises first second earlier)
    · rw [(List.idxOf_inj first).1 same]
  · intro declared
    by_contra after
    have later := rises second first (Nat.lt_of_not_le after)
    omega

theorem deepest?_eq_some_iff {keys : List TypeKey}
    (ascending : keys.Pairwise fun earlier later => earlier.index < later.index) :
    hierarchy.deepest? keys = some key ↔
      key ∈ keys ∧ ∀ other ∈ keys, hierarchy.Prefers key other := by
  rw [deepest?_eq_argmax, List.argmax_eq_some_iff, ← forall₂_and]
  refine and_congr_right fun member => forall₂_congr fun other listed => ?_
  rw [idxOf_le_idxOf_iff ascending member listed, Prefers]
  omega

theorem deepest?_eq_none_iff {keys : List TypeKey} :
    hierarchy.deepest? keys = none ↔ keys = [] := by
  rw [deepest?_eq_argmax, List.argmax_eq_none]

/-! ## Common supertypes -/

def IsCommonSupertype (hierarchy : Hierarchy) (types : List TypeKey) (key : TypeKey) : Prop :=
  ∀ type ∈ types, hierarchy.isAssignable type key

instance (hierarchy : Hierarchy) (types : List TypeKey) (key : TypeKey) :
    Decidable (hierarchy.IsCommonSupertype types key) :=
  inferInstanceAs (Decidable (∀ type ∈ types, hierarchy.isAssignable type key))

structure IsLeastCommonSupertype (hierarchy : Hierarchy) (types : List TypeKey) (least : TypeKey) :
    Prop where
  common : hierarchy.IsCommonSupertype types least
  below : ∀ other, hierarchy.IsCommonSupertype types other → hierarchy.isAssignable least other

theorem IsCommonSupertype.contains (common : hierarchy.IsCommonSupertype types key)
    (nonempty : types ≠ []) : hierarchy.contains key := by
  obtain ⟨type, listed⟩ := List.exists_mem_of_ne_nil types nonempty
  exact contains_of_isAssignable_right (common type listed)

def commonSupertypes (hierarchy : Hierarchy) (types : List TypeKey) : List TypeKey :=
  hierarchy.keys.filter fun key => types.all (hierarchy.isAssignable · key)

theorem mem_commonSupertypes (nonempty : types ≠ []) :
    key ∈ hierarchy.commonSupertypes types ↔ hierarchy.IsCommonSupertype types key := by
  rw [commonSupertypes, List.mem_filter, mem_keys, List.all_eq_true]
  exact ⟨And.right, fun common => ⟨common.contains nonempty, common⟩⟩

theorem commonSupertypes_ascending (hierarchy : Hierarchy) (types : List TypeKey) :
    (hierarchy.commonSupertypes types).Pairwise fun earlier later => earlier.index < later.index :=
  (keys_ascending hierarchy).filter _

theorem commonSupertype?_of_ne_nil (nonempty : types ≠ []) :
    hierarchy.commonSupertype? types = hierarchy.deepest? (hierarchy.commonSupertypes types) :=
  if_neg (by simpa using nonempty)

theorem commonSupertype?_eq_some_iff :
    hierarchy.commonSupertype? types = some key ↔ types ≠ [] ∧
      hierarchy.IsCommonSupertype types key ∧
        ∀ other, hierarchy.IsCommonSupertype types other → hierarchy.Prefers key other := by
  by_cases nonempty : types = []
  · simp [nonempty, commonSupertype?]
  · have ascending := commonSupertypes_ascending hierarchy types
    rw [commonSupertype?_of_ne_nil nonempty, deepest?_eq_some_iff ascending]
    simp only [mem_commonSupertypes nonempty, ne_eq, nonempty, not_false_eq_true, true_and]

theorem commonSupertype?_eq_none_iff :
    hierarchy.commonSupertype? types = none ↔
      types = [] ∨ ¬ ∃ key, hierarchy.IsCommonSupertype types key := by
  by_cases nonempty : types = []
  · simp [nonempty, commonSupertype?]
  · rw [commonSupertype?_of_ne_nil nonempty, deepest?_eq_none_iff, or_iff_right nonempty,
      List.eq_nil_iff_forall_not_mem, not_exists]
    exact forall_congr' fun key => not_congr (mem_commonSupertypes nonempty)

theorem IsLeastCommonSupertype.eq_commonSupertype?
    (isLeast : hierarchy.IsLeastCommonSupertype types least) (nonempty : types ≠ []) :
    hierarchy.commonSupertype? types = some least :=
  commonSupertype?_eq_some_iff.2 ⟨nonempty, isLeast.common, fun other common =>
    prefers_of_isAssignable (isLeast.below other common)⟩

theorem commonSupertype?_congr (same : ∀ type, type ∈ others ↔ type ∈ types) :
    hierarchy.commonSupertype? others = hierarchy.commonSupertype? types := by
  have common : hierarchy.IsCommonSupertype others = hierarchy.IsCommonSupertype types := by
    funext key
    simp only [IsCommonSupertype, same]
  have empty : others = [] ↔ types = [] := by
    simp only [List.eq_nil_iff_forall_not_mem, same]
  ext key
  rw [commonSupertype?_eq_some_iff, commonSupertype?_eq_some_iff, common, ne_eq, ne_eq, empty]

/-! ## Where there is a least one -/

/-- Unless some types have no common supertype at all, they have a least one. -/
def HasLeast (hierarchy : Hierarchy) (types : List TypeKey) : Prop :=
  (∃ key, hierarchy.IsCommonSupertype types key) →
    ∃ least, hierarchy.IsLeastCommonSupertype types least

theorem exists_not_above_of_not_hasLeast (without : ¬ hierarchy.HasLeast types)
    (nonempty : types ≠ []) :
    ∃ key other, hierarchy.commonSupertype? types = some key ∧
      hierarchy.IsCommonSupertype types other ∧ ¬ hierarchy.isAssignable key other := by
  obtain ⟨inhabited, noLeast⟩ := Classical.not_imp.1 without
  cases found : hierarchy.commonSupertype? types with
  | none => exact absurd inhabited ((commonSupertype?_eq_none_iff.1 found).resolve_left nonempty)
  | some key =>
      obtain ⟨_, common, _⟩ := commonSupertype?_eq_some_iff.1 found
      by_contra above
      push Not at above
      exact noLeast ⟨key, common, fun other shared => above key other rfl shared⟩

/-- The supertypes of one type form a chain if no type has two direct supertypes. -/
theorem hasLeast_of_single (single : ∀ sub one two, hierarchy.IsDirectSupertype sub one →
    hierarchy.IsDirectSupertype sub two → one = two) (nonempty : types ≠ []) :
    hierarchy.HasLeast types := by
  by_contra without
  obtain ⟨key, other, found, common, apart⟩ := exists_not_above_of_not_hasLeast without nonempty
  obtain ⟨_, shared, prefers⟩ := commonSupertype?_eq_some_iff.1 found
  obtain ⟨type, listed⟩ := List.exists_mem_of_ne_nil types nonempty
  have chain := Relation.ReflTransGen.total_of_right_unique single
    (reachable_of_isAssignable (shared type listed)) (reachable_of_isAssignable (common type listed))
  rcases chain with above | below
  · exact apart (isAssignable_of_reachable (shared.contains nonempty) above)
  · have assignable := isAssignable_of_reachable (common.contains nonempty) below
    have different : other ≠ key := by
      rintro rfl
      exact apart assignable
    exact (prefers other common).not_isStrictSubtype (isStrictSubtype_iff.2 ⟨different, assignable⟩)

end Hierarchy

/-! ## The statement -/

theorem commonSupertype_deepest (hierarchy : Hierarchy) (types : List TypeKey) :
    let common := hierarchy.commonSupertype? types
    (common = none ↔ types = [] ∨ (∃ type ∈ types, ¬ hierarchy.contains type) ∨
      ¬ ∃ key, hierarchy.IsCommonSupertype types key) ∧
    (∀ key, common = some key →
      hierarchy.IsCommonSupertype types key ∧
      (∀ other, hierarchy.IsCommonSupertype types other →
        ¬ hierarchy.isStrictSubtype other key) ∧
      ∀ other, hierarchy.IsCommonSupertype types other → hierarchy.Prefers key other) ∧
    (types ≠ [] → ∀ least, hierarchy.IsLeastCommonSupertype types least → common = some least) ∧
    ∀ others, (∀ type, type ∈ others ↔ type ∈ types) →
      hierarchy.commonSupertype? others = common := by
  intro common
  refine ⟨?_, fun key found => ?_, fun nonempty least isLeast => ?_, fun others => ?_⟩
  · rw [Hierarchy.commonSupertype?_eq_none_iff]
    refine or_congr_right ⟨.inr, ?_⟩
    rintro (⟨type, listed, undeclared⟩ | none)
    · exact fun ⟨key, common⟩ =>
        undeclared (Hierarchy.contains_of_isAssignable (common type listed))
    · exact none
  · obtain ⟨_, isCommon, prefers⟩ := Hierarchy.commonSupertype?_eq_some_iff.1 found
    exact ⟨isCommon, fun other shared => (prefers other shared).not_isStrictSubtype, prefers⟩
  · exact isLeast.eq_commonSupertype? nonempty
  · exact Hierarchy.commonSupertype?_congr

/-- Players and villagers have two common supertypes besides `Object`, and no least one. -/
theorem commonSupertype_deepest_crossed :
    let common := Hierarchy.crossed.commonSupertype?
    common [⟨4⟩, ⟨3⟩] = some ⟨1⟩ ∧
      (∀ other, Hierarchy.crossed.IsCommonSupertype [⟨4⟩, ⟨3⟩] other →
        ¬ Hierarchy.crossed.isStrictSubtype other ⟨1⟩) ∧
      Hierarchy.crossed.IsCommonSupertype [⟨4⟩, ⟨3⟩] ⟨2⟩ ∧
      ¬ Hierarchy.crossed.isAssignable ⟨1⟩ ⟨2⟩ ∧
      common [⟨3⟩, ⟨2⟩] = some ⟨2⟩ ∧ common [⟨2⟩, ⟨3⟩, ⟨2⟩] = common [⟨3⟩, ⟨2⟩] ∧
      common [⟨3⟩, ⟨5⟩] = none := by
  intro common
  obtain ⟨_, deepest, _, _⟩ := commonSupertype_deepest .crossed [⟨4⟩, ⟨3⟩]
  obtain ⟨none, _, _, _⟩ := commonSupertype_deepest .crossed [⟨3⟩, ⟨5⟩]
  obtain ⟨_, _, least, congr⟩ := commonSupertype_deepest .crossed [⟨3⟩, ⟨2⟩]
  have first : common [⟨4⟩, ⟨3⟩] = some ⟨1⟩ := by decide
  refine ⟨first, (deepest _ first).2.1, by decide, by decide, least (by decide) ⟨2⟩ ⟨by decide, ?_⟩,
    congr _ ?_, none.2 (.inr (.inl ⟨⟨5⟩, by simp, by decide⟩))⟩
  · exact fun other shared => shared ⟨2⟩ (by simp)
  · intro type
    simp only [List.mem_cons, List.not_mem_nil, or_false]
    rw [or_left_comm, or_self]

end HostTypes
