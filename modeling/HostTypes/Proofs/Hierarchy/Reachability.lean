import HostTypes.Hierarchy
import Mathlib.Data.List.Induction
import Mathlib.Logic.Relation

/-!
The hierarchy as an order on keys. The ancestor sets are computed in one pass over the declarations;
as supertypes come before their subtypes, the pass finds everything that can be reached along direct
supertypes (`isAssignable_iff_reachable`). Assignability is thus transitive, reflexive on declared
keys, and leads from later keys to earlier ones only.
-/

namespace HostTypes

theorem TypeKey.index_inj {first second : TypeKey} :
    first.index = second.index ↔ first = second := by
  cases first
  cases second
  simp

/-! ## The table of ancestors -/

theorem ancestorTable_concat (rows : List Declaration) (row : Declaration) :
    ancestorTable (rows ++ [row]) = ancestorTable rows ++ [ancestorsOf (ancestorTable rows) row] := by
  simp [ancestorTable, List.foldl_append]

theorem length_ancestorTable (rows : List Declaration) :
    (ancestorTable rows).length = rows.length := by
  induction rows using List.reverseRecOn with
  | nil => rfl
  | append_singleton rows row ih => simp [ancestorTable_concat, ih]

theorem ancestorTable_prefix (earlier later : List Declaration) :
    ancestorTable earlier <+: ancestorTable (earlier ++ later) := by
  induction later using List.reverseRecOn with
  | nil => simp
  | append_singleton later row ih =>
      rw [← List.append_assoc, ancestorTable_concat]
      exact ih.trans (List.prefix_append _ _)

theorem getElem?_ancestorTable_of_lt (earlier later : List Declaration) {index : Nat}
    (bound : index < earlier.length) :
    (ancestorTable (earlier ++ later))[index]? = (ancestorTable earlier)[index]? := by
  obtain ⟨more, split⟩ := ancestorTable_prefix earlier later
  rw [← split, List.getElem?_append_left (by rwa [length_ancestorTable])]

theorem getElem?_ancestorTable_length (earlier later : List Declaration) (row : Declaration) :
    (ancestorTable (earlier ++ row :: later))[earlier.length]? =
      some (ancestorsOf (ancestorTable earlier) row) := by
  have inside : earlier.length < (earlier ++ [row]).length := by simp
  have step := getElem?_ancestorTable_of_lt (earlier ++ [row]) later inside
  rw [List.append_assoc, List.singleton_append] at step
  rw [step, ancestorTable_concat, ← length_ancestorTable earlier, List.getElem?_concat_length]

theorem mem_ancestorsOf {earlier : List (List TypeKey)} {row : Declaration} {key : TypeKey} :
    key ∈ ancestorsOf earlier row ↔ key.index ≤ earlier.length ∧
      (key.index = earlier.length ∨
        ∃ supertype ∈ row.supertypes, key ∈ earlier.getD supertype.index []) := by
  have numbered : key ∈ (List.range (earlier.length + 1)).map TypeKey.mk ↔
      key.index ≤ earlier.length := by
    rw [List.mem_map]
    constructor
    · rintro ⟨number, member, rfl⟩
      exact Nat.lt_succ_iff.1 (List.mem_range.1 member)
    · intro bound
      exact ⟨key.index, List.mem_range.2 (Nat.lt_succ_of_le bound), rfl⟩
  simp only [ancestorsOf, List.mem_filter, numbered, Bool.or_eq_true, beq_iff_eq, List.any_eq_true,
    List.contains_iff_mem]

namespace Hierarchy

variable {hierarchy : Hierarchy}

/-! ## Assignability, one declaration at a time -/

theorem contains_iff {key : TypeKey} :
    hierarchy.contains key = true ↔ key.index < hierarchy.declared.rows.length :=
  decide_eq_true_iff

theorem ancestorsAt_of_not_contains {key : TypeKey} (undeclared : ¬ hierarchy.contains key) :
    hierarchy.ancestorsAt key = [] := by
  rw [contains_iff] at undeclared
  have outside : hierarchy.ancestors[key.index]? = none := by
    rw [hierarchy.ancestors_eq, List.getElem?_eq_none_iff, length_ancestorTable]
    omega
  simp [ancestorsAt, outside]

theorem getElem?_rows_of_contains {key : TypeKey} (declared : hierarchy.contains key) :
    ∃ row earlier later, hierarchy.declared.rows = earlier ++ row :: later ∧
      earlier.length = key.index ∧ hierarchy.supertypes key = row.supertypes := by
  have bound := contains_iff.1 declared
  refine ⟨hierarchy.declared.rows[key.index], hierarchy.declared.rows.take key.index,
    hierarchy.declared.rows.drop (key.index + 1), by simp, by simp; omega, ?_⟩
  simp [supertypes, bound]

theorem index_lt_of_mem_supertypes {sub direct : TypeKey}
    (member : direct ∈ hierarchy.supertypes sub) : direct.index < sub.index := by
  unfold supertypes at member
  split at member
  · rename_i row located
    exact hierarchy.declared.supertypes_earlier sub.index row located direct member
  · cases member

theorem mem_ancestorsAt_of_contains {sub sup : TypeKey} (declared : hierarchy.contains sub) :
    sup ∈ hierarchy.ancestorsAt sub ↔ sup.index ≤ sub.index ∧
      (sup = sub ∨ ∃ direct ∈ hierarchy.supertypes sub, sup ∈ hierarchy.ancestorsAt direct) := by
  obtain ⟨row, earlier, later, rows, place, directs⟩ := getElem?_rows_of_contains declared
  have own : hierarchy.ancestorsAt sub = ancestorsOf (ancestorTable earlier) row := by
    rw [ancestorsAt, hierarchy.ancestors_eq, rows, ← place, List.getD_eq_getElem?_getD,
      getElem?_ancestorTable_length, Option.getD_some]
  have before : ∀ direct ∈ row.supertypes,
      (ancestorTable earlier).getD direct.index [] = hierarchy.ancestorsAt direct := by
    intro direct member
    have bound := index_lt_of_mem_supertypes (directs ▸ member)
    rw [ancestorsAt, hierarchy.ancestors_eq, rows, List.getD_eq_getElem?_getD,
      List.getD_eq_getElem?_getD, getElem?_ancestorTable_of_lt earlier _ (by omega)]
  rw [own, mem_ancestorsOf, length_ancestorTable, place, directs]
  refine and_congr_right fun _ => or_congr TypeKey.index_inj
    (exists_congr fun direct => and_congr_right fun member => ?_)
  rw [before direct member]

theorem isAssignable_iff_mem {sub sup : TypeKey} :
    hierarchy.isAssignable sub sup = true ↔ sup ∈ hierarchy.ancestorsAt sub :=
  List.contains_iff_mem

theorem contains_of_isAssignable {sub sup : TypeKey} (assignable : hierarchy.isAssignable sub sup) :
    hierarchy.contains sub := by
  by_contra undeclared
  rw [isAssignable_iff_mem, ancestorsAt_of_not_contains undeclared] at assignable
  cases assignable

theorem index_le_of_isAssignable {sub sup : TypeKey} (assignable : hierarchy.isAssignable sub sup) :
    sup.index ≤ sub.index := by
  have declared := contains_of_isAssignable assignable
  exact ((mem_ancestorsAt_of_contains declared).1 (isAssignable_iff_mem.1 assignable)).1

/-! ## Assignability as reachability -/

def IsDirectSupertype (hierarchy : Hierarchy) (sub direct : TypeKey) : Prop :=
  direct ∈ hierarchy.supertypes sub

theorem contains_of_isDirectSupertype {sub direct : TypeKey}
    (edge : hierarchy.IsDirectSupertype sub direct) :
    hierarchy.contains sub ∧ hierarchy.contains direct := by
  have earlier := index_lt_of_mem_supertypes edge
  unfold IsDirectSupertype supertypes at edge
  split at edge
  · rename_i row located
    have bound := (List.getElem?_eq_some_iff.1 located).1
    exact ⟨contains_iff.2 bound, contains_iff.2 (by omega)⟩
  · cases edge

theorem isAssignable_of_reachable {sub sup : TypeKey} (declared : hierarchy.contains sub)
    (reachable : Relation.ReflTransGen hierarchy.IsDirectSupertype sub sup) :
    hierarchy.isAssignable sub sup := by
  induction reachable using Relation.ReflTransGen.head_induction_on with
  | refl =>
      rw [isAssignable_iff_mem, mem_ancestorsAt_of_contains declared]
      exact ⟨Nat.le_refl _, .inl rfl⟩
  | head edge _ ih =>
      have rest := ih (contains_of_isDirectSupertype edge).2
      have earlier := index_lt_of_mem_supertypes edge
      have below := index_le_of_isAssignable rest
      rw [isAssignable_iff_mem, mem_ancestorsAt_of_contains declared]
      exact ⟨by omega, .inr ⟨_, edge, isAssignable_iff_mem.1 rest⟩⟩

theorem reachable_of_isAssignable {sub sup : TypeKey}
    (assignable : hierarchy.isAssignable sub sup) :
    Relation.ReflTransGen hierarchy.IsDirectSupertype sub sup := by
  have declared := contains_of_isAssignable assignable
  rcases ((mem_ancestorsAt_of_contains declared).1 (isAssignable_iff_mem.1 assignable)).2 with
    rfl | ⟨direct, edge, inherited⟩
  · exact .refl
  · exact .head edge (reachable_of_isAssignable (isAssignable_iff_mem.2 inherited))
termination_by sub.index
decreasing_by exact index_lt_of_mem_supertypes edge

theorem isAssignable_iff_reachable {sub sup : TypeKey} :
    hierarchy.isAssignable sub sup = true ↔
      hierarchy.contains sub ∧ Relation.ReflTransGen hierarchy.IsDirectSupertype sub sup :=
  ⟨fun assignable => ⟨contains_of_isAssignable assignable, reachable_of_isAssignable assignable⟩,
    fun ⟨declared, reachable⟩ => isAssignable_of_reachable declared reachable⟩

/-! ## The order -/

theorem isAssignable_refl {key : TypeKey} (declared : hierarchy.contains key) :
    hierarchy.isAssignable key key :=
  isAssignable_of_reachable declared .refl

theorem isAssignable_trans {low middle high : TypeKey} (first : hierarchy.isAssignable low middle)
    (second : hierarchy.isAssignable middle high) : hierarchy.isAssignable low high :=
  isAssignable_of_reachable (contains_of_isAssignable first)
    ((reachable_of_isAssignable first).trans (reachable_of_isAssignable second))

theorem isStrictSubtype_iff {sub sup : TypeKey} :
    hierarchy.isStrictSubtype sub sup = true ↔ sub ≠ sup ∧ hierarchy.isAssignable sub sup := by
  simp [isStrictSubtype]

theorem index_lt_of_isStrictSubtype {sub sup : TypeKey}
    (strict : hierarchy.isStrictSubtype sub sup) : sup.index < sub.index := by
  obtain ⟨different, assignable⟩ := isStrictSubtype_iff.1 strict
  have below := index_le_of_isAssignable assignable
  have apart : sup.index ≠ sub.index := fun same => different (TypeKey.index_inj.1 same.symm)
  omega

/-! ## Two hierarchies with several supertypes -/

/-- `Named` and `Located` below `Object`, and `Entity` below both. -/
def diamond : Hierarchy :=
  Declarations.build <|
    (((Declarations.empty.add "Object" [] (by decide) (by decide)).add
      "Named" [⟨0⟩] (by decide) (by decide)).add
      "Located" [⟨0⟩] (by decide) (by decide)).add
      "Entity" [⟨1⟩, ⟨2⟩] (by decide) (by decide)

example : diamond.isAssignable ⟨3⟩ ⟨0⟩ = true ∧ diamond.isAssignable ⟨1⟩ ⟨2⟩ = false := by decide

/-- `Named` and `Located` below `Object`, and both `Player` and `Villager` below each of them. -/
def crossed : Hierarchy :=
  Declarations.build <|
    ((((Declarations.empty.add "Object" [] (by decide) (by decide)).add
      "Named" [⟨0⟩] (by decide) (by decide)).add
      "Located" [⟨0⟩] (by decide) (by decide)).add
      "Player" [⟨1⟩, ⟨2⟩] (by decide) (by decide)).add
      "Villager" [⟨1⟩, ⟨2⟩] (by decide) (by decide)

end Hierarchy

end HostTypes
