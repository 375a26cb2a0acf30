import HostTypes.Proofs.Hierarchy.Reachability
import Mathlib.Data.List.Nodup
import Mathlib.Data.Set.Card

/-!
Hierarchies that come about by declaring, some calls refused. A refused call changes nothing
(`performAll_of_refused`), an accepted one adds a type with the direct supertypes it was given
(`supertypes_of_accepted`), and whatever the calls, assignability is a partial order in which a strict
subtype comes later and lies deeper (`declared_partialOrder`).
-/

namespace HostTypes

theorem mem_dropRepeats {α : Type} [BEq α] [LawfulBEq α] {x : α} {xs : List α} :
    x ∈ dropRepeats xs ↔ x ∈ xs := by
  refine ⟨mem_of_mem_dropRepeats, fun member => ?_⟩
  fun_induction dropRepeats xs with
  | case1 => exact member
  | case2 => exact member
  | case3 first second rest same ih =>
      have equal : first = second := eq_of_beq same
      apply ih
      rcases List.mem_cons.1 member with rfl | later
      · exact equal ▸ List.mem_cons_self
      · exact later
  | case4 first second rest _ ih =>
      rcases List.mem_cons.1 member with rfl | later
      · exact List.mem_cons_self
      · exact List.mem_cons_of_mem _ (ih later)

namespace Declarations

variable {declared next : Declarations}

/-! ## One call -/

def Refuses (declared : Declarations) (call : Declaration) : Prop :=
  call.name ∈ declared.rows.map Declaration.name ∨
    ∃ key ∈ call.supertypes, declared.size ≤ key.index

/-- The declarations that a call leaves, refused or not. -/
def perform (declared : Declarations) (call : Declaration) : Declarations :=
  ((declareType call.name call.supertypes).run.run declared).2

/-- A refused call leaves the declarations as they are, any other adds one row. -/
theorem run_declareType (declared : Declarations) (call : Declaration) :
    (declared.Refuses call ∧ ∃ error,
      (declareType call.name call.supertypes).run.run declared = (.error error, declared)) ∨
    (¬ declared.Refuses call ∧ ∃ next,
      (declareType call.name call.supertypes).run.run declared = (.ok ⟨declared.size⟩, next) ∧
        next.rows = declared.rows ++ [⟨call.name, dropRepeats call.supertypes⟩]) := by
  generalize ran : (declareType call.name call.supertypes).run.run declared = result
  rw [declareType, run_get_bind] at ran
  split at ran
  · rename_i taken
    exact .inl ⟨.inl taken, _, ran.symm⟩
  · rename_i fresh
    split at ran
    · rename_i key undeclared
      have outside : declared.size ≤ key.index := by simpa using List.find?_some undeclared
      exact .inl ⟨.inr ⟨key, List.mem_of_find?_eq_some undeclared, outside⟩, _, ran.symm⟩
    · rename_i known
      refine .inr ⟨?_, _, ran.symm, rfl⟩
      rintro (taken | ⟨key, member, outside⟩)
      · exact fresh taken
      · exact List.find?_eq_none.1 known key member (decide_eq_true outside)

theorem declare_cases (declared : Declarations) (call : Declaration) :
    (declared.Refuses call ∧ declared.perform call = declared ∧
      ∃ error, declared.declare call.name call.supertypes = .error error) ∨
    (¬ declared.Refuses call ∧
      declared.declare call.name call.supertypes = .ok (⟨declared.size⟩, declared.perform call) ∧
        (declared.perform call).rows =
          declared.rows ++ [⟨call.name, dropRepeats call.supertypes⟩]) := by
  unfold declare outcomeOf perform
  rcases declared.run_declareType call with ⟨refused, _, ran⟩ | ⟨accepted, next, ran, rows⟩
  · rw [ran]
    exact .inl ⟨refused, rfl, _, rfl⟩
  · rw [ran]
    exact .inr ⟨accepted, rfl, rows⟩

theorem declare_ok {call : Declaration} {key : TypeKey}
    (accepted : declared.declare call.name call.supertypes = .ok (key, next)) :
    key = ⟨declared.size⟩ ∧ next = declared.perform call ∧
      next.rows = declared.rows ++ [⟨call.name, dropRepeats call.supertypes⟩] := by
  rcases declared.declare_cases call with ⟨_, _, _, refused⟩ | ⟨_, done, rows⟩
  · cases accepted.symm.trans refused
  · cases accepted.symm.trans done
    exact ⟨rfl, rfl, rows⟩

theorem perform_of_error {call : Declaration} {error : HierarchyError}
    (refused : declared.declare call.name call.supertypes = .error error) :
    declared.perform call = declared := by
  rcases declared.declare_cases call with ⟨_, unchanged, _⟩ | ⟨_, done, _⟩
  · exact unchanged
  · cases refused.symm.trans done

theorem declare_eq_error_iff {call : Declaration} :
    (∃ error, declared.declare call.name call.supertypes = .error error) ↔
      declared.Refuses call := by
  rcases declared.declare_cases call with ⟨refused, _, failed⟩ | ⟨accepted, done, _⟩
  · exact iff_of_true failed refused
  · simp [accepted, done]

/-! ## All calls -/

def performAll (declared : Declarations) (calls : List Declaration) : Declarations :=
  calls.foldl perform declared

theorem performAll_append (declared : Declarations) (before after : List Declaration) :
    declared.performAll (before ++ after) = (declared.performAll before).performAll after :=
  List.foldl_append

theorem performAll_of_refused {before after : List Declaration} {call : Declaration}
    {error : HierarchyError}
    (refused : (declared.performAll before).declare call.name call.supertypes = .error error) :
    declared.performAll (before ++ call :: after) = declared.performAll (before ++ after) := by
  rw [performAll_append, performAll_append]
  exact congrArg (performAll · after) (perform_of_error refused)

theorem prefix_perform (declared : Declarations) (call : Declaration) :
    declared.rows <+: (declared.perform call).rows := by
  rcases declared.declare_cases call with ⟨_, unchanged, _⟩ | ⟨_, _, rows⟩
  · rw [unchanged]
  · rw [rows]
    exact List.prefix_append _ _

theorem prefix_performAll (declared : Declarations) (calls : List Declaration) :
    declared.rows <+: (declared.performAll calls).rows := by
  induction calls generalizing declared with
  | nil => exact List.prefix_rfl
  | cons call rest ih => exact (prefix_perform declared call).trans (ih (declared.perform call))

theorem row_of_accepted {before : List Declaration} {call : Declaration} {key : TypeKey}
    (accepted : (declared.performAll before).declare call.name call.supertypes = .ok (key, next))
    (after : List Declaration) :
    (declared.performAll (before ++ call :: after)).rows[key.index]? =
      some ⟨call.name, dropRepeats call.supertypes⟩ := by
  obtain ⟨rfl, performed, rows⟩ := declare_ok accepted
  obtain ⟨more, split⟩ := prefix_performAll next after
  have last : (declared.performAll (before ++ call :: after)).rows = next.rows ++ more := by
    rw [performAll_append, split, performed]
    rfl
  simp [last, rows, size]

theorem exists_accepted {calls : List Declaration} {key : TypeKey}
    (new : declared.size ≤ key.index) (bound : key.index < (declared.performAll calls).size) :
    ∃ before call after next, calls = before ++ call :: after ∧
      (declared.performAll before).declare call.name call.supertypes = .ok (key, next) := by
  induction calls generalizing declared with
  | nil => exact absurd bound (Nat.not_lt.2 new)
  | cons call rest ih =>
      by_cases later : (declared.perform call).size ≤ key.index
      · obtain ⟨before, found, after, next, split, accepted⟩ := ih later bound
        exact ⟨call :: before, found, after, next, by rw [split, List.cons_append], accepted⟩
      · have here : key.index < (declared.perform call).size := Nat.lt_of_not_le later
        rcases declared.declare_cases call with ⟨_, unchanged, _⟩ | ⟨_, accepted, rows⟩
        · rw [unchanged] at here
          exact absurd here (Nat.not_lt.2 new)
        · have same : declared.size = key.index := by
            simp only [size, rows, List.length_append, List.length_singleton] at here new ⊢
            omega
          have equal : (⟨declared.size⟩ : TypeKey) = key := TypeKey.index_inj.1 same
          exact ⟨[], call, rest, _, rfl, equal ▸ accepted⟩

end Declarations

namespace Hierarchy

variable {hierarchy : Hierarchy}

/-! ## The partial order -/

theorem isAssignable_antisymm {one two : TypeKey} (first : hierarchy.isAssignable one two)
    (second : hierarchy.isAssignable two one) : one = two := by
  have down := index_le_of_isAssignable first
  have up := index_le_of_isAssignable second
  exact TypeKey.index_inj.1 (Nat.le_antisymm up down)

theorem contains_of_isAssignable_right {sub sup : TypeKey}
    (assignable : hierarchy.isAssignable sub sup) : hierarchy.contains sup := by
  have declared := contains_iff.1 (contains_of_isAssignable assignable)
  have earlier := index_le_of_isAssignable assignable
  exact contains_iff.2 (by omega)

theorem eq_of_reachable_of_not_contains {sub sup : TypeKey} (undeclared : ¬ hierarchy.contains sub)
    (reachable : Relation.ReflTransGen hierarchy.IsDirectSupertype sub sup) : sup = sub := by
  rcases Relation.ReflTransGen.cases_head reachable with same | ⟨direct, edge, _⟩
  · exact same.symm
  · exact absurd (contains_of_isDirectSupertype edge).1 undeclared

/-! ## Depth -/

theorem nodup_ancestorsAt (key : TypeKey) : (hierarchy.ancestorsAt key).Nodup := by
  by_cases declared : hierarchy.contains key
  · obtain ⟨row, earlier, later, rows, place, _⟩ := getElem?_rows_of_contains declared
    rw [ancestorsAt, hierarchy.ancestors_eq, rows, ← place, List.getD_eq_getElem?_getD,
      getElem?_ancestorTable_length, Option.getD_some]
    have distinct : ((List.range ((ancestorTable earlier).length + 1)).map TypeKey.mk).Nodup :=
      List.nodup_range.map fun _ _ same => (TypeKey.mk.injEq _ _).mp same
    exact distinct.filter _
  · rw [ancestorsAt_of_not_contains declared]
    exact List.nodup_nil

theorem mem_properAncestors {key sup : TypeKey} :
    sup ∈ (hierarchy.ancestorsAt key).erase key ↔
      sup ≠ key ∧ Relation.ReflTransGen hierarchy.IsDirectSupertype key sup := by
  rw [(nodup_ancestorsAt key).mem_erase_iff, ← isAssignable_iff_mem]
  refine and_congr_right fun proper => ⟨reachable_of_isAssignable, fun reachable => ?_⟩
  by_cases declared : hierarchy.contains key
  · exact isAssignable_of_reachable declared reachable
  · exact absurd (eq_of_reachable_of_not_contains declared reachable) proper

theorem encard_properAncestors (key : TypeKey) :
    {sup | sup ≠ key ∧ Relation.ReflTransGen hierarchy.IsDirectSupertype key sup}.encard =
      hierarchy.depth key := by
  have listed : {sup | sup ≠ key ∧ Relation.ReflTransGen hierarchy.IsDirectSupertype key sup} =
      ((hierarchy.ancestorsAt key).erase key).toFinset := by
    ext sup
    simp [← mem_properAncestors]
  have count : ((hierarchy.ancestorsAt key).erase key).length = hierarchy.depth key := by
    by_cases declared : hierarchy.contains key
    · exact List.length_erase_of_mem (isAssignable_iff_mem.1 (isAssignable_refl declared))
    · simp [depth, ancestorsAt_of_not_contains declared]
  rw [listed, Set.encard_coe_eq_coe_finsetCard,
    List.toFinset_card_of_nodup ((nodup_ancestorsAt key).erase key), count]

theorem depth_lt_of_isStrictSubtype {sub sup : TypeKey}
    (strict : hierarchy.isStrictSubtype sub sup) : hierarchy.depth sup < hierarchy.depth sub := by
  have assignable := (isStrictSubtype_iff.1 strict).2
  have later := index_lt_of_isStrictSubtype strict
  have own : sub ∉ hierarchy.ancestorsAt sup := by
    intro member
    have earlier := index_le_of_isAssignable (isAssignable_iff_mem.2 member)
    omega
  -- All ancestors of `sup` are ancestors of `sub`, which has itself besides.
  have inside : sub :: hierarchy.ancestorsAt sup ⊆ hierarchy.ancestorsAt sub := by
    intro key member
    rcases List.mem_cons.1 member with rfl | above
    · exact isAssignable_iff_mem.1 (isAssignable_refl (contains_of_isAssignable assignable))
    · exact isAssignable_iff_mem.1 (isAssignable_trans assignable (isAssignable_iff_mem.2 above))
  have longer := (List.subperm_of_subset
    (List.nodup_cons.2 ⟨own, nodup_ancestorsAt sup⟩) inside).length_le
  have reflexive := isAssignable_refl (contains_of_isAssignable_right assignable)
  have inhabited := List.length_pos_of_mem (isAssignable_iff_mem.1 reflexive)
  rw [List.length_cons] at longer
  unfold depth
  omega

/-! ## Names -/

theorem name_eq_of_row {key : TypeKey} {row : Declaration}
    (located : hierarchy.declared.rows[key.index]? = some row) : hierarchy.name key = row.name := by
  simp [name, located]

theorem key?_name {key : TypeKey} (declared : hierarchy.contains key) :
    hierarchy.key? (hierarchy.name key) = some key := by
  have bound := contains_iff.1 declared
  have named := name_eq_of_row (List.getElem?_eq_getElem bound)
  have first : hierarchy.declared.rows.findIdx? (fun row => row.name == hierarchy.name key) =
      some key.index := by
    rw [List.findIdx?_eq_some_iff_getElem]
    refine ⟨bound, by simp [named], fun earlier before same => ?_⟩
    have twice : (hierarchy.declared.rows.map Declaration.name)[earlier]? =
        (hierarchy.declared.rows.map Declaration.name)[key.index]? := by
      simpa [bound, before.trans bound, named] using same
    have once := (List.getElem?_inj (by simpa using before.trans bound)
      hierarchy.declared.names_nodup).1 twice
    omega
  simp [key?, Declarations.key?, first]

theorem exists_name_iff {name : String} :
    (∃ key, hierarchy.contains key ∧ hierarchy.name key = name) ↔
      name ∈ hierarchy.declared.rows.map Declaration.name := by
  rw [List.mem_map]
  constructor
  · rintro ⟨key, declared, rfl⟩
    have located := List.getElem?_eq_getElem (contains_iff.1 declared)
    exact ⟨_, List.mem_of_getElem? located, (name_eq_of_row located).symm⟩
  · rintro ⟨row, member, rfl⟩
    obtain ⟨index, located⟩ := List.mem_iff_getElem?.1 member
    exact ⟨⟨index⟩, contains_iff.2 (List.getElem?_eq_some_iff.1 located).1, name_eq_of_row located⟩

theorem supertypes_of_accepted {before after : List Declaration} {call : Declaration}
    {key : TypeKey} {next : Declarations}
    (accepted : (Declarations.empty.performAll before).declare call.name call.supertypes =
      .ok (key, next)) :
    let hierarchy := (Declarations.empty.performAll (before ++ call :: after)).build
    hierarchy.contains key ∧ hierarchy.name key = call.name ∧
      ∀ direct, hierarchy.IsDirectSupertype key direct ↔ direct ∈ call.supertypes := by
  intro hierarchy
  have located : hierarchy.declared.rows[key.index]? = _ :=
    Declarations.row_of_accepted accepted after
  have named := name_eq_of_row located
  refine ⟨contains_iff.2 (List.getElem?_eq_some_iff.1 located).1, named, fun direct => ?_⟩
  simp only [IsDirectSupertype, supertypes, located, mem_dropRepeats]

end Hierarchy

/-! ## The statement -/

theorem declared_partialOrder (calls : List Declaration) :
    let declaredAfter := Declarations.empty.performAll
    let hierarchy := (declaredAfter calls).build
    let Reachable := Relation.ReflTransGen hierarchy.IsDirectSupertype
    (∀ sub sup, hierarchy.isAssignable sub sup = true ↔
      hierarchy.contains sub ∧ hierarchy.contains sup ∧ Reachable sub sup) ∧
    (∀ key, hierarchy.contains key → hierarchy.isAssignable key key) ∧
    (∀ low middle high, hierarchy.isAssignable low middle → hierarchy.isAssignable middle high →
      hierarchy.isAssignable low high) ∧
    (∀ one two, hierarchy.isAssignable one two → hierarchy.isAssignable two one → one = two) ∧
    (∀ key, {sup | sup ≠ key ∧ Reachable key sup}.encard = hierarchy.depth key) ∧
    (∀ sub sup, hierarchy.isStrictSubtype sub sup →
      sup.index < sub.index ∧ hierarchy.depth sup < hierarchy.depth sub) ∧
    (∀ key, hierarchy.contains key → hierarchy.key? (hierarchy.name key) = some key) ∧
    (∀ one two, hierarchy.contains one → hierarchy.contains two →
      hierarchy.name one = hierarchy.name two → one = two) ∧
    (∀ key, hierarchy.contains key → ∃ before call after next, calls = before ++ call :: after ∧
      (declaredAfter before).declare call.name call.supertypes = .ok (key, next)) ∧
    ∀ before call after, calls = before ++ call :: after →
      let earlier := (declaredAfter before).build
      let outcome := (declaredAfter before).declare call.name call.supertypes
      (∀ key next, outcome = .ok (key, next) →
        hierarchy.contains key ∧ hierarchy.name key = call.name ∧
          ∀ direct, hierarchy.IsDirectSupertype key direct ↔ direct ∈ call.supertypes) ∧
      (∀ error, outcome = .error error → declaredAfter calls = declaredAfter (before ++ after)) ∧
      ((∃ error, outcome = .error error) ↔
        (∃ key, earlier.contains key ∧ earlier.name key = call.name) ∨
          ∃ key ∈ call.supertypes, ¬ earlier.contains key) := by
  intro declaredAfter hierarchy Reachable
  refine ⟨fun sub sup => ?_, fun _ => Hierarchy.isAssignable_refl,
    fun _ _ _ => Hierarchy.isAssignable_trans, fun _ _ => Hierarchy.isAssignable_antisymm,
    Hierarchy.encard_properAncestors, fun sub sup strict => ?_, fun _ => Hierarchy.key?_name,
    fun one two first second same => ?_, fun key declared => ?_, ?_⟩
  · constructor
    · intro assignable
      exact ⟨Hierarchy.contains_of_isAssignable assignable,
        Hierarchy.contains_of_isAssignable_right assignable,
        Hierarchy.reachable_of_isAssignable assignable⟩
    · rintro ⟨declared, _, reachable⟩
      exact Hierarchy.isAssignable_of_reachable declared reachable
  · exact ⟨Hierarchy.index_lt_of_isStrictSubtype strict,
      Hierarchy.depth_lt_of_isStrictSubtype strict⟩
  · have found := Hierarchy.key?_name first
    rw [same, Hierarchy.key?_name second] at found
    exact (Option.some.inj found).symm
  · exact Declarations.exists_accepted (Nat.zero_le _) (Hierarchy.contains_iff.1 declared)
  · rintro before call after rfl earlier outcome
    refine ⟨fun key next => Hierarchy.supertypes_of_accepted,
      fun error => Declarations.performAll_of_refused, ?_⟩
    have undeclared : ∀ key, ¬ earlier.contains key = true ↔ earlier.size ≤ key.index := by
      intro key
      rw [Hierarchy.contains_iff, Nat.not_lt]
      rfl
    rw [Hierarchy.exists_name_iff]
    simp only [undeclared]
    exact Declarations.declare_eq_error_iff

example : (Declarations.empty.performAll [⟨"Object", []⟩, ⟨"Object", []⟩, ⟨"Lost", [⟨7⟩]⟩,
    ⟨"Named", [⟨0⟩, ⟨0⟩]⟩]).rows = [⟨"Object", []⟩, ⟨"Named", [⟨0⟩]⟩] := by
  decide

end HostTypes
