import HostTypes.Proofs.Catalog.Emission

/-!
Cycles of constraints. Rounds that add the successors of what is reached find everything that can be
reached (`mem_successorsOf_iff`), so the components of a table are the classes of mutual reachability
(`components_listsComponents`). However the components are listed, those that the table counts as cyclic
are the ones that lie on a cycle (`mem_cyclesAmong_iff`).
-/

namespace HostTypes

namespace Catalog

/-! ## Relations on numbers -/

def Mutual (edge : Nat → Nat → Prop) (one two : Nat) : Prop :=
  Relation.ReflTransGen edge one two ∧ Relation.ReflTransGen edge two one

theorem Mutual.refl (edge : Nat → Nat → Prop) (number : Nat) : Mutual edge number number :=
  ⟨.refl, .refl⟩

theorem Mutual.symm {edge : Nat → Nat → Prop} {one two : Nat} (same : Mutual edge one two) :
    Mutual edge two one :=
  ⟨same.2, same.1⟩

theorem Mutual.trans {edge : Nat → Nat → Prop} {one two three : Nat} (early : Mutual edge one two)
    (late : Mutual edge two three) : Mutual edge one three :=
  ⟨early.1.trans late.1, late.2.trans early.2⟩

theorem mutual_iff {edge : Nat → Nat → Prop} {one two : Nat} :
    Mutual edge one two ↔
      one = two ∨ (Relation.TransGen edge one two ∧ Relation.TransGen edge two one) := by
  unfold Mutual
  rw [Relation.reflTransGen_iff_eq_or_transGen, Relation.reflTransGen_iff_eq_or_transGen]
  tauto

/-- All components of the numbers below a bound, each once. -/
structure ListsComponents (edge : Nat → Nat → Prop) (size : Nat) (groups : List (List Nat)) :
    Prop where
  nodup : ∀ group ∈ groups, group.Nodup
  inhabited : ∀ group ∈ groups, group ≠ []
  mem_iff : ∀ group ∈ groups, ∀ member ∈ group, ∀ other,
    other ∈ group ↔ other < size ∧ Mutual edge member other
  covered : ∀ number < size, ∃ group ∈ groups, number ∈ group
  apart : groups.Pairwise List.Disjoint

/-- The numbers of a kind, each once and in order. -/
structure InOrder (numbers : List Nat) (kind : Nat → Prop) : Prop where
  sorted : numbers.Pairwise (· < ·)
  mem_iff : ∀ number, number ∈ numbers ↔ kind number

/-- A component on a cycle: it has several members or one that has an edge to itself. -/
def IsCycleGroup (edge : Nat → Nat → Prop) (group : List Nat) : Prop :=
  (∃ start, InOrder group (Mutual edge start)) ∧
    (1 < group.length ∨ ∃ member ∈ group, edge member member)

/-! ## Reachability in a table -/

variable {table : List (List Nat)}

def extend (table : List (List Nat)) (reached : List Nat) : List Nat :=
  (List.range table.length).filter fun number =>
    reached.contains number || (predecessorsOf table number).any reached.contains

theorem reachableFrom_succ (fuel : Nat) (reached : List Nat) :
    reachableFrom table (fuel + 1) reached = reachableFrom table fuel (extend table reached) :=
  rfl

theorem mem_extend {reached : List Nat} {number : Nat} :
    number ∈ extend table reached ↔
      number < table.length ∧ (number ∈ reached ∨ ∃ first ∈ reached, Edge table first number) := by
  simp only [extend, List.mem_filter, List.mem_range, Bool.or_eq_true, List.contains_iff_mem,
    List.any_eq_true, Edge, hasEdge]
  exact and_congr_right fun _ => or_congr_right (exists_congr fun first => and_comm)

theorem nodup_extend (reached : List Nat) : (extend table reached).Nodup :=
  List.nodup_range.filter _

def Bounded (table : List (List Nat)) (reached : List Nat) : Prop :=
  ∀ number ∈ reached, number < table.length

def Closed (table : List (List Nat)) (reached : List Nat) : Prop :=
  ∀ first ∈ reached, ∀ second, Edge table first second → second ∈ reached

theorem bounded_extend (reached : List Nat) : Bounded table (extend table reached) :=
  fun _ member => (mem_extend.1 member).1

theorem subset_extend {reached : List Nat} (bounded : Bounded table reached) :
    reached ⊆ extend table reached :=
  fun number member => mem_extend.2 ⟨bounded number member, .inl member⟩

theorem reachable_of_mem_reachableFrom {fuel : Nat} {reached : List Nat} {number : Nat}
    (member : number ∈ reachableFrom table fuel reached) :
    ∃ first ∈ reached, Relation.ReflTransGen (Edge table) first number := by
  induction fuel generalizing reached with
  | zero => exact ⟨number, member, .refl⟩
  | succ fuel ih =>
      obtain ⟨middle, inside, rest⟩ := ih member
      rcases (mem_extend.1 inside).2 with old | ⟨first, old, edge⟩
      · exact ⟨middle, old, rest⟩
      · exact ⟨first, old, rest.head edge⟩

theorem subset_reachableFrom {fuel : Nat} {reached : List Nat} (bounded : Bounded table reached) :
    reached ⊆ reachableFrom table fuel reached := by
  induction fuel generalizing reached with
  | zero => exact fun _ member => member
  | succ fuel ih => exact fun _ member => ih (bounded_extend reached) (subset_extend bounded member)

theorem mem_reachableFrom_of_closed {fuel : Nat} {reached : List Nat}
    (bounded : Bounded table reached) (closed : Closed table reached) {number : Nat} :
    number ∈ reachableFrom table fuel reached ↔ number ∈ reached := by
  refine ⟨fun member => ?_, fun member => subset_reachableFrom bounded member⟩
  obtain ⟨first, inside, path⟩ := reachable_of_mem_reachableFrom member
  clear member
  induction path with
  | refl => exact inside
  | tail _ edge ih => exact closed _ ih _ edge

theorem closed_of_length_extend {reached : List Nat} (nodup : reached.Nodup)
    (bounded : Bounded table reached) (valid : IsConstraintTable table)
    (idle : (extend table reached).length ≤ reached.length) :
    Closed table (extend table reached) := by
  have same : reached.Perm (extend table reached) :=
    (nodup.subperm (subset_extend bounded)).perm_of_length_le idle
  exact fun first member second edge =>
    mem_extend.2 ⟨(hasEdge_bounded valid edge).2, .inr ⟨first, same.mem_iff.2 member, edge⟩⟩

theorem closed_reachableFrom (valid : IsConstraintTable table) {fuel : Nat} {reached : List Nat}
    (nodup : reached.Nodup) (bounded : Bounded table reached)
    (enough : table.length ≤ reached.length + fuel) :
    Closed table (reachableFrom table fuel reached) := by
  induction fuel generalizing reached with
  | zero =>
      have all := perm_range nodup bounded enough
      exact fun _ _ second edge => all.mem_iff.2 (List.mem_range.2 (hasEdge_bounded valid edge).2)
  | succ fuel ih =>
      -- A round that reaches nothing new ends the search; any other leaves one number less.
      rw [reachableFrom_succ]
      by_cases idle : (extend table reached).length ≤ reached.length
      · have closed := closed_of_length_extend nodup bounded valid idle
        intro first member second edge
        rw [mem_reachableFrom_of_closed (bounded_extend reached) closed] at member ⊢
        exact closed first member second edge
      · exact ih (nodup_extend reached) (bounded_extend reached) (by omega)

theorem mem_successorsOf_iff (valid : IsConstraintTable table) {number other : Nat} :
    other ∈ successorsOf table number ↔ Relation.TransGen (Edge table) number other := by
  have mem_direct : ∀ second, second ∈ (List.range table.length).filter (hasEdge table number) ↔
      Edge table number second := fun second => by
    rw [List.mem_filter, List.mem_range]
    exact ⟨And.right, fun edge => ⟨(hasEdge_bounded valid edge).2, edge⟩⟩
  have nodup : ((List.range table.length).filter (hasEdge table number)).Nodup :=
    List.nodup_range.filter _
  have bounded : Bounded table ((List.range table.length).filter (hasEdge table number)) :=
    fun second member => (hasEdge_bounded valid ((mem_direct second).1 member)).2
  constructor
  · intro member
    obtain ⟨first, inside, path⟩ := reachable_of_mem_reachableFrom member
    exact .head' ((mem_direct first).1 inside) path
  · intro path
    induction path with
    | single edge => exact subset_reachableFrom bounded ((mem_direct _).2 edge)
    | tail _ edge ih =>
        exact closed_reachableFrom valid nodup bounded (Nat.le_add_left _ _) _ ih _ edge

/-! ## Components -/

def isMate (table : List (List Nat)) (number other : Nat) : Bool :=
  number == other ||
    (successorsOf table number).contains other && (successorsOf table other).contains number

def mates (table : List (List Nat)) (number : Nat) : List Nat :=
  (List.range table.length).filter (isMate table number)

theorem isMate_iff (valid : IsConstraintTable table) {number other : Nat} :
    isMate table number other = true ↔ Mutual (Edge table) number other := by
  simp only [isMate, Bool.or_eq_true, Bool.and_eq_true, beq_iff_eq, List.contains_iff_mem,
    mem_successorsOf_iff valid, mutual_iff]

theorem mem_mates (valid : IsConstraintTable table) {number other : Nat} :
    other ∈ mates table number ↔ other < table.length ∧ Mutual (Edge table) number other := by
  rw [mates, List.mem_filter, List.mem_range, isMate_iff valid]

theorem mates_eq_of_mutual (valid : IsConstraintTable table) {one two : Nat}
    (same : Mutual (Edge table) one two) : mates table one = mates table two := by
  refine List.filter_congr fun other _ => Bool.eq_iff_iff.2 ?_
  rw [isMate_iff valid, isMate_iff valid]
  exact ⟨same.symm.trans, same.trans⟩

theorem components_eq (table : List (List Nat)) :
    components table = (List.range table.length).filterMap fun number =>
      if (mates table number).head? = some number then some (mates table number) else none := by
  have reach : ∀ number < table.length,
      ((List.range table.length).map (successorsOf table)).getD number [] =
        successorsOf table number := by
    intro number bound
    simp [List.getD_eq_getElem?_getD, bound]
  refine List.filterMap_congr fun number inside => ?_
  have members : mates table number = _ := List.filter_congr fun other outside => by
    rw [isMate, ← reach number (List.mem_range.1 inside), ← reach other (List.mem_range.1 outside)]
  rw [members]

theorem mem_components {group : List Nat} :
    group ∈ components table ↔
      ∃ number < table.length, (mates table number).head? = some number ∧
        mates table number = group := by
  simp only [components_eq, List.mem_filterMap, List.mem_range, Option.ite_none_right_eq_some,
    Option.some.injEq]

theorem components_listsComponents (valid : IsConstraintTable table) :
    ListsComponents (Edge table) table.length (components table) := by
  constructor
  · intro group listed
    obtain ⟨number, _, _, rfl⟩ := mem_components.1 listed
    exact List.nodup_range.filter _
  · intro group listed
    obtain ⟨number, _, first, rfl⟩ := mem_components.1 listed
    exact List.ne_nil_of_mem (List.mem_of_head? first)
  · intro group listed member inside other
    obtain ⟨number, _, _, rfl⟩ := mem_components.1 listed
    rw [mates_eq_of_mutual valid ((mem_mates valid).1 inside).2, mem_mates valid]
  · intro number bound
    have inside : number ∈ mates table number := (mem_mates valid).2 ⟨bound, .refl _ _⟩
    -- The component is listed where its first member is.
    obtain ⟨first, rest, split⟩ := List.exists_cons_of_ne_nil (List.ne_nil_of_mem inside)
    obtain ⟨firstBound, both⟩ := (mem_mates valid).1 (split ▸ List.mem_cons_self)
    have same := mates_eq_of_mutual valid both
    refine ⟨mates table number, mem_components.2 ⟨first, firstBound, ?_, same.symm⟩, inside⟩
    rw [← same, split, List.head?_cons]
  · rw [components_eq]
    refine List.Pairwise.filterMap _ (fun one two different groupOne isOne groupTwo isTwo => ?_)
      List.nodup_range
    simp only [Option.ite_none_right_eq_some, Option.some.injEq] at isOne isTwo
    obtain ⟨firstOne, rfl⟩ := isOne
    obtain ⟨firstTwo, rfl⟩ := isTwo
    intro member inOne inTwo
    have same := mates_eq_of_mutual valid
      (((mem_mates valid).1 inOne).2.trans ((mem_mates valid).1 inTwo).2.symm)
    rw [same] at firstOne
    exact different (Option.some.inj (firstOne.symm.trans firstTwo))

/-! ## Cyclic components -/

theorem isCyclic_iff {group : List Nat} :
    isCyclic table group = true ↔
      1 < group.length ∨ ∃ member ∈ group, Edge table member member := by
  cases group with
  | nil => simp [isCyclic]
  | cons first rest => cases rest <;> simp [isCyclic, Edge]

theorem one_lt_length_iff {group : List Nat} (nodup : group.Nodup) {member : Nat}
    (inside : member ∈ group) : 1 < group.length ↔ ∃ other ∈ group, other ≠ member := by
  rcases group with _ | ⟨first, _ | ⟨second, rest⟩⟩
  · cases inside
  · simp_all
  · have apart : first ≠ second := by simp_all
    refine iff_of_true (by simp) ?_
    by_cases same : first = member
    · exact ⟨second, by simp, fun equal => apart (same.trans equal.symm)⟩
    · exact ⟨first, by simp, same⟩

theorem onCycle_iff {edge : Nat → Nat → Prop} {group : List Nat} (nodup : group.Nodup)
    {start : Nat} (inside : start ∈ group)
    (mem_iff : ∀ other, other ∈ group ↔ Mutual edge start other) :
    (1 < group.length ∨ ∃ member ∈ group, edge member member) ↔
      Relation.TransGen edge start start := by
  rw [one_lt_length_iff nodup inside]
  constructor
  · rintro (⟨other, there, different⟩ | ⟨member, there, loop⟩)
    · rcases mutual_iff.1 ((mem_iff other).1 there) with same | ⟨out, back⟩
      · exact absurd same.symm different
      · exact out.trans back
    · obtain ⟨out, back⟩ := (mem_iff member).1 there
      exact .trans_right out (.head' loop back)
  · intro cycle
    obtain ⟨next, edge, back⟩ := Relation.TransGen.head'_iff.1 cycle
    by_cases same : next = start
    · exact .inr ⟨start, inside, same ▸ edge⟩
    · exact .inl ⟨next, (mem_iff next).2 ⟨.single edge, back⟩, same⟩

theorem IsCycleGroup.onCycle {edge : Nat → Nat → Prop} {group : List Nat}
    (cyclic : IsCycleGroup edge group) {member : Nat} (inside : member ∈ group) :
    Relation.TransGen edge member member := by
  obtain ⟨⟨start, inOrder⟩, cycle⟩ := cyclic
  have both := (inOrder.mem_iff member).1 inside
  exact (onCycle_iff inOrder.sorted.nodup inside fun other =>
    (inOrder.mem_iff other).trans ⟨both.symm.trans, both.trans⟩).1 cycle

theorem sorted_mergeSort {group : List Nat} (nodup : group.Nodup) :
    group.mergeSort.Pairwise (· < ·) :=
  ((List.pairwise_mergeSort' (· ≤ ·) group).and
    ((group.mergeSort_perm _).nodup_iff.2 nodup)).imp fun both => lt_of_le_of_ne both.1 both.2

theorem mem_cyclesAmong {groups : List (List Nat)} {group : List Nat} :
    group ∈ cyclesAmong table groups ↔
      ∃ members ∈ groups, isCyclic table members = true ∧ members.mergeSort = group := by
  simp [cyclesAmong, and_assoc]

/-- The components are in order as they are listed. -/
theorem cyclesAmong_components (table : List (List Nat)) :
    cyclesAmong table (components table) = (components table).filter (isCyclic table) := by
  refine (List.map_congr_left fun group member => ?_).trans (List.map_id _)
  obtain ⟨_, _, _, rfl⟩ := mem_components.1 (List.mem_filter.1 member).1
  exact List.mergeSort_eq_self (· ≤ ·) (List.pairwise_le_range.filter _)

section Listed

variable {groups : List (List Nat)}

theorem ListsComponents.mem_iff_mutual (valid : IsConstraintTable table)
    (lists : ListsComponents (Edge table) table.length groups) {group : List Nat}
    (listed : group ∈ groups) {start : Nat} (inside : start ∈ group) {other : Nat} :
    other ∈ group ↔ Mutual (Edge table) start other := by
  rw [lists.mem_iff group listed start inside, and_iff_right_iff_imp]
  intro both
  rcases mutual_iff.1 both with rfl | ⟨path, _⟩
  · exact ((lists.mem_iff group listed start inside start).1 inside).1
  · obtain ⟨_, _, edge⟩ := Relation.TransGen.tail'_iff.1 path
    exact (hasEdge_bounded valid edge).2

theorem ListsComponents.isCyclic_iff_onCycle (valid : IsConstraintTable table)
    (lists : ListsComponents (Edge table) table.length groups) {group : List Nat}
    (listed : group ∈ groups) {start : Nat} (inside : start ∈ group) :
    isCyclic table group = true ↔ Relation.TransGen (Edge table) start start := by
  rw [isCyclic_iff]
  exact onCycle_iff (lists.nodup group listed) inside fun _ =>
    lists.mem_iff_mutual valid listed inside

theorem isCycleGroup_mergeSort (valid : IsConstraintTable table)
    (lists : ListsComponents (Edge table) table.length groups) {group : List Nat}
    (listed : group ∈ groups) (cyclic : isCyclic table group = true) :
    IsCycleGroup (Edge table) group.mergeSort := by
  obtain ⟨start, inside⟩ := List.exists_mem_of_ne_nil group (lists.inhabited group listed)
  refine ⟨⟨start, sorted_mergeSort (lists.nodup group listed), fun other => ?_⟩, ?_⟩
  · rw [List.mem_mergeSort, lists.mem_iff_mutual valid listed inside]
  · simpa [isCyclic_iff] using cyclic

theorem mem_cyclesAmong_iff (valid : IsConstraintTable table)
    (lists : ListsComponents (Edge table) table.length groups) {group : List Nat} :
    group ∈ cyclesAmong table groups ↔ IsCycleGroup (Edge table) group := by
  rw [mem_cyclesAmong]
  constructor
  · rintro ⟨members, listed, cyclic, rfl⟩
    exact isCycleGroup_mergeSort valid lists listed cyclic
  · intro cyclic
    obtain ⟨⟨start, sorted, mem_iff⟩, _⟩ := id cyclic
    have cycle := cyclic.onCycle ((mem_iff start).2 (.refl _ start))
    obtain ⟨_, edge, _⟩ := Relation.TransGen.head'_iff.1 cycle
    obtain ⟨members, listed, there⟩ := lists.covered start (hasEdge_bounded valid edge).1
    refine ⟨members, listed, (lists.isCyclic_iff_onCycle valid listed there).2 cycle,
      (sorted_mergeSort (lists.nodup members listed)).eq_of_mem_iff sorted fun other => ?_⟩
    rw [List.mem_mergeSort, lists.mem_iff_mutual valid listed there, mem_iff]

theorem nodup_cyclesAmong (lists : ListsComponents (Edge table) table.length groups) :
    (cyclesAmong table groups).Nodup := by
  refine List.pairwise_map.2 ((lists.apart.imp_of_mem fun listed _ apart same => ?_).filter _)
  obtain ⟨member, inside⟩ := List.exists_mem_of_ne_nil _ (lists.inhabited _ listed)
  exact apart inside (List.mem_mergeSort.1 (same ▸ List.mem_mergeSort.2 inside))

theorem exists_cycle_of_onCycle (valid : IsConstraintTable table)
    (lists : ListsComponents (Edge table) table.length groups) {start : Nat}
    (cycle : Relation.TransGen (Edge table) start start) :
    ∃ group ∈ cyclesAmong table groups, start ∈ group := by
  obtain ⟨_, edge, _⟩ := Relation.TransGen.head'_iff.1 cycle
  obtain ⟨members, listed, inside⟩ := lists.covered start (hasEdge_bounded valid edge).1
  exact ⟨members.mergeSort,
    mem_cyclesAmong.2 ⟨members, listed, (lists.isCyclic_iff_onCycle valid listed inside).2 cycle, rfl⟩,
    List.mem_mergeSort.2 inside⟩

end Listed

end Catalog

end HostTypes
