import HostTypes.Proofs.Catalog.Components
import HostTypes.Proofs.Catalog.PriorityOrder

/-!
What is said about constraints that cannot be met. The entries left over are those on a cycle or
behind one (`left_inOrder`), each waits for those of its predecessors that are left over as well
(`pending_inOrder`), and the cycles are the components that have one (`mem_cyclesAmong_iff`).
-/

namespace HostTypes

namespace Catalog

variable {hierarchy : Hierarchy} {entries : List TypeEntry}

/-! ## What is left over -/

def leftOver (hierarchy : Hierarchy) (entries : List TypeEntry) : List Nat :=
  (List.range entries.length).filter fun number =>
    !(emitAll (predecessorTable hierarchy entries)).order.contains number

def pendingOf (hierarchy : Hierarchy) (entries : List TypeEntry) (number : Nat) : List Nat :=
  (predecessorsOf (predecessorTable hierarchy entries) number).filter fun first =>
    !(emitAll (predecessorTable hierarchy entries)).order.contains first

theorem sorted_predecessorsOf (number : Nat) :
    (predecessorsOf (predecessorTable hierarchy entries) number).Pairwise (· < ·) := by
  rw [predecessorsOf, predecessorTable, List.getD_eq_getElem?_getD, List.getElem?_map]
  cases entries[number]? with
  | none => exact .nil
  | some entry => exact List.pairwise_lt_range.filter _

theorem Blocked.exists_predecessor {edge : Nat → Nat → Prop} {number : Nat}
    (blocked : Blocked edge number) : ∃ first, Blocked edge first ∧ edge first number := by
  obtain ⟨start, cycle, path⟩ := blocked
  obtain ⟨first, back, step⟩ := Relation.TransGen.tail'_iff.1 (cycle.trans_left path)
  exact ⟨first, ⟨start, cycle, back⟩, step⟩

theorem left_inOrder (distinct : (entries.map TypeEntry.codeName).Nodup) :
    InOrder (leftOver hierarchy entries) (Blocked (Precedes hierarchy entries)) := by
  refine ⟨List.pairwise_lt_range.filter _, fun number => ?_⟩
  have left : number < entries.length →
      (number ∉ (emitAll (predecessorTable hierarchy entries)).order ↔
        Blocked (Precedes hierarchy entries) number) := by
    rw [← length_predecessorTable hierarchy entries, ← edge_predecessorTable distinct]
    exact not_mem_emitAll_iff (predecessorTable_valid hierarchy entries)
  simp only [leftOver, List.mem_filter, List.mem_range, Bool.not_eq_true', List.contains_eq_mem,
    decide_eq_false_iff_not]
  constructor
  · rintro ⟨bound, absent⟩
    exact (left bound).1 absent
  · intro blocked
    obtain ⟨_, _, step⟩ := blocked.exists_predecessor
    have bound := (step.bounded distinct).2
    exact ⟨bound, (left bound).2 blocked⟩

theorem pending_inOrder (distinct : (entries.map TypeEntry.codeName).Nodup) (number : Nat) :
    InOrder (pendingOf hierarchy entries number) fun first =>
      Precedes hierarchy entries first number ∧ first ∈ leftOver hierarchy entries := by
  refine ⟨(sorted_predecessorsOf number).filter _, fun first => ?_⟩
  rw [pendingOf, List.mem_filter, ← List.contains_iff_mem, ← hasEdge,
    hasEdge_predecessorTable_iff distinct, leftOver, List.mem_filter, List.mem_range]
  exact and_congr_right fun precedes => (and_iff_right (precedes.bounded distinct).1).symm

theorem pending_ne_nil (distinct : (entries.map TypeEntry.codeName).Nodup) {number : Nat}
    (left : number ∈ leftOver hierarchy entries) : pendingOf hierarchy entries number ≠ [] := by
  obtain ⟨first, blocked, step⟩ := (((left_inOrder distinct).mem_iff number).1 left).exists_predecessor
  exact List.ne_nil_of_mem
    (((pending_inOrder distinct number).mem_iff first).2
      ⟨step, ((left_inOrder distinct).mem_iff first).2 blocked⟩)

/-! ## The error -/

theorem resolveOrder_of_cyclic (distinct : (entries.map TypeEntry.codeName).Nodup)
    (cyclic : ¬ Acyclic (Precedes hierarchy entries)) :
    resolveOrder hierarchy entries = .error (.circularDependency
      ((leftOver hierarchy entries).map fun number =>
        ⟨codeNameAt entries number, (pendingOf hierarchy entries number).map (codeNameAt entries)⟩)
      ((cyclesAmong (predecessorTable hierarchy entries)
        (components (predecessorTable hierarchy entries))).map fun group =>
          group.map (codeNameAt entries))) := by
  have incomplete := mt (length_emitAll_eq_iff (predecessorTable_valid hierarchy entries)).1
    (edge_predecessorTable distinct ▸ cyclic)
  rw [length_predecessorTable] at incomplete
  simp only [resolveOrder, if_neg incomplete]
  rfl

end Catalog

/-! ## The statement -/

open Catalog in
/-- An open catalog whose constraints have a cycle. What is listed as circular does not depend on how
the components are found. -/
theorem freeze_circular (builder : CatalogBuilder)
    (distinct : (builder.entries.map TypeEntry.codeName).Nodup)
    (cyclic : ¬ Acyclic (Precedes builder.hierarchy builder.entries)) :
    ∃ (left : List Nat) (pending : Nat → List Nat) (cycles : List (List Nat)),
      builder.freeze.1 = .error (.circularDependency
        (left.map fun number =>
          ⟨codeNameAt builder.entries number, (pending number).map (codeNameAt builder.entries)⟩)
        (cycles.map fun group => group.map (codeNameAt builder.entries))) ∧
      InOrder left (Blocked (Precedes builder.hierarchy builder.entries)) ∧
      (∀ number ∈ left,
        InOrder (pending number)
          (fun first => Precedes builder.hierarchy builder.entries first number ∧ first ∈ left) ∧
        pending number ≠ []) ∧
      cycles.Nodup ∧
      (∀ group, group ∈ cycles ↔
        IsCycleGroup (Precedes builder.hierarchy builder.entries) group) ∧
      (∀ number ∈ left, ∃ group ∈ cycles, ∃ member ∈ group,
        Relation.ReflTransGen (Precedes builder.hierarchy builder.entries) member number) ∧
      ∀ groups,
        ListsComponents (Precedes builder.hierarchy builder.entries) builder.entries.length groups →
        (cyclesAmong (predecessorTable builder.hierarchy builder.entries) groups).Perm cycles := by
  have valid := predecessorTable_valid builder.hierarchy builder.entries
  have same : Edge (predecessorTable builder.hierarchy builder.entries) =
      Precedes builder.hierarchy builder.entries := edge_predecessorTable distinct
  have lists := components_listsComponents valid
  refine ⟨leftOver builder.hierarchy builder.entries, pendingOf builder.hierarchy builder.entries,
    cyclesAmong _ (components (predecessorTable builder.hierarchy builder.entries)), ?_,
    left_inOrder distinct, fun number left => ⟨pending_inOrder distinct number,
      pending_ne_nil distinct left⟩, nodup_cyclesAmong lists, ?_, ?_, ?_⟩
  · rw [CatalogBuilder.freeze_eq_map_arranged, resolveOrder_of_cyclic distinct cyclic]
    rfl
  · intro group
    rw [mem_cyclesAmong_iff valid lists, same]
  · intro number left
    obtain ⟨start, cycle, path⟩ := ((left_inOrder distinct).mem_iff number).1 left
    obtain ⟨group, listed, inside⟩ := exists_cycle_of_onCycle valid lists (same ▸ cycle)
    exact ⟨group, listed, start, inside, path⟩
  · intro groups others
    rw [← same, ← length_predecessorTable builder.hierarchy builder.entries] at others
    refine (List.perm_ext_iff_of_nodup (nodup_cyclesAmong others) (nodup_cyclesAmong lists)).2
      fun group => ?_
    rw [mem_cyclesAmong_iff valid others, mem_cyclesAmong_iff valid lists]

/-- `object` before its own subtype `named`, `located` before itself. -/
def circularEntries : List TypeEntry :=
  [{ codeName := "object", native := ⟨0⟩, before := ["named"] },
    { codeName := "named", native := ⟨1⟩ },
    { codeName := "located", native := ⟨2⟩, after := ["located"] },
    { codeName := "entity", native := ⟨3⟩ }]

open Catalog in
theorem freeze_circular_diamond :
    (circularEntries.map TypeEntry.codeName).Nodup ∧
      ¬ Acyclic (Precedes .diamond circularEntries) ∧
      ({ hierarchy := .diamond, entries := circularEntries } : CatalogBuilder).freeze.1 =
        .error (.circularDependency
          [⟨"object", ["named", "located"]⟩, ⟨"named", ["object"]⟩, ⟨"located", ["located"]⟩]
          [["object", "named"], ["located"]]) ∧
      ∃ left : List Nat,
        left.map (codeNameAt circularEntries) = ["object", "named", "located"] ∧
        InOrder left (Blocked (Precedes .diamond circularEntries)) := by
  have distinct : (circularEntries.map TypeEntry.codeName).Nodup := by decide
  have cyclic : ¬ Acyclic (Precedes .diamond circularEntries) := by
    have down : Precedes .diamond circularEntries 0 1 := .before rfl List.mem_cons_self rfl
    have up : Precedes .diamond circularEntries 1 0 := .subtype rfl rfl (by decide)
    exact fun acyclic => acyclic 0 (.tail (.single down) up)
  have failed : ({ hierarchy := .diamond, entries := circularEntries } : CatalogBuilder).freeze.1 =
      .error (.circularDependency
        [⟨"object", ["named", "located"]⟩, ⟨"named", ["object"]⟩, ⟨"located", ["located"]⟩]
        [["object", "named"], ["located"]]) := by
    rw [CatalogBuilder.freeze_eq_map_arranged, resolveOrder_of_cyclic distinct cyclic,
      cyclesAmong_components]
    rfl
  obtain ⟨left, pending, cycles, error, inOrder, _⟩ :=
    freeze_circular { hierarchy := .diamond, entries := circularEntries } distinct cyclic
  rw [failed, Except.error.injEq, RegistryError.circularDependency.injEq] at error
  have names := congrArg (List.map UnresolvedEntry.codeName) error.1
  exact ⟨distinct, cyclic, failed, left, by simpa [Function.comp_def] using names.symm, inOrder⟩

end HostTypes
