import HostTypes.Catalog.Order
import Mathlib.Data.Fintype.EquivFin
import Mathlib.Data.List.Nodup
import Mathlib.Data.List.Perm.Subperm
import Mathlib.Logic.Relation
import Mathlib.Order.WellFounded

/-!
The emission loop over a table of constraints. Each state it passes through counts, for every entry,
the predecessors that are still to be emitted (`Reached.tracks`); the loop ends when everything is
emitted or nothing can be (`emitAll_settled`). What it emits is in order, and it leaves exactly what
is on a cycle or behind one (`not_mem_emitAll_iff`), so nothing if the constraints have no cycle
(`length_emitAll_eq_iff`).
-/

namespace HostTypes

namespace Catalog

structure IsConstraintTable (table : List (List Nat)) : Prop where
  nodup : ∀ row ∈ table, row.Nodup
  bounded : ∀ row ∈ table, ∀ number ∈ row, number < table.length

theorem subperm_range {numbers : List Nat} {size : Nat} (nodup : numbers.Nodup)
    (bounded : ∀ number ∈ numbers, number < size) : numbers.Subperm (List.range size) :=
  nodup.subperm fun number member => List.mem_range.2 (bounded number member)

theorem perm_range {numbers : List Nat} {size : Nat} (nodup : numbers.Nodup)
    (bounded : ∀ number ∈ numbers, number < size) (all : size ≤ numbers.length) :
    numbers.Perm (List.range size) :=
  (subperm_range nodup bounded).perm_of_length_le (by simpa using all)

/-- The number of members of a row that are not in an order. -/
def waiting (order row : List Nat) : Nat :=
  row.countP fun number => !order.contains number

theorem waiting_eq_zero_iff {order row : List Nat} :
    waiting order row = 0 ↔ ∀ number ∈ row, number ∈ order := by
  simp [waiting, List.countP_eq_zero]

theorem waiting_concat {order row : List Nat} {number : Nat} (nodup : row.Nodup)
    (fresh : number ∉ order) :
    waiting order row = waiting (order ++ [number]) row + if number ∈ row then 1 else 0 := by
  induction row with
  | nil => rfl
  | cons head tail ih =>
      obtain ⟨absent, rest⟩ := List.nodup_cons.1 nodup
      have counted := ih rest
      simp only [waiting, List.countP_cons] at counted ⊢
      rw [counted]
      by_cases same : head = number
      · subst same
        simp [absent, fresh]
      · have other : number ≠ head := fun equal => same equal.symm
        simp only [List.contains_append, List.contains_cons, List.contains_nil, Bool.or_false,
          beq_eq_false_iff_ne.2 same, List.mem_cons, other, false_or]
        omega

theorem hasEdge_iff {table : List (List Nat)} {first second : Nat} :
    hasEdge table first second = true ↔ ∃ row, table[second]? = some row ∧ first ∈ row := by
  unfold hasEdge predecessorsOf
  rw [List.contains_iff_mem, List.getD_eq_getElem?_getD]
  cases table[second]? <;> simp

theorem hasEdge_bounded {table : List (List Nat)} (valid : IsConstraintTable table)
    {first second : Nat} (edge : hasEdge table first second) :
    first < table.length ∧ second < table.length := by
  obtain ⟨row, located, member⟩ := hasEdge_iff.1 edge
  exact ⟨valid.bounded row (List.mem_of_getElem? located) first member,
    (List.getElem?_eq_some_iff.1 located).1⟩

def Edge (table : List (List Nat)) (first second : Nat) : Prop :=
  hasEdge table first second = true

namespace Emission

variable {table : List (List Nat)}

@[simp]
theorem order_emit (emission : Emission) (number : Nat) :
    (emission.emit table number).order = emission.order ++ [number] :=
  rfl

/-! ## The states of a run -/

inductive Reached (table : List (List Nat)) : Emission → Prop
  | start : Reached table (start table)
  | emit {emission : Emission} {number : Nat} (previous : Reached table emission)
      (bound : number < table.length) (ready : emission.isReady number) :
      Reached table (emission.emit table number)

/-- The counts are those of the predecessors left, and what is emitted has its predecessors before
it. -/
structure Tracks (table : List (List Nat)) (emission : Emission) : Prop where
  pending : emission.pending = table.map (waiting emission.order)
  nodup : emission.order.Nodup
  bounded : ∀ number ∈ emission.order, number < table.length
  sorted : ∀ earlier number later, emission.order = earlier ++ number :: later →
    ∀ first, hasEdge table first number → first ∈ earlier

theorem tracks_start : Tracks table (start table) where
  pending := by
    simp only [start]
    refine List.map_congr_left fun row _ => ?_
    simp [waiting, List.countP_eq_length.2]
  nodup := List.nodup_nil
  bounded := by simp [start]
  sorted := by simp [start]

theorem Tracks.isReady_iff {emission : Emission} (tracks : Tracks table emission) {number : Nat}
    (bound : number < table.length) :
    emission.isReady number = true ↔
      number ∉ emission.order ∧ ∀ first, hasEdge table first number → first ∈ emission.order := by
  have row : table[number]? = some table[number] := List.getElem?_eq_getElem bound
  have left : (∀ first, hasEdge table first number → first ∈ emission.order) ↔
      waiting emission.order table[number] = 0 := by
    simp only [hasEdge_iff, row, Option.some.injEq, exists_eq_left', waiting_eq_zero_iff]
  simp [isReady, tracks.pending, row, left]

theorem emit_pending {emission : Emission} (valid : IsConstraintTable table)
    (tracks : Tracks table emission) {number : Nat} (fresh : number ∉ emission.order) :
    (emission.emit table number).pending = table.map (waiting (emission.order ++ [number])) := by
  simp only [emit, tracks.pending]
  refine List.ext_getElem (by simp) fun other _ _ => ?_
  have bound : other < table.length := by simp_all
  have counted := waiting_concat (valid.nodup _ (List.getElem_mem bound)) fresh
  have edge : hasEdge table number other = true ↔ number ∈ table[other] := by
    rw [hasEdge_iff, List.getElem?_eq_getElem bound]
    simp
  simp only [List.getElem_mapIdx, List.getElem_map]
  by_cases member : number ∈ table[other]
  · rw [if_pos (edge.2 member), counted, if_pos member]
    omega
  · rw [if_neg (mt edge.1 member), counted, if_neg member]
    omega

theorem Tracks.emit {emission : Emission} (valid : IsConstraintTable table)
    (tracks : Tracks table emission) {number : Nat} (bound : number < table.length)
    (ready : emission.isReady number) : Tracks table (emission.emit table number) := by
  obtain ⟨fresh, free⟩ := (tracks.isReady_iff bound).1 ready
  constructor
  · exact emit_pending valid tracks fresh
  · exact List.nodup_append.2 ⟨tracks.nodup, by simp, by grind⟩
  · intro other member
    rcases List.mem_append.1 member with old | new
    · exact tracks.bounded other old
    · rwa [List.mem_singleton.1 new]
  · intro earlier other later split first edge
    rcases List.eq_nil_or_concat later with rfl | ⟨before, last, rfl⟩
    · obtain ⟨rfl, same⟩ := List.append_inj' split rfl
      obtain rfl : number = other := by simpa using same
      exact free first edge
    · have shorter : emission.order ++ [number] = (earlier ++ other :: before) ++ [last] := by
        simpa using split
      exact tracks.sorted earlier other before (List.append_inj' shorter rfl).1 first edge

theorem Reached.tracks {emission : Emission} (valid : IsConstraintTable table)
    (reached : Reached table emission) : Tracks table emission := by
  induction reached with
  | start => exact tracks_start
  | emit _ bound ready ih => exact ih.emit valid bound ready

theorem Tracks.length_le {emission : Emission} (tracks : Tracks table emission) :
    emission.order.length ≤ table.length := by
  simpa using (subperm_range tracks.nodup tracks.bounded).length_le

/-! ## Passes -/

def emitEach (table : List (List Nat)) (numbers : List Nat) (emission : Emission) : Emission :=
  numbers.foldl
    (fun emission number =>
      if emission.isReady number then emission.emit table number else emission)
    emission

@[simp]
theorem emitEach_nil (emission : Emission) : emission.emitEach table [] = emission :=
  rfl

theorem emitEach_cons (emission : Emission) (number : Nat) (rest : List Nat) :
    emission.emitEach table (number :: rest) =
      (if emission.isReady number then emission.emit table number else emission).emitEach table
        rest :=
  rfl

theorem emitEach_concat (emission : Emission) (numbers : List Nat) (number : Nat) :
    emission.emitEach table (numbers ++ [number]) =
      if (emission.emitEach table numbers).isReady number then
        (emission.emitEach table numbers).emit table number
      else emission.emitEach table numbers :=
  List.foldl_concat _ _ _ _

theorem pass_eq_emitEach (emission : Emission) :
    emission.pass table = emission.emitEach table (List.range table.length) :=
  rfl

theorem Reached.emitEach {emission : Emission} (reached : Reached table emission)
    {numbers : List Nat} (bounded : ∀ number ∈ numbers, number < table.length) :
    Reached table (emission.emitEach table numbers) := by
  induction numbers generalizing emission with
  | nil => exact reached
  | cons number rest ih =>
      have later : ∀ number ∈ rest, number < table.length :=
        fun other member => bounded other (List.mem_cons_of_mem _ member)
      rw [emitEach_cons]
      split
      · exact ih (reached.emit (bounded number List.mem_cons_self) ‹_›) later
      · exact ih reached later

theorem Reached.pass {emission : Emission} (reached : Reached table emission) :
    Reached table (emission.pass table) :=
  reached.emitEach fun _ member => List.mem_range.1 member

theorem length_le_emitEach (table : List (List Nat)) (emission : Emission) (numbers : List Nat) :
    emission.order.length ≤ (emission.emitEach table numbers).order.length := by
  induction numbers generalizing emission with
  | nil => exact Nat.le_refl _
  | cons number rest ih =>
      rw [emitEach_cons]
      split
      · have longer := ih (emission.emit table number)
        rw [order_emit, List.length_append] at longer
        omega
      · exact ih emission

theorem not_isReady_of_emitEach {emission : Emission} {numbers : List Nat}
    (idle : (emission.emitEach table numbers).order.length = emission.order.length) :
    (∀ number ∈ numbers, ¬ emission.isReady number) ∧
      emission.emitEach table numbers = emission := by
  induction numbers with
  | nil => simp [emitEach]
  | cons number rest ih =>
      rw [emitEach_cons] at idle ⊢
      by_cases ready : emission.isReady number
      · rw [if_pos ready] at idle
        have longer := length_le_emitEach table (emission.emit table number) rest
        rw [idle, order_emit, List.length_append, List.length_singleton] at longer
        omega
      · rw [if_neg ready] at idle ⊢
        obtain ⟨others, same⟩ := ih idle
        exact ⟨List.forall_mem_cons.2 ⟨ready, others⟩, same⟩

def Settled (table : List (List Nat)) (emission : Emission) : Prop :=
  emission.order.length = table.length ∨ ∀ number < table.length, ¬ emission.isReady number

/-- A run of the loop with the number of its passes. It ends with a pass that emits nothing or after
which everything is emitted. -/
inductive Passes (table : List (List Nat)) : Nat → Emission → Emission → Prop
  | last {emission : Emission}
      (done : (emission.pass table).order.length = emission.order.length ∨
        (emission.pass table).order.length = table.length) :
      Passes table 1 emission (emission.pass table)
  | more {count : Nat} {emission final : Emission}
      (progress : (emission.pass table).order.length ≠ emission.order.length)
      (unfinished : (emission.pass table).order.length ≠ table.length)
      (rest : Passes table count (emission.pass table) final) :
      Passes table (count + 1) emission final

/-- Every pass but the last emits an entry, so passes for all entries that are left are enough. -/
theorem exists_passes_run (valid : IsConstraintTable table) {fuel : Nat} {emission : Emission}
    (reached : Reached table emission) (enough : table.length < emission.order.length + fuel) :
    ∃ count ≤ fuel, Passes table count emission (run table fuel emission) := by
  induction fuel generalizing emission with
  | zero =>
      have short := (reached.tracks valid).length_le
      omega
  | succ fuel ih =>
      simp only [run]
      split
      · rename_i done
        exact ⟨1, by omega, .last (by simpa using done)⟩
      · rename_i unfinished
        simp only [Bool.or_eq_true, decide_eq_true_eq, not_or] at unfinished
        have longer := length_le_emitEach table emission (List.range table.length)
        rw [← pass_eq_emitEach] at longer
        obtain ⟨count, few, rest⟩ := ih reached.pass (by omega)
        exact ⟨count + 1, by omega, .more unfinished.1 unfinished.2 rest⟩

theorem Passes.settled {count : Nat} {emission final : Emission}
    (passes : Passes table count emission final) (reached : Reached table emission) :
    Reached table final ∧ Settled table final := by
  induction passes with
  | @last emission done =>
      refine ⟨reached.pass, ?_⟩
      rcases done with idle | all
      · obtain ⟨stuck, same⟩ := not_isReady_of_emitEach (pass_eq_emitEach emission ▸ idle)
        rw [pass_eq_emitEach, same]
        exact .inr fun number bound => stuck number (List.mem_range.2 bound)
      · exact .inl all
  | more _ _ _ ih => exact ih reached.pass

theorem exists_passes_emitAll (valid : IsConstraintTable table) :
    ∃ count ≤ table.length + 1, Passes table count (start table) (emitAll table) :=
  exists_passes_run valid .start (by simp [start])

theorem emitAll_settled (valid : IsConstraintTable table) :
    Reached table (emitAll table) ∧ Settled table (emitAll table) := by
  obtain ⟨_, _, passes⟩ := exists_passes_emitAll valid
  exact passes.settled .start

/-! ## The emitted order -/

theorem Tracks.idxOf_lt {emission : Emission} (tracks : Tracks table emission) {first second : Nat}
    (edge : hasEdge table first second) (member : second ∈ emission.order) :
    emission.order.idxOf first < emission.order.idxOf second := by
  obtain ⟨earlier, later, split⟩ := List.append_of_mem member
  have before := tracks.sorted earlier second later split first edge
  have apart : second ∉ earlier := by
    have nodup := split ▸ tracks.nodup
    exact fun twice => (List.nodup_append.1 nodup).2.2 second twice second List.mem_cons_self rfl
  rw [split, List.idxOf_append_of_mem before, List.idxOf_append_of_notMem apart]
  have inside := List.idxOf_lt_length_of_mem before
  omega

theorem Tracks.perm_range {emission : Emission} (tracks : Tracks table emission)
    (all : emission.order.length = table.length) :
    emission.order.Perm (List.range table.length) :=
  Catalog.perm_range tracks.nodup tracks.bounded all.ge

end Emission

/-! ## Cycles -/

/-- A relation has no cycle, loops included. -/
def Acyclic (edge : Nat → Nat → Prop) : Prop :=
  ∀ number, ¬ Relation.TransGen edge number number

theorem acyclic_of_rank {α : Type} [Preorder α] {edge : Nat → Nat → Prop} (rank : Nat → α)
    (rises : ∀ first second, edge first second → rank first < rank second) : Acyclic edge := by
  have far : ∀ first second, Relation.TransGen edge first second → rank first < rank second := by
    intro first second path
    induction path with
    | single step => exact rises _ _ step
    | tail _ step ih => exact ih.trans (rises _ _ step)
  exact fun number cycle => lt_irrefl _ (far number number cycle)

/-- Among finitely many numbers without cycle, one has no predecessor of its kind. -/
theorem Acyclic.exists_first {edge : Nat → Nat → Prop} (acyclic : Acyclic edge) (size : Nat)
    (left : Nat → Prop) (bounded : ∀ number, left number → number < size)
    (some : ∃ number, left number) :
    ∃ number, left number ∧ ∀ first, left first → ¬ edge first number := by
  let before : Fin size → Fin size → Prop := fun first second =>
    Relation.TransGen edge first.val second.val
  have transitive : IsTrans (Fin size) before := ⟨fun _ _ _ one two => one.trans two⟩
  have irreflexive : Std.Irrefl before := ⟨fun number => acyclic number.val⟩
  have founded : WellFounded before := Finite.wellFounded_of_trans_of_irrefl before
  obtain ⟨start, begins⟩ := some
  obtain ⟨number, member, least⟩ :=
    founded.has_min { number | left number.val } ⟨⟨start, bounded start begins⟩, begins⟩
  exact ⟨number.val, member, fun first other step =>
    least ⟨first, bounded first other⟩ other (.single step)⟩

/-- To be on a cycle or behind one. -/
def Blocked (edge : Nat → Nat → Prop) (number : Nat) : Prop :=
  ∃ start, Relation.TransGen edge start start ∧ Relation.ReflTransGen edge start number

theorem Blocked.tail {edge : Nat → Nat → Prop} {first second : Nat} (blocked : Blocked edge first)
    (step : edge first second) : Blocked edge second := by
  obtain ⟨start, cycle, path⟩ := blocked
  exact ⟨start, cycle, path.tail step⟩

theorem blocked_of_onCycle {edge : Nat → Nat → Prop} {number : Nat}
    (cycle : Relation.TransGen edge number number) : Blocked edge number :=
  ⟨number, cycle, .refl⟩

theorem blocked_of_predecessors {edge : Nat → Nat → Prop} (size : Nat) (left : Nat → Prop)
    (bounded : ∀ number, left number → number < size)
    (preceded : ∀ number, left number → ∃ first, left first ∧ edge first number) {number : Nat}
    (member : left number) : Blocked edge number := by
  -- Without the blocked ones there is no cycle, so one of the others would come first.
  by_contra unblocked
  let free : Nat → Nat → Prop := fun first second => edge first second ∧ ¬ Blocked edge second
  have acyclic : Acyclic free := by
    intro looped cycle
    obtain ⟨_, _, _, fine⟩ := Relation.TransGen.tail'_iff.1 cycle
    exact fine (blocked_of_onCycle (Relation.TransGen.mono (fun _ _ => And.left) _ _ cycle))
  obtain ⟨least, ⟨inside, fine⟩, first⟩ :=
    acyclic.exists_first size (fun number => left number ∧ ¬ Blocked edge number)
      (fun _ both => bounded _ both.1) ⟨number, member, unblocked⟩
  obtain ⟨earlier, other, step⟩ := preceded least inside
  exact first earlier ⟨other, fun blocked => fine (blocked.tail step)⟩ ⟨step, fine⟩

section EmitAll

variable {table : List (List Nat)}

theorem Emission.Tracks.idxOf_lt_of_path {emission : Emission} (tracks : Tracks table emission)
    {first second : Nat} (path : Relation.TransGen (Edge table) first second)
    (member : second ∈ emission.order) :
    first ∈ emission.order ∧ emission.order.idxOf first < emission.order.idxOf second := by
  have back : ∀ {first second}, Edge table first second → second ∈ emission.order →
      first ∈ emission.order ∧ emission.order.idxOf first < emission.order.idxOf second :=
    fun edge later => by
      have before := tracks.idxOf_lt edge later
      exact ⟨List.idxOf_lt_length_iff.1 (before.trans_le (List.idxOf_le_length)), before⟩
  induction path using Relation.TransGen.head_induction_on with
  | single edge => exact back edge member
  | head edge _ ih =>
      obtain ⟨inside, before⟩ := back edge ih.1
      exact ⟨inside, before.trans ih.2⟩

theorem exists_left_predecessor (valid : IsConstraintTable table) {number : Nat}
    (bound : number < table.length) (left : number ∉ (emitAll table).order) :
    ∃ first, first ∉ (emitAll table).order ∧ Edge table first number := by
  obtain ⟨reached, all | stuck⟩ := Emission.emitAll_settled valid
  · exact absurd (((reached.tracks valid).perm_range all).mem_iff.2 (List.mem_range.2 bound)) left
  · by_contra none
    push Not at none
    exact stuck number bound (((reached.tracks valid).isReady_iff bound).2
      ⟨left, fun first edge => by_contra fun absent => none first absent edge⟩)

theorem not_mem_emitAll_iff (valid : IsConstraintTable table) {number : Nat}
    (bound : number < table.length) :
    number ∉ (emitAll table).order ↔ Blocked (Edge table) number := by
  have tracks := (Emission.emitAll_settled valid).1.tracks valid
  constructor
  · intro left
    refine blocked_of_predecessors table.length
      (fun number => number < table.length ∧ number ∉ (emitAll table).order) (fun _ both => both.1)
      (fun number both => ?_) ⟨bound, left⟩
    obtain ⟨first, absent, edge⟩ := exists_left_predecessor valid both.1 both.2
    exact ⟨first, ⟨(hasEdge_bounded valid edge).1, absent⟩, edge⟩
  · rintro ⟨start, cycle, path⟩ emitted
    have emittedStart : start ∈ (emitAll table).order := by
      rcases Relation.reflTransGen_iff_eq_or_transGen.1 path with rfl | path
      · exact emitted
      · exact (tracks.idxOf_lt_of_path path emitted).1
    exact Nat.lt_irrefl _ (tracks.idxOf_lt_of_path cycle emittedStart).2

theorem length_emitAll_eq_iff (valid : IsConstraintTable table) :
    (emitAll table).order.length = table.length ↔ Acyclic (Edge table) := by
  have tracks := (Emission.emitAll_settled valid).1.tracks valid
  constructor
  · intro all number cycle
    obtain ⟨_, edge, _⟩ := Relation.TransGen.head'_iff.1 cycle
    have bound := (hasEdge_bounded valid edge).1
    exact (not_mem_emitAll_iff valid bound).2 (blocked_of_onCycle cycle)
      ((tracks.perm_range all).mem_iff.2 (List.mem_range.2 bound))
  · intro acyclic
    have inside : List.range table.length ⊆ (emitAll table).order := by
      intro number member
      by_contra left
      obtain ⟨start, cycle, _⟩ := (not_mem_emitAll_iff valid (List.mem_range.1 member)).1 left
      exact acyclic start cycle
    have most := (List.nodup_range.subperm inside).length_le
    rw [List.length_range] at most
    exact Nat.le_antisymm tracks.length_le most

end EmitAll

end Catalog

end HostTypes
