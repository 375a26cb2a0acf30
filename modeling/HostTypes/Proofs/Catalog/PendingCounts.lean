import HostTypes.Proofs.Catalog.Circularity
import Mathlib.Data.Set.Card

/-!
The counts of the emission loop, turn by turn. At every turn of every pass the count of an entry is the
number of its predecessors that are not emitted (`Emission.Tracks.counted`). An entry whose turn it is
is emitted if no such predecessor is left, and then every count that has to be lowered is above zero, in
whatever order its followers are taken (`Emission.Tracks.lowers`).
-/

namespace HostTypes

namespace Catalog

/-! ## Lowering counts -/

/-- Lowers the count of one entry, which must not be zero. -/
def lower? (pending : List Nat) (number : Nat) : Option (List Nat) :=
  match pending[number]? with
  | some (count + 1) => some (pending.set number count)
  | _ => none

theorem lower?_of_pos {pending : List Nat} {number count : Nat}
    (above : pending[number]? = some (count + 1)) :
    lower? pending number = some (pending.set number count) := by
  rw [lower?, above]

/-- Counts that are above zero can be lowered one after another, each of them once. -/
theorem exists_foldlM_lower? {pending followers : List Nat} (once : followers.Nodup)
    (above : ∀ number ∈ followers, ∃ count, pending[number]? = some (count + 1)) :
    ∃ lowered, followers.foldlM lower? pending = some lowered ∧
      ∀ number, lowered[number]? =
        if number ∈ followers then pending[number]?.map (· - 1) else pending[number]? := by
  induction followers generalizing pending with
  | nil => exact ⟨pending, rfl, fun number => by simp⟩
  | cons head rest ih =>
      obtain ⟨absent, others⟩ := List.nodup_cons.1 once
      obtain ⟨count, positive⟩ := above head List.mem_cons_self
      have apart : ∀ number ∈ rest, head ≠ number := fun number member same => absent (same ▸ member)
      -- Lowering the first count leaves those of the others as they are.
      have later : ∀ number ∈ rest, ∃ more, (pending.set head count)[number]? = some (more + 1) := by
        intro number member
        rw [List.getElem?_set_ne (apart number member)]
        exact above number (List.mem_cons_of_mem _ member)
      obtain ⟨lowered, done, counts⟩ := ih others later
      refine ⟨lowered, ?_, fun number => ?_⟩
      · rw [List.foldlM_cons, lower?_of_pos positive]
        exact done
      · rw [counts number]
        by_cases first : number = head
        · subst first
          have bound := (List.getElem?_eq_some_iff.1 positive).1
          rw [if_neg absent, if_pos List.mem_cons_self, List.getElem?_set_self bound, positive]
          rfl
        · rw [List.getElem?_set_ne (Ne.symm first)]
          simp [first]

namespace Emission

variable {table : List (List Nat)} {emission : Emission}

/-! ## Turns -/

/-- The state after some passes and some turns of the next one. -/
def afterTurns (table : List (List Nat)) (passes turns : Nat) : Emission :=
  ((pass table)^[passes] (start table)).emitEach table (List.range turns)

theorem afterTurns_zero (table : List (List Nat)) (passes : Nat) :
    afterTurns table passes 0 = (pass table)^[passes] (start table) :=
  rfl

theorem afterTurns_succ (table : List (List Nat)) (passes turn : Nat) :
    afterTurns table passes (turn + 1) =
      if (afterTurns table passes turn).isReady turn then (afterTurns table passes turn).emit table turn
      else afterTurns table passes turn := by
  rw [afterTurns, List.range_succ, emitEach_concat]
  rfl

theorem afterTurns_pass (table : List (List Nat)) (passes : Nat) :
    afterTurns table (passes + 1) 0 = afterTurns table passes table.length := by
  rw [afterTurns_zero, Function.iterate_succ_apply', pass_eq_emitEach]
  rfl

theorem reached_afterTurns {passes turns : Nat} (few : turns ≤ table.length) :
    Reached table (afterTurns table passes turns) := by
  have whole : Reached table ((pass table)^[passes] (start table)) := by
    induction passes with
    | zero => exact .start
    | succ passes ih =>
        rw [Function.iterate_succ_apply']
        exact ih.pass
  exact whole.emitEach fun number member => (List.mem_range.1 member).trans_le few

theorem Passes.eq_iterate {count : Nat} {final : Emission} (passes : Passes table count emission final) :
    final = (pass table)^[count] emission := by
  induction passes with
  | last => rfl
  | more _ _ _ ih => exact ih

/-! ## Counts -/

/-- What holds of the counts and of the order at every turn, for constraints between the entries. -/
structure Counted (precedes : Nat → Nat → Prop) (size : Nat) (emission : Emission) : Prop where
  length_pending : emission.pending.length = size
  pending : ∀ number count : Nat, emission.pending[number]? = some count →
    { first | precedes first number ∧ first ∉ emission.order }.encard = count
  nodup : emission.order.Nodup
  bounded : ∀ number ∈ emission.order, number < size
  preceded : ∀ earlier number later, emission.order = earlier ++ number :: later →
    ∀ first, precedes first number → first ∈ earlier

theorem encard_waiting {order row : List Nat} (nodup : row.Nodup) :
    { first | first ∈ row ∧ first ∉ order }.encard = waiting order row := by
  have same : { first | first ∈ row ∧ first ∉ order } =
      ((row.filter fun number => !order.contains number).toFinset : Set Nat) := by
    ext first
    simp
  rw [same, Set.encard_coe_eq_coe_finsetCard, List.toFinset_card_of_nodup (nodup.filter _), waiting,
    List.countP_eq_length_filter]

theorem Tracks.counted (valid : IsConstraintTable table) (tracks : Tracks table emission) :
    emission.Counted (Edge table) table.length where
  length_pending := by rw [tracks.pending, List.length_map]
  pending := by
    intro number count counted
    rw [tracks.pending, List.getElem?_map, Option.map_eq_some_iff] at counted
    obtain ⟨row, located, rfl⟩ := counted
    rw [← encard_waiting (valid.nodup row (List.mem_of_getElem? located))]
    simp [Edge, hasEdge_iff, located]
  nodup := tracks.nodup
  bounded := tracks.bounded
  preceded := tracks.sorted

/-- When an entry that is not emitted yet is emitted, the counts of its followers are above zero. -/
theorem Tracks.lowers (tracks : Tracks table emission) {number : Nat}
    (fresh : number ∉ emission.order) {followers : List Nat} (once : followers.Nodup)
    (all : ∀ second, second ∈ followers ↔ Edge table number second) :
    followers.foldlM lower? emission.pending = some (emission.emit table number).pending := by
  have above : ∀ second ∈ followers, ∃ count, emission.pending[second]? = some (count + 1) := by
    intro second member
    obtain ⟨row, located, inside⟩ := hasEdge_iff.1 ((all second).1 member)
    have positive : waiting emission.order row ≠ 0 := fun none =>
      fresh (waiting_eq_zero_iff.1 none number inside)
    obtain ⟨count, same⟩ := Nat.exists_eq_succ_of_ne_zero positive
    exact ⟨count, by rw [tracks.pending, List.getElem?_map, located, Option.map_some, same]⟩
  obtain ⟨lowered, done, counts⟩ := exists_foldlM_lower? once above
  rw [done, Option.some.injEq]
  refine List.ext_getElem? fun second => ?_
  have edge : second ∈ followers ↔ hasEdge table number second = true := all second
  rw [counts second, Emission.emit, List.getElem?_mapIdx]
  by_cases follows : second ∈ followers
  · simp [follows, edge.1 follows]
  · simp [follows, mt edge.2 follows]

/-- What happens when it is the turn of an entry. -/
inductive Turn (precedes : Nat → Nat → Prop) (number : Nat) (before after : Emission) : Prop
  | emitted (fresh : number ∉ before.order) (free : ∀ first, precedes first number → first ∈ before.order)
      (order : after.order = before.order ++ [number])
      (lowered : ∀ followers : List Nat, followers.Nodup →
        (∀ second, second ∈ followers ↔ precedes number second) →
          followers.foldlM lower? before.pending = some after.pending)
  | skipped (waits : number ∈ before.order ∨ ∃ first, precedes first number ∧ first ∉ before.order)
      (same : after = before)

theorem Tracks.turn (tracks : Tracks table emission) {number : Nat} (bound : number < table.length) :
    Turn (Edge table) number emission
      (if emission.isReady number then emission.emit table number else emission) := by
  split
  · rename_i ready
    obtain ⟨fresh, free⟩ := (tracks.isReady_iff bound).1 ready
    exact .emitted fresh free rfl fun _ once all => tracks.lowers fresh once all
  · rename_i unready
    rw [tracks.isReady_iff bound, not_and_or, not_not] at unready
    refine .skipped (unready.imp_right fun waits => ?_) rfl
    push Not at waits
    exact waits

end Emission

end Catalog

/-! ## The statement -/

open Catalog Emission in
theorem emission_counted (hierarchy : Hierarchy) (entries : List TypeEntry) :
    let table := predecessorTable hierarchy entries
    let precedes := Edge table
    let state := afterTurns table
    ((entries.map TypeEntry.codeName).Nodup → precedes = Precedes hierarchy entries) ∧
    state 0 0 = start table ∧
    (∀ passes, state (passes + 1) 0 = state passes entries.length) ∧
    (∀ passes turns, turns ≤ entries.length → (state passes turns).Counted precedes entries.length) ∧
    (∀ passes number, number < entries.length →
      Turn precedes number (state passes number) (state passes (number + 1))) ∧
    ∃ passes ≤ entries.length + 1, Passes table passes (start table) (emitAll table) ∧
      emitAll table = state passes 0 := by
  intro table precedes state
  have valid : IsConstraintTable table := predecessorTable_valid hierarchy entries
  have size : table.length = entries.length := length_predecessorTable hierarchy entries
  have tracks {passes turns : Nat} (few : turns ≤ entries.length) : Tracks table (state passes turns) :=
    (reached_afterTurns (few.trans_eq size.symm)).tracks valid
  rw [← size]
  refine ⟨edge_predecessorTable, rfl, afterTurns_pass table, fun passes turns few => ?_,
    fun passes number bound => ?_, ?_⟩
  · exact (tracks (few.trans_eq size)).counted valid
  · have reached : Tracks table (state passes number) := tracks (bound.trans_eq size).le
    have turned := reached.turn bound
    rwa [← afterTurns_succ] at turned
  · obtain ⟨passes, few, run⟩ := exists_passes_emitAll valid
    exact ⟨passes, few, run, run.eq_iterate⟩

open Catalog Emission in
/-- In the first pass only the last entry is emitted, for `located` waits for itself. -/
theorem emission_counted_circular :
    let table := predecessorTable .diamond circularEntries
    let precedes := Precedes .diamond circularEntries
    (circularEntries.map TypeEntry.codeName).Nodup ∧
      (∀ second, second ∈ [2, 0, 1] ↔ precedes 3 second) ∧
      afterTurns table 0 3 = ⟨[3, 2, 2, 0], []⟩ ∧ afterTurns table 0 4 = ⟨[2, 1, 1, 0], [3]⟩ ∧
      [2, 0, 1].foldlM lower? [3, 2, 2, 0] = some [2, 1, 1, 0] ∧
      { first | precedes first 2 ∧ first ∉ [3] }.encard = (1 : Nat) := by
  intro table precedes
  have distinct : (circularEntries.map TypeEntry.codeName).Nodup := by decide
  have before : afterTurns table 0 3 = ⟨[3, 2, 2, 0], []⟩ := by decide
  have after : afterTurns table 0 4 = ⟨[2, 1, 1, 0], [3]⟩ := by decide
  obtain ⟨constraints, _, _, counted, turns, _⟩ := emission_counted .diamond circularEntries
  have same : Edge table = precedes := constraints distinct
  have followers (second : Nat) : second ∈ [2, 0, 1] ↔ precedes 3 second := by
    rw [← same]
    have least : ∀ second ∈ [2, 0, 1], hasEdge table 3 second := by decide
    have most : ∀ second < 4, hasEdge table 3 second → second ∈ [2, 0, 1] := by decide
    constructor
    · exact least second
    · intro follows
      have bounded := hasEdge_bounded (predecessorTable_valid .diamond circularEntries) follows
      exact most second bounded.2 follows
  refine ⟨distinct, followers, before, after, ?_, ?_⟩
  · cases turns 0 3 (by decide) with
    | emitted _ _ _ lowered =>
        have each := lowered [2, 0, 1] (by decide) (same ▸ followers)
        rwa [before, after] at each
    | skipped _ unchanged => exact absurd (after.symm.trans (unchanged.trans before)) (by decide)
  · have located := (counted 0 4 (by decide)).pending 2 1
    rw [after] at located
    rw [← same]
    exact located rfl

end HostTypes
