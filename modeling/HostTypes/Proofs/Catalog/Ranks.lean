import HostTypes.Proofs.Catalog.PriorityOrder
import Mathlib.Data.Finset.Lattice.Fold
import Mathlib.Data.Prod.Lex
import Mathlib.Order.Bounds.Basic
import Mathlib.Order.Lattice.Nat

/-!
The pass in which an entry is emitted. An entry waits for the predecessors of an earlier pass and for
those of its own pass that stand before it, so it is emitted in the pass of its rank: the greatest
rank of a predecessor, or one more if that predecessor is registered later. Each pass emits one rank in
registration order (`order_pass`), and the whole order is by rank and then by registration
(`levels_sorted`).
-/

namespace HostTypes

namespace Catalog

variable {edge : Nat → Nat → Prop} {rank : Nat → Nat} {size count first number : Nat}

/-! ## Ranks -/

/-- An entry that is registered before its predecessor comes a pass later than that. -/
def delay (first second : Nat) : Nat :=
  if second < first then 1 else 0

structure IsRank (edge : Nat → Nat → Prop) (rank : Nat → Nat) : Prop where
  zero : ∀ number, (∀ first, ¬ edge first number) → rank number = 0
  greatest : ∀ number, (∃ first, edge first number) →
    IsGreatest { value | ∃ first, edge first number ∧ rank first + delay first number = value }
      (rank number)

namespace IsRank

theorem le (isRank : IsRank edge rank) (step : edge first number) :
    rank first + delay first number ≤ rank number :=
  (isRank.greatest number ⟨first, step⟩).2 ⟨first, step, rfl⟩

theorem exists_last (isRank : IsRank edge rank) (step : edge first number) :
    ∃ last, edge last number ∧ rank last + delay last number = rank number :=
  (isRank.greatest number ⟨first, step⟩).1

theorem unique (founded : WellFounded edge) {other : Nat → Nat} (isRank : IsRank edge rank)
    (isOther : IsRank edge other) : rank = other := by
  funext number
  induction number using founded.induction with
  | _ number ih =>
      by_cases preceded : ∃ first, edge first number
      · obtain ⟨first, step⟩ := preceded
        obtain ⟨last, one, reached⟩ := isRank.exists_last step
        obtain ⟨final, two, attained⟩ := isOther.exists_last step
        have least := isOther.le one
        have most := isRank.le two
        rw [← ih last one] at least
        rw [ih final two] at most
        omega
      · have unpreceded : ∀ first, ¬ edge first number := fun first step => preceded ⟨first, step⟩
        rw [isRank.zero number unpreceded, isOther.zero number unpreceded]

end IsRank

open Classical in
/-- The rank by recursion on the constraints, for those between numbers below a bound. -/
noncomputable def rankOf (founded : WellFounded edge) (size : Nat) : Nat → Nat :=
  founded.fix fun number earlier =>
    (Finset.range size).sup fun first =>
      if step : edge first number then earlier first step + delay first number else 0

open Classical in
/-- What a number requires of the rank of another: nothing if it is no predecessor. -/
noncomputable def required (edge : Nat → Nat → Prop) (rank : Nat → Nat) (number first : Nat) : Nat :=
  if edge first number then rank first + delay first number else 0

theorem rankOf_eq (founded : WellFounded edge) (size number : Nat) :
    rankOf founded size number =
      (Finset.range size).sup (required edge (rankOf founded size) number) := by
  unfold rankOf
  rw [founded.fix_eq]
  rfl

theorem rankOf_isRank (founded : WellFounded edge)
    (bounded : ∀ first number, edge first number → first < size) :
    IsRank edge (rankOf founded size) := by
  have le : ∀ first number, edge first number →
      rankOf founded size first + delay first number ≤ rankOf founded size number := by
    intro first number step
    have most : required edge (rankOf founded size) number first ≤ rankOf founded size number := by
      rw [rankOf_eq founded size number]
      exact Finset.le_sup (Finset.mem_range.2 (bounded first number step))
    rwa [required, if_pos step] at most
  constructor
  · intro number unpreceded
    have nothing : required edge (rankOf founded size) number = fun _ => 0 :=
      funext fun first => if_neg (unpreceded first)
    rw [rankOf_eq, nothing]
    exact Finset.sup_bot _
  · rintro number ⟨first, step⟩
    refine ⟨?_, fun value ⟨other, earlier, same⟩ => same ▸ le other number earlier⟩
    obtain ⟨last, _, attained⟩ := Finset.exists_mem_eq_sup (Finset.range size)
      ⟨first, Finset.mem_range.2 (bounded first number step)⟩
      (required edge (rankOf founded size) number)
    rw [← rankOf_eq] at attained
    by_cases final : edge last number
    · exact ⟨last, final, by rw [attained, required, if_pos final]⟩
    · have least := le first number step
      rw [required, if_neg final] at attained
      exact ⟨first, step, by omega⟩

/-! ## Levels -/

def level (rank : Nat → Nat) (size value : Nat) : List Nat :=
  (List.range size).filter fun number => rank number == value

def levels (rank : Nat → Nat) (size count : Nat) : List Nat :=
  (List.range count).flatMap (level rank size)

theorem mem_level {value : Nat} :
    number ∈ level rank size value ↔ number < size ∧ rank number = value := by
  simp [level]

theorem level_succ (rank : Nat → Nat) (size value : Nat) :
    level rank (size + 1) value =
      level rank size value ++ if rank size = value then [size] else [] := by
  simp [level, List.range_succ, List.filter_cons]

theorem levels_succ (rank : Nat → Nat) (size count : Nat) :
    levels rank size (count + 1) = levels rank size count ++ level rank size count := by
  simp [levels, List.range_succ]

theorem mem_levels : number ∈ levels rank size count ↔ number < size ∧ rank number < count := by
  simp only [levels, List.mem_flatMap, List.mem_range, mem_level]
  exact ⟨fun ⟨_, below, inside, same⟩ => ⟨inside, same ▸ below⟩,
    fun ⟨inside, below⟩ => ⟨_, below, inside, rfl⟩⟩

theorem levels_sorted (rank : Nat → Nat) (size count : Nat) :
    (levels rank size count).Pairwise fun first second =>
      toLex (rank first, first) < toLex (rank second, second) := by
  simp only [Prod.Lex.toLex_lt_toLex]
  refine List.pairwise_flatMap.2 ⟨fun value _ => ?_, ?_⟩
  · refine List.Pairwise.imp_of_mem ?_ (List.pairwise_lt_range.filter _)
    intro first second one two before
    exact .inr ⟨(mem_level.1 one).2.trans (mem_level.1 two).2.symm, before⟩
  · refine List.pairwise_lt_range.imp ?_
    intro value other before first one second two
    rw [(mem_level.1 one).2, (mem_level.1 two).2]
    exact .inl before

theorem levels_perm_range (all : ∀ number < size, rank number < count) :
    (levels rank size count).Perm (List.range size) := by
  have nodup : (levels rank size count).Nodup :=
    (levels_sorted rank size count).imp fun before same => by simp [same] at before
  refine (List.perm_ext_iff_of_nodup nodup List.nodup_range).2 fun number => ?_
  rw [mem_levels, List.mem_range]
  exact ⟨And.left, fun inside => ⟨inside, all number inside⟩⟩

/-! ## What a pass emits -/

namespace Emission

variable {table : List (List Nat)} {emission final : Emission}

section Ranked

variable (valid : IsConstraintTable table) (acyclic : Acyclic (Edge table))
  (isRank : IsRank (Edge table) rank)

include valid acyclic isRank

/-- In the pass of a rank an entry is ready when it is its turn exactly if it has this rank. -/
theorem Tracks.isReady_iff_rank (tracks : Tracks table emission) (bound : number < table.length)
    (emitted : emission.order = levels rank table.length count ++ level rank number count) :
    emission.isReady number = true ↔ rank number = count := by
  rw [tracks.isReady_iff bound, emitted]
  simp only [List.mem_append, mem_levels, mem_level]
  constructor
  · rintro ⟨fresh, free⟩
    by_cases preceded : ∃ first, Edge table first number
    · obtain ⟨first, step⟩ := preceded
      -- The predecessor that gives the rank is emitted, in this pass only if it stands before.
      obtain ⟨last, final, attained⟩ := isRank.exists_last step
      have before := free last final
      unfold delay at attained
      split at attained <;> omega
    · have zero := isRank.zero number fun first step => preceded ⟨first, step⟩
      omega
  · rintro rfl
    refine ⟨by omega, fun first step => ?_⟩
    have apart : first ≠ number := by
      rintro rfl
      exact acyclic first (.single step)
    have least := isRank.le step
    have inside := (hasEdge_bounded valid step).1
    unfold delay at least
    split at least <;> omega

theorem Reached.order_emitEach (reached : Reached table emission)
    (emitted : emission.order = levels rank table.length count) {turns : Nat}
    (few : turns ≤ table.length) :
    (emission.emitEach table (List.range turns)).order =
      levels rank table.length count ++ level rank turns count := by
  -- After each turn the entries of this rank whose turn it was are emitted.
  induction turns with
  | zero => simpa [level] using emitted
  | succ number ih =>
      have before := ih (Nat.le_of_succ_le few)
      have bounded : ∀ other ∈ List.range number, other < table.length := by
        intro other member
        exact (List.mem_range.1 member).trans few
      have ready := ((reached.emitEach bounded).tracks valid).isReady_iff_rank valid acyclic isRank
        few before
      rw [List.range_succ, emitEach_concat, level_succ]
      split
      · rename_i now
        rw [if_pos (ready.1 now), order_emit, before, List.append_assoc]
      · rename_i later
        rw [if_neg (mt ready.2 later), before, List.append_nil]

theorem Reached.order_pass (reached : Reached table emission)
    (emitted : emission.order = levels rank table.length count) :
    (emission.pass table).order = levels rank table.length (count + 1) := by
  rw [pass_eq_emitEach, reached.order_emitEach valid acyclic isRank emitted le_rfl, levels_succ]

theorem Passes.order_eq {top passes : Nat} (most : ∀ number < table.length, rank number ≤ top)
    (run : Passes table passes emission final) (reached : Reached table emission)
    (emitted : emission.order = levels rank table.length count) (below : count ≤ top) :
    final.order = levels rank table.length (count + passes) ∧ count + passes ≤ top + 1 := by
  induction run generalizing count with
  | last => exact ⟨reached.order_pass valid acyclic isRank emitted, by omega⟩
  | @more passes emission final _ unfinished rest ih =>
      have next := reached.order_pass valid acyclic isRank emitted
      have left : count ≠ top := by
        -- After the pass of the greatest rank everything is emitted.
        rintro rfl
        have all := levels_perm_range fun number inside => Nat.lt_succ_of_le (most number inside)
        exact unfinished (by rw [next, all.length_eq, List.length_range])
      obtain ⟨order, few⟩ := ih reached.pass next (by omega)
      rw [Nat.add_right_comm] at order few
      exact ⟨order, few⟩

end Ranked

end Emission

theorem exists_passes_ranked {table : List (List Nat)} (valid : IsConstraintTable table)
    (acyclic : Acyclic (Edge table)) (isRank : IsRank (Edge table) rank) :
    ∃ passes ≤ 1 + (Finset.range table.length).sup rank,
      Emission.Passes table passes (.start table) (emitAll table) ∧
        (emitAll table).order = levels rank table.length passes := by
  obtain ⟨passes, _, run⟩ := Emission.exists_passes_emitAll valid
  have most : ∀ number < table.length, rank number ≤ (Finset.range table.length).sup rank :=
    fun number inside => Finset.le_sup (Finset.mem_range.2 inside)
  have nothing : (Emission.start table).order = levels rank table.length 0 := rfl
  obtain ⟨order, few⟩ := run.order_eq valid acyclic isRank most .start nothing (Nat.zero_le _)
  rw [Nat.zero_add] at order few
  exact ⟨passes, by omega, run, order⟩

def byRank (rank : Nat → Nat) (first second : Nat) : Bool :=
  toLex (rank first, first) ≤ toLex (rank second, second)

theorem eq_mergeSort_byRank {order : List Nat} (complete : order.Perm (List.range size))
    (sorted : order.Pairwise fun first second =>
      toLex (rank first, first) < toLex (rank second, second)) :
    order = (List.range size).mergeSort (byRank rank) := by
  have inOrder : order.Pairwise fun first second => byRank rank first second = true :=
    sorted.imp fun before => decide_eq_true before.le
  have resorted : ((List.range size).mergeSort (byRank rank)).Pairwise fun first second =>
      byRank rank first second = true := by
    apply List.pairwise_mergeSort
    · intro first second third one two
      exact decide_eq_true ((of_decide_eq_true one).trans (of_decide_eq_true two))
    · intro first second
      simpa [byRank] using le_total (toLex (rank first, first)) (toLex (rank second, second))
  apply List.Perm.eq_of_pairwise _ inOrder resorted
  · exact complete.trans (List.mergeSort_perm _ _).symm
  · intro first second _ _ one two
    have same := le_antisymm (of_decide_eq_true one) (of_decide_eq_true two)
    exact (Prod.mk.inj (toLex_inj.1 same)).2

/-! ## The order of a catalog -/

section Resolved

variable {hierarchy : Hierarchy} {entries : List TypeEntry}

theorem precedes_founded (distinct : (entries.map TypeEntry.codeName).Nodup) {order : List Nat}
    (resolved : resolveOrder hierarchy entries = .ok order) :
    WellFounded (Precedes hierarchy entries) :=
  Subrelation.wf (idxOf_lt_of_resolveOrder distinct resolved) (measure order.idxOf).wf

theorem ranked_of_resolveOrder (distinct : (entries.map TypeEntry.codeName).Nodup)
    {order : List Nat} (resolved : resolveOrder hierarchy entries = .ok order)
    (isRank : IsRank (Precedes hierarchy entries) rank) :
    order = (List.range entries.length).mergeSort (byRank rank) ∧
      ∃ passes ≤ 1 + (Finset.range entries.length).sup rank, ∃ final,
        Emission.Passes (predecessorTable hierarchy entries) passes
          (.start (predecessorTable hierarchy entries)) final ∧ final.order = order := by
  have complete := perm_range_of_resolveOrder resolved
  have acyclic := (resolveOrder_ok_iff_acyclic distinct).1 ⟨order, resolved⟩
  obtain ⟨emitted, _⟩ := resolveOrder_eq_ok_iff.1 resolved
  rw [← edge_predecessorTable distinct] at acyclic isRank
  obtain ⟨passes, few, run, ranked⟩ :=
    exists_passes_ranked (predecessorTable_valid hierarchy entries) acyclic isRank
  rw [length_predecessorTable] at few ranked
  refine ⟨eq_mergeSort_byRank complete ?_, passes, few, _, run, emitted⟩
  rw [← emitted, ranked]
  exact levels_sorted rank entries.length passes

theorem isRank_zero (ascending : ∀ first second, edge first second → first < second) :
    IsRank edge fun _ => 0 := by
  have early : ∀ {first second}, edge first second → 0 + delay first second = 0 := by
    intro first second step
    rw [Nat.zero_add]
    exact if_neg (ascending first second step).asymm
  constructor
  · exact fun _ _ => rfl
  · rintro number ⟨first, step⟩
    refine ⟨⟨first, step, early step⟩, ?_⟩
    rintro value ⟨other, earlier, rfl⟩
    exact (early earlier).le

theorem resolveOrder_of_ascending (distinct : (entries.map TypeEntry.codeName).Nodup)
    (ascending : ∀ first second, Precedes hierarchy entries first second → first < second) :
    resolveOrder hierarchy entries = .ok (List.range entries.length) := by
  obtain ⟨order, resolved⟩ :=
    (resolveOrder_ok_iff_acyclic distinct).2 (acyclic_of_rank id ascending)
  have sorted := (ranked_of_resolveOrder distinct resolved (isRank_zero ascending)).1
  have already : (List.range entries.length).Pairwise fun first second =>
      toLex (0, first) < toLex (0, second) := by
    refine List.pairwise_lt_range.imp fun before => ?_
    simpa [Prod.Lex.toLex_lt_toLex] using before
  rw [resolved, sorted, ← eq_mergeSort_byRank (List.Perm.refl _) already]

end Resolved

end Catalog

theorem CatalogBuilder.entries_of_ascending {builder : CatalogBuilder}
    (distinct : (builder.entries.map TypeEntry.codeName).Nodup)
    (ascending : ∀ first second,
      Catalog.Precedes builder.hierarchy builder.entries first second → first < second) :
    ∃ catalog, builder.freeze.1 = .ok catalog ∧ catalog.entries = builder.entries := by
  have resolved := Catalog.resolveOrder_of_ascending distinct ascending
  refine ⟨builder.arranged (List.range builder.entries.length), ?_, ?_⟩
  · rw [freeze_eq_map_arranged, resolved]
    rfl
  · exact filterMap_getElem?_range builder.entries

/-! ## The statement -/

theorem resolveOrder_ranked (hierarchy : Hierarchy) (entries : List TypeEntry)
    (distinct : (entries.map TypeEntry.codeName).Nodup) :
    (∀ order, Catalog.resolveOrder hierarchy entries = .ok order →
      (∃! rank, Catalog.IsRank (Catalog.Precedes hierarchy entries) rank) ∧
      ∀ rank, Catalog.IsRank (Catalog.Precedes hierarchy entries) rank →
        order = (List.range entries.length).mergeSort (Catalog.byRank rank) ∧
        ∃ passes ≤ 1 + (Finset.range entries.length).sup rank, ∃ final,
          Catalog.Emission.Passes (Catalog.predecessorTable hierarchy entries) passes
            (.start (Catalog.predecessorTable hierarchy entries)) final ∧ final.order = order) ∧
    (∀ builder : CatalogBuilder, builder.hierarchy = hierarchy → builder.entries = entries →
      (∀ first second, Catalog.Precedes hierarchy entries first second → first < second) →
      ∃ catalog, builder.freeze.1 = .ok catalog ∧ catalog.entries = entries) := by
  constructor
  · intro order resolved
    have founded := Catalog.precedes_founded distinct resolved
    have isRank := Catalog.rankOf_isRank founded fun _ _ precedes => (precedes.bounded distinct).1
    refine ⟨⟨Catalog.rankOf founded entries.length, isRank, ?_⟩, ?_⟩
    · exact fun other isOther => isOther.unique founded isRank
    · exact fun rank isRank => Catalog.ranked_of_resolveOrder distinct resolved isRank
  · rintro builder rfl rfl ascending
    exact CatalogBuilder.entries_of_ascending distinct ascending

theorem precedes_locatedFirst {first second : Nat} :
    Catalog.Precedes .diamond locatedFirst first second ↔ second < first ∧ first < 4 := by
  have inside : ∀ first < 4, ∀ second < 4,
      Catalog.hasEdge (Catalog.predecessorTable .diamond locatedFirst) first second = true ↔
        second < first := by
    decide
  have distinct : (locatedFirst.map TypeEntry.codeName).Nodup := by decide
  simp only [Catalog.hasEdge_predecessorTable_iff distinct] at inside
  constructor
  · intro precedes
    obtain ⟨one, two⟩ := precedes.bounded distinct
    exact ⟨(inside first one second two).1 precedes, one⟩
  · rintro ⟨before, bound⟩
    exact (inside first bound second (before.trans bound)).2 before

theorem isRank_locatedFirst :
    Catalog.IsRank (Catalog.Precedes .diamond locatedFirst) (3 - ·) := by
  constructor
  · intro number unpreceded
    have last := mt precedes_locatedFirst.2 (unpreceded 3)
    omega
  · rintro number ⟨first, precedes⟩
    obtain ⟨before, bound⟩ := precedes_locatedFirst.1 precedes
    refine ⟨⟨number + 1, precedes_locatedFirst.2 (by omega), ?_⟩, ?_⟩
    · rw [Catalog.delay, if_pos (Nat.lt_succ_self number)]
      omega
    · rintro value ⟨other, step, rfl⟩
      obtain ⟨earlier, _⟩ := precedes_locatedFirst.1 step
      rw [Catalog.delay, if_pos earlier]
      omega

theorem resolveOrder_ranked_diamond :
    (locatedFirst.map TypeEntry.codeName).Nodup ∧
      [3, 2, 1, 0] = (List.range 4).mergeSort (Catalog.byRank (3 - ·)) ∧
      (∃ passes ≤ 4, ∃ final,
        Catalog.Emission.Passes (Catalog.predecessorTable .diamond locatedFirst) passes
          (.start (Catalog.predecessorTable .diamond locatedFirst)) final ∧
        final.order = [3, 2, 1, 0]) ∧
      ∃ catalog,
        ({ hierarchy := .diamond, entries := diamondEntries.reverse } : CatalogBuilder).freeze.1 =
          .ok catalog ∧ catalog.entries = diamondEntries.reverse := by
  have distinct : (diamondEntries.reverse.map TypeEntry.codeName).Nodup := by decide
  have ascending : ∀ first second,
      Catalog.Precedes .diamond diamondEntries.reverse first second → first < second := by
    have inside : ∀ first < 4, ∀ second < 4,
        Catalog.hasEdge (Catalog.predecessorTable .diamond diamondEntries.reverse) first second →
          first < second := by
      decide
    simp only [Catalog.hasEdge_predecessorTable_iff distinct] at inside
    intro first second precedes
    obtain ⟨one, two⟩ := precedes.bounded distinct
    exact inside first one second two precedes
  obtain ⟨ranked, _⟩ := resolveOrder_ranked .diamond locatedFirst (by decide)
  obtain ⟨sorted, passes, few, run⟩ := (ranked [3, 2, 1, 0] rfl).2 _ isRank_locatedFirst
  have kept := (resolveOrder_ranked .diamond diamondEntries.reverse distinct).2
    { hierarchy := .diamond, entries := diamondEntries.reverse } rfl rfl ascending
  exact ⟨by decide, sorted, ⟨passes, few.trans (by decide), run⟩, kept⟩

end HostTypes
