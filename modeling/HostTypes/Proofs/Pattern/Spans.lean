import HostTypes.Pattern.Matching
import Mathlib.Data.Finset.Card
import Mathlib.Data.Finset.Range
import Mathlib.Tactic.Tauto

/-!
What it means that a pattern matches. The places where a match begins and ends are related by the shape
of the pattern (`Spans`), and the sets of places that the matcher computes are those related to the
places it began with (`ends_realizes`). A repetition without a limit needs no more rounds than the text
has places, for every round but the last one finds a new place.
-/

namespace HostTypes

def Repeats {α : Type} (leads : α → α → Prop) : Nat → α → α → Prop
  | 0, start, stop => start = stop
  | count + 1, start, stop => ∃ next, leads start next ∧ Repeats leads count next stop

theorem repeats_add {α : Type} {leads : α → α → Prop} {first second : Nat} {start stop : α} :
    Repeats leads (first + second) start stop ↔
      ∃ middle, Repeats leads first start middle ∧ Repeats leads second middle stop := by
  induction first generalizing start with
  | zero => simp [Repeats]
  | succ first ih =>
      rw [Nat.add_right_comm]
      simp only [Repeats, ih]
      tauto

theorem exists_repeats_iff {α : Type} {leads : α → α → Prop} {least : Nat} {start stop : α}
    (allowed : Nat → Prop) :
    (∃ middle, Repeats leads least start middle ∧
      ∃ more, allowed (least + more) ∧ Repeats leads more middle stop) ↔
    ∃ count, least ≤ count ∧ allowed count ∧ Repeats leads count start stop := by
  constructor
  · rintro ⟨middle, first, more, fits, rest⟩
    exact ⟨least + more, Nat.le_add_right _ _, fits, repeats_add.2 ⟨middle, first, rest⟩⟩
  · rintro ⟨count, enough, fits, repeats⟩
    obtain ⟨more, rfl⟩ := Nat.exists_eq_add_of_le enough
    obtain ⟨middle, first, rest⟩ := repeats_add.1 repeats
    exact ⟨middle, first, more, fits, rest⟩

/-- A match of a pattern in a text begins at the first place and ends at the second. -/
def Pattern.Spans (text : List Char) : Pattern → Nat → Nat → Prop
  | empty, start, stop => start = stop
  | char set, start, stop => memberAt text set start ∧ stop = start + 1
  | anchor condition, start, stop => condition.holds text start ∧ start = stop
  | concat first second, start, stop =>
    ∃ middle, first.Spans text start middle ∧ second.Spans text middle stop
  | either first second, start, stop => first.Spans text start stop ∨ second.Spans text start stop
  | repeated least most body, start, stop =>
    ∃ count, least ≤ count ∧ (∀ bound ∈ most, count ≤ max least bound) ∧
      Repeats (body.Spans text) count start stop

/-! ## Sets of places -/

theorem mem_addMissing {held new : List Nat} {place : Nat} :
    place ∈ addMissing held new ↔ place ∈ held ∨ place ∈ new := by
  unfold addMissing
  induction new generalizing held with
  | nil => simp
  | cons other rest ih =>
      rw [List.foldl_cons, ih, List.mem_cons]
      split
      · rename_i present
        have member : other ∈ held := by simpa using present
        constructor
        · tauto
        · rintro (old | rfl | late)
          · exact .inl old
          · exact .inl member
          · exact .inr late
      · rw [List.mem_append, List.mem_singleton]
        tauto

theorem addMissing_of_subset {held new : List Nat} (subset : ∀ place ∈ new, place ∈ held) :
    addMissing held new = held := by
  unfold addMissing
  induction new with
  | nil => rfl
  | cons other rest ih =>
      obtain ⟨present, others⟩ := List.forall_mem_cons.1 subset
      rw [List.foldl_cons, if_pos (by simpa using present), ih others]

theorem length_le_addMissing (held new : List Nat) : held.length ≤ (addMissing held new).length := by
  unfold addMissing
  induction new generalizing held with
  | nil => exact le_rfl
  | cons other rest ih =>
      rw [List.foldl_cons]
      refine le_trans ?_ (ih _)
      split <;> simp

theorem subset_of_length_addMissing {held new : List Nat}
    (same : (addMissing held new).length = held.length) : ∀ place ∈ new, place ∈ held := by
  induction new with
  | nil => simp
  | cons other rest ih =>
      have step : addMissing held (other :: rest) =
        addMissing (if held.contains other then held else held ++ [other]) rest := rfl
      rw [step] at same
      cases present : held.contains other with
      | true =>
          simp only [present, if_true] at same
          exact List.forall_mem_cons.2 ⟨by simpa using present, ih same⟩
      | false =>
          simp only [present, Bool.false_eq_true, if_false] at same
          have grown := length_le_addMissing (held ++ [other]) rest
          rw [same, List.length_append, List.length_singleton] at grown
          omega

/-- A step sends places in a text of the given length to the places that some of them lead to. -/
def Realizes (size : Nat) (step : List Nat → List Nat) (leads : Nat → Nat → Prop) : Prop :=
  ∀ places, (∀ place ∈ places, place ≤ size) →
    (∀ stop, stop ∈ step places ↔ ∃ start ∈ places, leads start stop) ∧
      ∀ stop ∈ step places, stop ≤ size

theorem Realizes.congr {size : Nat} {step : List Nat → List Nat} {leads leads' : Nat → Nat → Prop}
    (realizes : Realizes size step leads) (same : ∀ start stop, leads start stop ↔ leads' start stop) :
    Realizes size step leads' := by
  have equal : leads = leads' := funext₂ fun start stop => propext (same start stop)
  exact equal ▸ realizes

section

variable {size : Nat} {step : List Nat → List Nat} {leads : Nat → Nat → Prop}

theorem Realizes.comp {later : List Nat → List Nat} {leadsLater : Nat → Nat → Prop}
    (first : Realizes size step leads) (second : Realizes size later leadsLater) :
    Realizes size (fun places => later (step places)) fun start stop =>
      ∃ middle, leads start middle ∧ leadsLater middle stop := by
  intro places bounded
  obtain ⟨mem, stays⟩ := first places bounded
  obtain ⟨memLater, staysLater⟩ := second (step places) stays
  refine ⟨fun stop => ?_, staysLater⟩
  rw [memLater]
  constructor
  · rintro ⟨middle, member, last⟩
    obtain ⟨start, begins, leads⟩ := (mem middle).1 member
    exact ⟨start, begins, middle, leads, last⟩
  · rintro ⟨start, begins, middle, leads, last⟩
    exact ⟨middle, (mem middle).2 ⟨start, begins, leads⟩, last⟩

theorem Realizes.union {other : List Nat → List Nat} {leadsToo : Nat → Nat → Prop}
    (first : Realizes size step leads) (second : Realizes size other leadsToo) :
    Realizes size (fun places => addMissing (step places) (other places)) fun start stop =>
      leads start stop ∨ leadsToo start stop := by
  intro places bounded
  obtain ⟨mem, stays⟩ := first places bounded
  obtain ⟨memToo, staysToo⟩ := second places bounded
  refine ⟨fun stop => ?_, fun stop member => ?_⟩
  · rw [mem_addMissing, mem, memToo, ← exists_or]
    exact exists_congr fun start => and_or_left.symm
  · rcases mem_addMissing.1 member with member | member
    · exact stays stop member
    · exact staysToo stop member

theorem realizes_id : Realizes size id Eq := fun places bounded => by
  simpa using bounded

theorem Realizes.applyTimes (realizes : Realizes size step leads) (count : Nat) :
    Realizes size (applyTimes step count) (Repeats leads count) := by
  induction count with
  | zero => exact realizes_id
  | succ count ih => exact realizes.comp ih

/-- Places that lead to no other place. -/
def Closed (leads : Nat → Nat → Prop) (places : List Nat) : Prop :=
  ∀ start ∈ places, ∀ stop, leads start stop → stop ∈ places

theorem Closed.repeats {places : List Nat} (closed : Closed leads places) {count start stop : Nat}
    (member : start ∈ places) (repeats : Repeats leads count start stop) : stop ∈ places := by
  induction count generalizing start with
  | zero =>
      obtain rfl : start = stop := repeats
      exact member
  | succ count ih =>
      obtain ⟨next, first, rest⟩ := repeats
      exact ih (closed start member next first) rest

theorem Realizes.closed_of_length (realizes : Realizes size step leads) {places : List Nat}
    (bounded : ∀ place ∈ places, place ≤ size)
    (same : (addMissing places (step places)).length = places.length) : Closed leads places := by
  intro start member stop first
  exact subset_of_length_addMissing same stop
    (((realizes places bounded).1 stop).2 ⟨start, member, first⟩)

theorem Realizes.addMissing_bounded (realizes : Realizes size step leads) {places : List Nat}
    (bounded : ∀ place ∈ places, place ≤ size) :
    ∀ place ∈ addMissing places (step places), place ≤ size := by
  intro place member
  rcases mem_addMissing.1 member with old | new
  · exact bounded place old
  · exact (realizes places bounded).2 place new

theorem Realizes.reachWithin (realizes : Realizes size step leads) (limit : Nat) :
    Realizes size (reachWithin step limit) fun start stop =>
      ∃ count, count ≤ limit ∧ Repeats leads count start stop := by
  intro places bounded
  induction limit generalizing places with
  | zero =>
      refine ⟨fun stop => ?_, bounded⟩
      simp [HostTypes.reachWithin, Repeats]
  | succ limit ih =>
      unfold HostTypes.reachWithin
      dsimp only
      split
      · rename_i same
        have closed := realizes.closed_of_length bounded same
        refine ⟨fun stop => ⟨fun member => ⟨stop, member, 0, Nat.zero_le _, rfl⟩, ?_⟩, bounded⟩
        rintro ⟨start, member, count, _, repeats⟩
        exact closed.repeats member repeats
      · obtain ⟨mem, stays⟩ := ih _ (realizes.addMissing_bounded bounded)
        refine ⟨fun stop => ?_, stays⟩
        rw [mem]
        constructor
        · rintro ⟨next, member, count, within, repeats⟩
          rcases mem_addMissing.1 member with old | new
          · exact ⟨next, old, count, Nat.le_succ_of_le within, repeats⟩
          · obtain ⟨start, begins, first⟩ := ((realizes places bounded).1 next).1 new
            exact ⟨start, begins, count + 1, Nat.succ_le_succ within, next, first, repeats⟩
        · rintro ⟨start, begins, count, within, repeats⟩
          cases count with
          | zero => exact ⟨start, mem_addMissing.2 (.inl begins), 0, Nat.zero_le _, repeats⟩
          | succ count =>
              obtain ⟨next, first, rest⟩ := repeats
              have new := ((realizes places bounded).1 next).2 ⟨start, begins, first⟩
              exact ⟨next, mem_addMissing.2 (.inr new), count, Nat.le_of_succ_le_succ within, rest⟩

/-- As many rounds as there are places left to find are enough. -/
theorem Realizes.closed_reachWithin (realizes : Realizes size step leads) {limit : Nat}
    {places : List Nat} (bounded : ∀ place ∈ places, place ≤ size)
    (enough : (Finset.range (size + 1) \ places.toFinset).card ≤ limit) :
    Closed leads (HostTypes.reachWithin step limit places) := by
  induction limit generalizing places with
  | zero =>
      have full : Finset.range (size + 1) ⊆ places.toFinset := by
        rw [← Finset.sdiff_eq_empty_iff_subset, ← Finset.card_eq_zero]
        exact Nat.le_zero.1 enough
      intro start member stop first
      have stays := (realizes places bounded).2 stop (((realizes places bounded).1 stop).2
        ⟨start, member, first⟩)
      exact List.mem_toFinset.1 (full (Finset.mem_range.2 (Nat.lt_succ_of_le stays)))
  | succ limit ih =>
      unfold HostTypes.reachWithin
      dsimp only
      split
      · exact realizes.closed_of_length bounded ‹_›
      · rename_i grown
        have bounded' := realizes.addMissing_bounded bounded
        refine ih bounded' ?_
        -- The list is longer, so some place in it was missing before.
        obtain ⟨place, new, missing⟩ : ∃ place ∈ step places, place ∉ places := by
          by_contra none
          simp only [not_exists, not_and, not_not] at none
          exact grown (congrArg List.length (addMissing_of_subset none))
        have fewer : (Finset.range (size + 1) \ (addMissing places (step places)).toFinset).card <
            (Finset.range (size + 1) \ places.toFinset).card := by
          refine Finset.card_lt_card ⟨fun other left => ?_, fun subset => ?_⟩
          · rw [Finset.mem_sdiff, List.mem_toFinset, mem_addMissing] at left
            rw [Finset.mem_sdiff, List.mem_toFinset]
            exact ⟨left.1, fun old => left.2 (.inl old)⟩
          · have lost : place ∈ Finset.range (size + 1) \ places.toFinset := by
              rw [Finset.mem_sdiff, List.mem_toFinset, Finset.mem_range]
              exact ⟨Nat.lt_succ_of_le ((realizes places bounded).2 place new), missing⟩
            have kept := subset lost
            rw [Finset.mem_sdiff, List.mem_toFinset, mem_addMissing] at kept
            exact kept.2 (.inr new)
        omega

theorem Realizes.reachAll (realizes : Realizes size step leads) :
    Realizes size (HostTypes.reachWithin step (size + 1)) fun start stop =>
      ∃ count, Repeats leads count start stop := by
  intro places bounded
  obtain ⟨mem, stays⟩ := realizes.reachWithin (size + 1) places bounded
  have enough : (Finset.range (size + 1) \ places.toFinset).card ≤ size + 1 :=
    (Finset.card_le_card Finset.sdiff_subset).trans_eq (Finset.card_range _)
  have closed := realizes.closed_reachWithin bounded enough
  refine ⟨fun stop => ⟨fun member => ?_, ?_⟩, stays⟩
  · obtain ⟨start, begins, count, _, repeats⟩ := (mem stop).1 member
    exact ⟨start, begins, count, repeats⟩
  · rintro ⟨start, begins, count, repeats⟩
    exact closed.repeats ((mem start).2 ⟨start, begins, 0, Nat.zero_le _, rfl⟩) repeats

end

/-! ## Matching -/

namespace Pattern

variable {text : List Char}

theorem realizes_char (set : CharSet) :
    Realizes text.length ((char set).ends text) ((char set).Spans text) := by
  intro places bounded
  refine ⟨fun stop => ?_, fun stop member => ?_⟩
  · simp only [ends, Spans, List.mem_map, List.mem_filter]
    grind
  · obtain ⟨start, found, rfl⟩ := List.mem_map.1 member
    have held := (List.mem_filter.1 found).2
    unfold memberAt at held
    split at held
    · rename_i inside
      exact (List.getElem?_eq_some_iff.1 inside).1
    · cases held

theorem realizes_anchor (condition : Anchor) :
    Realizes text.length ((anchor condition).ends text) ((anchor condition).Spans text) := by
  intro places bounded
  refine ⟨fun stop => ?_, fun stop member => bounded stop (List.mem_filter.1 member).1⟩
  simp only [ends, Spans, List.mem_filter]
  grind

theorem realizes_repeated {body : Pattern} (least : Nat) (most : Option Nat)
    (realizes : Realizes text.length (body.ends text) (body.Spans text)) :
    Realizes text.length ((repeated least most body).ends text)
      ((repeated least most body).Spans text) := by
  cases most with
  | none =>
      refine ((realizes.applyTimes least).comp realizes.reachAll).congr fun start stop => ?_
      have unlimited (more : Nat) : ∀ bound ∈ (none : Option Nat), least + more ≤ max least bound :=
        nofun
      refine Iff.trans ?_ (exists_repeats_iff fun count => ∀ bound ∈ none, count ≤ max least bound)
      exact exists_congr fun middle => and_congr_right fun _ => exists_congr fun more =>
        (and_iff_right (unlimited more)).symm
  | some most =>
      refine ((realizes.applyTimes least).comp (realizes.reachWithin (most - least))).congr
        fun start stop => ?_
      have within (more : Nat) :
          more ≤ most - least ↔ ∀ bound ∈ some most, least + more ≤ max least bound := by
        constructor
        · rintro fits _ ⟨⟩
          omega
        · intro fits
          have bound := fits most rfl
          omega
      refine Iff.trans ?_
        (exists_repeats_iff fun count => ∀ bound ∈ some most, count ≤ max least bound)
      exact exists_congr fun middle => and_congr_right fun _ => exists_congr fun more =>
        and_congr_left fun _ => within more

theorem ends_realizes (text : List Char) (pattern : Pattern) :
    Realizes text.length (pattern.ends text) (pattern.Spans text) := by
  induction pattern with
  | empty => exact realizes_id
  | char set => exact realizes_char set
  | anchor condition => exact realizes_anchor condition
  | concat first second ihFirst ihSecond => exact ihFirst.comp ihSecond
  | either first second ihFirst ihSecond => exact ihFirst.union ihSecond
  | repeated least most body ih => exact realizes_repeated least most ih

theorem isMatch_iff {pattern : Pattern} {text : String} :
    pattern.isMatch text ↔
      ∃ start stop, start ≤ text.toList.length ∧ pattern.Spans text.toList start stop := by
  have bounded : ∀ place ∈ List.range (text.toList.length + 1), place ≤ text.toList.length :=
    fun place member => Nat.le_of_lt_succ (List.mem_range.1 member)
  have mem := (ends_realizes text.toList pattern _ bounded).1
  rw [isMatch, Bool.not_eq_true', List.isEmpty_eq_false_iff_exists_mem]
  constructor
  · rintro ⟨stop, member⟩
    obtain ⟨start, begins, spans⟩ := (mem stop).1 member
    exact ⟨start, stop, bounded start begins, spans⟩
  · rintro ⟨start, stop, within, spans⟩
    exact ⟨stop, (mem stop).2 ⟨start, List.mem_range.2 (Nat.lt_succ_of_le within), spans⟩⟩

/-- Anchors at both ends leave the matches of the whole text. -/
theorem isMatch_anchored_iff {body : Pattern} {text : String} :
    (concat (anchor .textStart) (concat body (anchor .textEnd))).isMatch text ↔
      body.Spans text.toList 0 text.toList.length := by
  rw [isMatch_iff]
  constructor
  · rintro ⟨start, stop, _, _, ⟨atStart, rfl⟩, _, spans, ⟨atEnd, rfl⟩⟩
    obtain rfl : start = 0 := by simpa [Anchor.holds] using atStart
    rw [Anchor.holds, beq_iff_eq] at atEnd
    exact atEnd ▸ spans
  · intro spans
    exact ⟨0, text.toList.length, Nat.zero_le _, 0, ⟨rfl, rfl⟩, text.toList.length, spans,
      beq_self_eq_true _, rfl⟩

end Pattern

end HostTypes
