import HostTypes.Pattern.Reader

/-!
How far readers of patterns look. None of them looks behind the text that it leaves unread, except at a
beginning of it to see that nothing more belongs to what it reads (`Local`); so a text that is cut off
somewhere in the unread part is read in the same way. Fuel makes no difference as long as there is as
much as characters are taken (`LocalWithin`).
-/

namespace HostTypes

namespace Pattern

section

variable {α β : Type}

def Local (read : List Char → Option (α × List Char)) : Prop :=
  ∀ text a rest, read text = some (a, rest) →
    ∃ used, text = used ++ rest ∧ ∀ kept, kept <+: rest → read (used ++ kept) = some (a, kept)

def LocalWithin (read : Nat → List Char → Option (α × List Char)) : Prop :=
  ∀ fuel text a rest, read fuel text = some (a, rest) →
    ∃ used, text = used ++ rest ∧ ∀ kept, kept <+: rest →
      ∀ enough, used.length ≤ enough → read enough (used ++ kept) = some (a, kept)

theorem local_none : Local fun _ => (none : Option (α × List Char)) := nofun

theorem local_some (a : α) : Local fun rest => some (a, rest) := by
  rintro text a rest ⟨⟩
  exact ⟨[], rfl, fun kept _ => rfl⟩

theorem Local.given (found : Option β) {next : β → List Char → Option (α × List Char)}
    (each : ∀ b, Local (next b)) : Local fun rest => found.bind fun b => next b rest := by
  cases found with
  | none => exact local_none
  | some b => exact each b

theorem local_option (found : Option β) (f : β → α) :
    Local fun rest => found.bind fun b => some (f b, rest) :=
  Local.given found fun b => local_some (f b)

variable {read : List Char → Option (α × List Char)}

theorem Local.bind {next : α → List Char → Option (β × List Char)} (first : Local read)
    (second : ∀ a, Local (next a)) :
    Local fun text => (read text).bind fun found => next found.1 found.2 := by
  intro text b rest found
  obtain ⟨⟨a, middle⟩, readFirst, readNext⟩ := Option.bind_eq_some_iff.1 found
  obtain ⟨used, rfl, again⟩ := first _ _ _ readFirst
  obtain ⟨usedNext, rfl, againNext⟩ := second a _ _ _ readNext
  refine ⟨used ++ usedNext, (List.append_assoc _ _ _).symm, fun kept begins => ?_⟩
  have readAgain := again (usedNext ++ kept) ((List.prefix_append_right_inj usedNext).2 begins)
  rw [List.append_assoc]
  exact Option.bind_eq_some_iff.2 ⟨_, readAgain, againNext kept begins⟩

theorem Local.map (first : Local read) (f : α → β) :
    Local fun text => (read text).map fun found => (f found.1, found.2) := by
  intro text b rest found
  obtain ⟨⟨a, _⟩, readFirst, ⟨⟩⟩ := Option.map_eq_some_iff.1 found
  obtain ⟨used, rfl, again⟩ := first _ _ _ readFirst
  exact ⟨used, rfl, fun kept begins => Option.map_eq_some_iff.2 ⟨_, again kept begins, rfl⟩⟩

/-- A reader that takes the first character, whatever it is. -/
theorem Local.cons (nothing : read [] = none) (each : ∀ c, Local fun rest => read (c :: rest)) :
    Local read := by
  intro text a rest found
  cases text with
  | nil => simp [nothing] at found
  | cons c text =>
      obtain ⟨used, rfl, again⟩ := each c _ _ _ found
      exact ⟨c :: used, rfl, again⟩

/-- A reader that reads nothing from an empty text takes something. -/
theorem Local.exists_used (first : Local read) (nothing : read [] = none) {text rest : List Char}
    {a : α} (found : read text = some (a, rest)) :
    ∃ used, text = used ++ rest ∧ 0 < used.length ∧
      ∀ kept, kept <+: rest → read (used ++ kept) = some (a, kept) := by
  obtain ⟨used, rfl, again⟩ := first _ _ _ found
  refine ⟨used, rfl, List.length_pos_iff.2 ?_, again⟩
  rintro rfl
  have stuck := again [] ⟨rest, rfl⟩
  rw [List.append_nil, nothing] at stuck
  cases stuck

theorem Local.congr {other : List Char → Option (α × List Char)} (first : Local read)
    (same : ∀ text, read text = other text) : Local other :=
  funext same ▸ first

theorem Local.ite {other : List Char → Option (α × List Char)} (condition : Bool) (first : Local read)
    (second : Local other) : Local fun text => if condition then read text else other text := by
  cases condition with
  | true => exact first
  | false => exact second

theorem LocalWithin.local {read : Nat → List Char → Option (α × List Char)}
    (within : LocalWithin read) (spare : Nat) : Local fun text => read (text.length + spare) text := by
  intro text a rest found
  obtain ⟨used, rfl, again⟩ := within _ _ _ _ found
  refine ⟨used, rfl, fun kept begins => again kept begins _ ?_⟩
  rw [List.length_append]
  omega

theorem exists_fuel {used later : List Char} {enough : Nat} (taken : 0 < used.length)
    (bound : (used ++ later).length ≤ enough) : ∃ fuel, enough = fuel + 1 ∧ later.length ≤ fuel := by
  rw [List.length_append] at bound
  exact ⟨enough - 1, by omega, by omega⟩

end

/-! ## What does not belong to a pattern -/

theorem skipFiller_local (inComment : Bool) :
    Local fun text => some ((), PatternMode.skipFiller inComment text) := by
  intro text a rest found
  obtain ⟨⟩ := found
  induction text generalizing inComment with
  | nil => exact ⟨[], rfl, fun kept begins => by rw [List.prefix_nil.1 begins]; rfl⟩
  | cons c text ih =>
      have goOn (next : Bool)
          (same : ∀ text, PatternMode.skipFiller inComment (c :: text) =
            PatternMode.skipFiller next text) :
          ∃ used, c :: text = used ++ PatternMode.skipFiller inComment (c :: text) ∧
            ∀ kept, kept <+: PatternMode.skipFiller inComment (c :: text) →
              some ((), PatternMode.skipFiller inComment (used ++ kept)) = some ((), kept) := by
        obtain ⟨used, split, again⟩ := ih next
        rw [same]
        refine ⟨c :: used, congrArg (c :: ·) split, fun kept begins => ?_⟩
        rw [List.cons_append, same]
        exact again kept begins
      cases inComment with
      | true => exact goOn (c != '\n') fun text => rfl
      | false =>
          cases comment : c == '#' with
          | true => exact goOn true fun text => by simp [PatternMode.skipFiller, comment]
          | false =>
              cases blank : isBlank c with
              | true => exact goOn false fun text => by simp [PatternMode.skipFiller, comment, blank]
              | false =>
                  have stays (text : List Char) :
                      PatternMode.skipFiller false (c :: text) = c :: text := by
                    simp [PatternMode.skipFiller, comment, blank]
                  rw [stays]
                  refine ⟨[], rfl, fun kept begins => ?_⟩
                  cases kept with
                  | nil => rfl
                  | cons other kept =>
                      obtain ⟨rfl, _⟩ := List.cons_prefix_cons.1 begins
                      exact congrArg (fun rest => some ((), rest)) (stays kept)

variable {mode : PatternMode}

theorem skip_local (mode : PatternMode) : Local fun text => some ((), mode.skip text) := by
  unfold PatternMode.skip
  cases mode.verbose with
  | true => exact skipFiller_local false
  | false => exact local_some ()

theorem Local.skipped {α : Type} {read : List Char → Option (α × List Char)} (first : Local read)
    (mode : PatternMode) : Local fun text => read (mode.skip text) :=
  (skip_local mode).bind fun _ => first

theorem skip_nil : mode.skip [] = [] := by
  unfold PatternMode.skip
  split <;> rfl

/-- What is skipped of a text, and how what begins with it is skipped. -/
theorem exists_skipped (mode : PatternMode) (text : List Char) :
    ∃ used, text = used ++ mode.skip text ∧
      ∀ kept, kept <+: mode.skip text → mode.skip (used ++ kept) = kept := by
  obtain ⟨used, split, again⟩ := skip_local mode text () _ rfl
  exact ⟨used, split, fun kept begins => (Prod.mk.inj (Option.some.inj (again kept begins))).2⟩

theorem skipFiller_mono {inComment : Bool} {short text : List Char} (begins : short <+: text) :
    PatternMode.skipFiller inComment short <+: PatternMode.skipFiller inComment text := by
  induction short generalizing inComment text with
  | nil => cases inComment <;> exact ⟨_, rfl⟩
  | cons c short ih =>
      obtain ⟨rest, rfl⟩ := begins
      have later : short <+: short ++ rest := List.prefix_append _ _
      cases inComment with
      | true => exact ih later
      | false =>
          simp only [List.cons_append, PatternMode.skipFiller]
          split
          · exact ih later
          · split
            · exact ih later
            · exact (List.prefix_append_right_inj [c]).2 later

theorem skip_mono {short text : List Char} (begins : short <+: text) :
    mode.skip short <+: mode.skip text := by
  unfold PatternMode.skip
  split
  · exact skipFiller_mono begins
  · exact begins

/-- Whether the first visible character is of some kind can change only if none is left. -/
theorem any_head?_skip_eq {kind : Char → Bool} {short text : List Char} (begins : short <+: text)
    (visible : mode.skip short ≠ [] ∨ (mode.skip text).head?.any kind = false) :
    (mode.skip short).head?.any kind = (mode.skip text).head?.any kind := by
  obtain ⟨more, same⟩ : mode.skip short <+: mode.skip text := skip_mono begins
  cases left : mode.skip short with
  | nil =>
      rcases visible with visible | other
      · exact absurd left visible
      · exact other.symm
  | cons c rest => rw [← same, left, List.cons_append, List.head?_cons, List.head?_cons]

theorem exists_of_next? {text rest : List Char} {c : Char} (found : mode.next? text = some (c, rest)) :
    ∃ filler, text = filler ++ c :: rest ∧
      ∀ kept, kept <+: rest → mode.next? (filler ++ c :: kept) = some (c, kept) := by
  obtain ⟨filler, split, again⟩ := exists_skipped mode text
  unfold PatternMode.next? at found ⊢
  cases skipped : mode.skip text with
  | nil => simp [skipped] at found
  | cons first after =>
      rw [skipped] at split found again
      obtain ⟨⟩ := found
      refine ⟨filler, split, fun kept begins => ?_⟩
      rw [again (c :: kept) ((List.prefix_append_right_inj [c]).2 begins)]

theorem next?_local (mode : PatternMode) : Local mode.next? := by
  intro text c rest found
  obtain ⟨filler, rfl, again⟩ := exists_of_next? found
  exact ⟨filler ++ [c], by simp, fun kept begins => by simpa using again kept begins⟩

/-! ## Marks -/

theorem begins_iff {mark text : List Char} : mark.isPrefixOf text ↔ mark <+: text :=
  List.isPrefixOf_iff_prefix

theorem not_begins_mono {mark short text : List Char} (begins : short <+: text)
    (other : ¬ mark.isPrefixOf text) : ¬ mark.isPrefixOf short := fun starts =>
  other (begins_iff.2 ((begins_iff.1 starts).trans begins))

theorem not_begins_append {mark text : List Char} (long : mark.length ≤ text.length)
    (other : ¬ mark.isPrefixOf text) (more : List Char) : ¬ mark.isPrefixOf (text ++ more) :=
  fun starts => other (begins_iff.2
    (List.prefix_of_prefix_length_le (begins_iff.1 starts) (List.prefix_append _ _) long))

theorem takeMark_local (mark : List Char) : Local fun text => some (takeMark mark text) := by
  intro text found rest same
  dsimp only at same
  unfold takeMark at same
  split at same
  · rename_i starts
    obtain ⟨⟩ := same
    obtain ⟨rest, rfl⟩ := begins_iff.1 starts
    rw [List.drop_left]
    exact ⟨mark, rfl, fun kept _ => by simp [takeMark]⟩
  · rename_i other
    obtain ⟨⟩ := same
    refine ⟨[], rfl, fun kept begins => ?_⟩
    simp [takeMark, not_begins_mono begins other]

theorem dropReluctance_local : Local fun text => some ((), dropReluctance text) :=
  (takeMark_local ['?']).map fun _ => ()

theorem eq_of_takeMark {mark text rest : List Char} {found : Bool}
    (taken : takeMark mark text = (found, rest)) : text = if found then mark ++ rest else rest := by
  unfold takeMark at taken
  split at taken
  · rename_i starts
    obtain ⟨⟨⟩, rfl⟩ := Prod.mk.inj taken
    obtain ⟨after, rfl⟩ := begins_iff.1 starts
    simp
  · obtain ⟨⟨⟩, rfl⟩ := Prod.mk.inj taken
    rfl

theorem takeMark_append {mark text rest : List Char} {found : Bool}
    (taken : takeMark mark text = (found, rest))
    (short : found = true ∨ mark.length ≤ text.length) (more : List Char) :
    takeMark mark (text ++ more) = (found, rest ++ more) := by
  unfold takeMark at taken
  split at taken
  · rename_i starts
    obtain ⟨⟨⟩, rfl⟩ := Prod.mk.inj taken
    obtain ⟨after, rfl⟩ := begins_iff.1 starts
    simp [takeMark]
  · rename_i other
    obtain ⟨⟨⟩, rfl⟩ := Prod.mk.inj taken
    have long : mark.length ≤ text.length := by simpa using short
    simp [takeMark, not_begins_append long other]

theorem cutAt?_mark {mark : List Char} (filled : mark ≠ []) (rest : List Char) :
    cutAt? mark (mark ++ rest) = some ([], rest) := by
  cases mark with
  | nil => exact absurd rfl filled
  | cons c mark => simp [cutAt?]

theorem append_of_cutAt? {mark text name rest : List Char}
    (found : cutAt? mark text = some (name, rest)) : text = name ++ (mark ++ rest) := by
  induction text generalizing name with
  | nil => cases found
  | cons c text ih =>
      unfold cutAt? at found
      split at found
      · rename_i starts
        obtain ⟨rest, same⟩ := begins_iff.1 starts
        rw [← same, List.drop_left] at found
        obtain ⟨⟩ := found
        exact same.symm
      · obtain ⟨⟨name, _⟩, cut, ⟨⟩⟩ := Option.map_eq_some_iff.1 found
        rw [List.cons_append, ← ih cut]

theorem cutAt?_local {mark : List Char} (filled : mark ≠ []) : Local (cutAt? mark) := by
  intro text name rest found
  induction text generalizing name with
  | nil => cases found
  | cons c text ih =>
      unfold cutAt? at found
      split at found
      · rename_i starts
        obtain ⟨rest, same⟩ := begins_iff.1 starts
        rw [← same, List.drop_left] at found
        obtain ⟨⟩ := found
        exact ⟨mark, same.symm, fun kept _ => cutAt?_mark filled kept⟩
      · rename_i other
        obtain ⟨⟨name, _⟩, cut, ⟨⟩⟩ := Option.map_eq_some_iff.1 found
        obtain ⟨used, rfl, again⟩ := ih name cut
        refine ⟨c :: used, rfl, fun kept begins => ?_⟩
        have shorter : c :: (used ++ kept) <+: c :: (used ++ rest) :=
          (List.prefix_append_right_inj (c :: used)).2 begins
        rw [List.cons_append, cutAt?, if_neg (not_begins_mono shorter other), again kept begins]
        rfl

theorem cutAt?_append {mark text name rest : List Char} (filled : mark ≠ [])
    (found : cutAt? mark text = some (name, rest)) (more : List Char) :
    cutAt? mark (text ++ more) = some (name, rest ++ more) := by
  induction text generalizing name with
  | nil => cases found
  | cons c text ih =>
      unfold cutAt? at found
      split at found
      · rename_i starts
        obtain ⟨rest, same⟩ := begins_iff.1 starts
        rw [← same, List.drop_left] at found
        obtain ⟨⟩ := found
        rw [← same, List.append_assoc, cutAt?_mark filled]
      · rename_i other
        obtain ⟨⟨name, _⟩, cut, ⟨⟩⟩ := Option.map_eq_some_iff.1 found
        have long : mark.length ≤ (c :: text).length := by
          simp [append_of_cutAt? cut]
          omega
        have differs := not_begins_append long other more
        rw [List.cons_append] at differs
        rw [List.cons_append, cutAt?, if_neg differs, ih cut]
        rfl

end Pattern

end HostTypes
