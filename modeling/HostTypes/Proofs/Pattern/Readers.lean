import HostTypes.Proofs.Pattern.Locality

/-!
Every reader of a part of a pattern is local: escapes, bracket expressions, repetitions and groups up to
their bodies. Most are put together from smaller ones; those that look ahead to see whether more belongs
to what they read have proofs of their own.
-/

namespace HostTypes

namespace Pattern

variable {mode : PatternMode}

/-! ## Escapes -/

theorem readBraced_local (mode : PatternMode) : LocalWithin (readBraced mode) := by
  intro fuel
  induction fuel with
  | zero => exact nofun
  | succ fuel ih =>
      intro text inner rest found
      obtain ⟨⟨c, after⟩, next, goesOn⟩ := Option.bind_eq_some_iff.1 found
      obtain ⟨filler, rfl, again⟩ := exists_of_next? next
      by_cases last : c = '\x7d'
      · subst last
        simp only [beq_self_eq_true, if_true] at goesOn
        obtain ⟨⟩ := goesOn
        refine ⟨filler ++ ['\x7d'], by simp, fun kept begins enough bound => ?_⟩
        cases enough with
        | zero => simp at bound
        | succ enough => simp [readBraced, again kept begins]
      · simp only [beq_iff_eq, last, if_false] at goesOn
        obtain ⟨⟨inner, _⟩, readRest, ⟨⟩⟩ := Option.bind_eq_some_iff.1 goesOn
        obtain ⟨used, rfl, againRest⟩ := ih _ _ _ readRest
        refine ⟨filler ++ c :: used, by simp, fun kept begins enough bound => ?_⟩
        have begins' := (List.prefix_append_right_inj used).2 begins
        cases enough with
        | zero => simp at bound
        | succ enough =>
            have readAgain := againRest kept begins enough (by simp at bound; omega)
            simp [readBraced, again _ begins', last, readAgain]

theorem readCounted_local (mode : PatternMode) (count : Nat) : Local (readCounted mode count) := by
  induction count with
  | zero => exact local_some []
  | succ count ih => exact (next?_local mode).bind fun c => ih.bind fun inner => local_some (c :: inner)

theorem readCodeDigits_local (mode : PatternMode) (count : Nat) :
    Local (readCodeDigits mode count) := by
  have digits (braced : Bool) :=
    Local.ite braced ((readBraced_local mode).local 1) (readCounted_local mode count)
  have whole := ((takeMark_local ['\x7b']).skipped mode).bind digits
  exact whole

theorem readCode_local (mode : PatternMode) (count : Nat) : Local (readCode mode count) := by
  have code (digits : List Char) :=
    Local.ite digits.isEmpty local_none (local_option (charOfHex? digits) id)
  have whole := (readCodeDigits_local mode count).bind code
  exact whole

theorem readPropertyName_local (mode : PatternMode) : Local (readPropertyName mode) := by
  have braced :=
    ((readBraced_local mode).local 1).bind fun name => local_option (braceProperty? name) id
  have single (c : Char) := local_option (CharSet.property? [c]) fun set => (set, false)
  have whole := (next?_local mode).bind fun c =>
    Local.ite (c == '\\') local_none (Local.ite (c == '\x7b') braced (single c))
  exact whole

theorem readProperty_local (mode : PatternMode) (negated : Bool) :
    Local (readProperty mode negated) := by
  have allowed (set : CharSet) (unequal : Bool) :=
    local_some (Atom.set (CharSet.negatedIf (negated != unequal) (mode.fold set)))
  have whole := (readPropertyName_local mode).bind fun property =>
    Local.ite mode.asciiOnly local_none (allowed property.1 property.2)
  exact whole

theorem visible_of_readBraced {enough : Nat} {text inner rest : List Char}
    (found : readBraced mode enough text = some (inner, rest)) : mode.skip text ≠ [] := by
  intro invisible
  cases enough with
  | zero => cases found
  | succ enough => simp [readBraced, PatternMode.next?, invisible] at found

theorem readWordEdge_local (mode : PatternMode) : Local (readWordEdge mode) := by
  intro text edge rest found
  unfold readWordEdge at found
  split at found
  · rename_i text
    split at found
    · rename_i named
      obtain ⟨⟨name, _⟩, readName, known⟩ := Option.bind_eq_some_iff.1 found
      obtain ⟨_, knownEdge, ⟨⟩⟩ := Option.bind_eq_some_iff.1 known
      obtain ⟨used, rfl, again⟩ := (readBraced_local mode).local 1 _ _ _ readName
      refine ⟨'\x7b' :: used, rfl, fun kept begins => ?_⟩
      have readAgain := again kept begins
      have namedAgain := (any_head?_skip_eq ((List.prefix_append_right_inj used).2 begins)
        (.inl (visible_of_readBraced readAgain))).trans named
      exact (if_pos namedAgain).trans
        (Option.bind_eq_some_iff.2 ⟨_, readAgain, Option.bind_eq_some_iff.2 ⟨_, knownEdge, rfl⟩⟩)
    · rename_i other
      obtain ⟨⟩ := found
      refine ⟨[], rfl, fun kept begins => ?_⟩
      cases kept with
      | nil => rfl
      | cons c kept =>
          obtain ⟨rfl, shorter⟩ := List.cons_prefix_cons.1 begins
          rw [Bool.not_eq_true] at other
          have otherAgain := any_head?_skip_eq shorter (.inr other)
          exact if_neg (by simp [otherAgain, other])
  · rename_i other
    obtain ⟨⟩ := found
    refine ⟨[], rfl, fun kept begins => ?_⟩
    rw [List.nil_append]
    unfold readWordEdge
    split
    · rename_i kept
      obtain ⟨more, rfl⟩ := begins
      exact absurd rfl (other (kept ++ more))
    · rfl

theorem readEscaped_local (mode : PatternMode) (c : Char) : Local (readEscaped mode c) := by
  have named (set : CharSet) := local_option (mode.admit? set) Atom.set
  have edge (edge : WordEdge) := local_some (Atom.anchor (.word edge mode.wordChars))
  have code (count : Nat) := (readCode_local mode count).map Atom.literal
  unfold readEscaped
  split
  · have byte := (readCode_local mode 2).bind fun c =>
      Local.ite (mode.asciiOnly && 0x80 ≤ c.toNat && c.toNat < 0x100) local_none
        (local_some (Atom.literal c))
    exact byte
  · exact code 4
  · exact code 8
  · exact readProperty_local mode false
  · exact readProperty_local mode true
  · exact named _
  · exact named _
  · exact named _
  · exact named _
  · exact named _
  · exact named _
  · exact local_some _
  · exact local_some _
  · have boundary := (readWordEdge_local mode).bind edge
    exact boundary
  · exact edge _
  · exact edge _
  · exact edge _
  · exact local_option (plainEscape? c) Atom.literal

theorem readEscape_local (mode : PatternMode) : Local (readEscape mode) :=
  Local.cons rfl fun c => readEscaped_local mode c

/-! ## Bracket expressions -/

theorem readMember_local (mode : PatternMode) : Local (readMember mode) := by
  refine Local.cons rfl fun c => ?_
  by_cases escape : c = '\\'
  · subst escape
    exact readEscape_local mode
  · have single (rest : List Char) : readMember mode (c :: rest) = some (.literal c, rest) := by
      simp [readMember]
    simp only [single]
    exact local_some _

/-- Where there is no range, there is none in a shorter text either. -/
theorem takeDash_of_alone {short text rest : List Char} (begins : short <+: text)
    (alone : takeDash mode text = (false, rest)) : takeDash mode short = (false, mode.skip short) := by
  unfold takeDash
  split
  · rename_i after dash
    obtain ⟨more, longer⟩ : mode.skip short <+: mode.skip text := skip_mono begins
    rw [dash, List.cons_append] at longer
    rw [if_neg, dash]
    intro ranges
    have visible : mode.skip after ≠ [] := by
      intro none
      simp [none] at ranges
    rw [any_head?_skip_eq (List.prefix_append after more) (.inl visible)] at ranges
    simp [takeDash, ← longer, ranges] at alone
  · rfl

theorem exists_of_takeDash {text rest : List Char} (ranges : takeDash mode text = (true, rest)) :
    ∃ used, text = used ++ rest ∧
      ∀ kept, kept <+: rest → kept ≠ [] → takeDash mode (used ++ kept) = (true, kept) := by
  unfold takeDash at ranges
  split at ranges
  · rename_i after dash
    split at ranges
    · rename_i goesOn
      obtain ⟨_, rfl⟩ := Prod.mk.inj ranges
      obtain ⟨filler, split, again⟩ := exists_skipped mode text
      obtain ⟨fillerAfter, splitAfter, againAfter⟩ := exists_skipped mode after
      rw [dash] at split again
      refine ⟨filler ++ '-' :: fillerAfter, ?_, fun kept begins visible => ?_⟩
      · rw [List.append_assoc, List.cons_append, ← splitAfter, split]
      · have shorter : '-' :: (fillerAfter ++ kept) <+: '-' :: after := by
          rw [splitAfter]
          exact (List.prefix_append_right_inj ('-' :: fillerAfter)).2 begins
        have skips := again _ shorter
        have skipsAfter := againAfter kept begins
        have goesOnAgain := (any_head?_skip_eq (List.cons_prefix_cons.1 shorter).2
          (.inl (by rwa [skipsAfter]))).trans goesOn
        rw [List.append_assoc, List.cons_append, takeDash, skips]
        exact (if_pos goesOnAgain).trans (by rw [skipsAfter])
    · cases ranges
  · cases ranges

theorem visible_of_readMember {text rest : List Char} {atom : Atom}
    (found : readMember mode text = some (atom, rest)) : text ≠ [] := by
  rintro rfl
  cases found

theorem readRange_local (mode : PatternMode) : Local (readRange mode) := by
  intro text set rest found
  obtain ⟨⟨first, middle⟩, readFirst, goesOn⟩ := Option.bind_eq_some_iff.1 found
  obtain ⟨used, rfl, again⟩ := readMember_local mode _ _ _ readFirst
  cases dash : takeDash mode middle with
  | mk ranges after =>
    simp only [dash] at goesOn
    cases ranges with
    | false =>
        obtain ⟨_, member, ⟨⟩⟩ := Option.bind_eq_some_iff.1 goesOn
        obtain ⟨filler, split, skips⟩ := exists_skipped mode middle
        have rest_eq : rest = mode.skip middle := by
          have alone := takeDash_of_alone List.prefix_rfl dash
          rw [dash] at alone
          exact (Prod.mk.inj alone).2
        subst rest_eq
        refine ⟨used ++ filler, by rw [List.append_assoc, ← split], fun kept begins => ?_⟩
        have shorter : filler ++ kept <+: middle := by
          rw [split]
          exact (List.prefix_append_right_inj filler).2 (by simpa using begins)
        have alone := takeDash_of_alone shorter dash
        simp [readRange, again _ shorter, alone, member, skips kept begins]
    | true =>
        obtain ⟨⟨last, _⟩, readLast, both⟩ := Option.bind_eq_some_iff.1 goesOn
        obtain ⟨_, range, ⟨⟩⟩ := Option.bind_eq_some_iff.1 both
        obtain ⟨usedDash, rfl, againDash⟩ := exists_of_takeDash dash
        obtain ⟨usedLast, rfl, againLast⟩ := readMember_local mode _ _ _ readLast
        refine ⟨used ++ (usedDash ++ usedLast), by simp, fun kept begins => ?_⟩
        have shorter := (List.prefix_append_right_inj usedLast).2 begins
        have readAgain := againLast kept begins
        have dashAgain := againDash _ shorter (visible_of_readMember readAgain)
        have firstAgain := again _ ((List.prefix_append_right_inj usedDash).2 shorter)
        simp [readRange, firstAgain, dashAgain, readAgain, range]

theorem readAsciiClass?_local (mode : PatternMode) : Local (readAsciiClass? mode) := by
  have closing : [':', ']'] ≠ [] := List.cons_ne_nil _ _
  have inner := (takeMark_local ['^']).bind fun negated => (cutAt?_local closing).bind fun name =>
    local_option (CharSet.asciiClass? (String.ofList name)) fun set =>
      CharSet.negatedIf negated (mode.fold set)
  refine Local.cons rfl fun c => ?_
  by_cases colon : c = ':'
  · subst colon
    exact inner
  · have other (rest : List Char) : readAsciiClass? mode (c :: rest) = none := by
      unfold readAsciiClass?
      split
      · rename_i same
        exact absurd (List.cons.inj same).1 colon
      · rfl
    simp only [other]
    exact local_none

theorem readAsciiClass?_append {text rest : List Char} {set : CharSet}
    (found : readAsciiClass? mode text = some (set, rest)) (more : List Char) :
    readAsciiClass? mode (text ++ more) = some (set, rest ++ more) := by
  unfold readAsciiClass? at found
  split at found
  · rename_i text
    cases caret : takeMark ['^'] text with
    | mk negated after =>
      rw [caret] at found
      obtain ⟨⟨name, _⟩, cut, known⟩ := Option.bind_eq_some_iff.1 found
      obtain ⟨set, named, ⟨⟩⟩ := Option.bind_eq_some_iff.1 known
      have long : ['^'].length ≤ text.length := by
        obtain ⟨used, rfl, _⟩ := takeMark_local ['^'] _ _ _ (congrArg some caret)
        simp [append_of_cutAt? cut]
        omega
      have closing : [':', ']'] ≠ [] := List.cons_ne_nil _ _
      simp [readAsciiClass?, takeMark_append caret (.inr long), cutAt?_append closing cut, named]
  · cases found

theorem cutDashes_dash {fuel : Nat} {text after : List Char} (skips : mode.skip text = '-' :: after) :
    cutDashes mode (fuel + 1) text = (true, (cutDashes mode fuel after).2) := by
  simp [cutDashes, takeMark, skips]

theorem cutDashes_other {fuel : Nat} {text after : List Char} (skips : mode.skip text = after)
    (other : takeMark ['-'] after = (false, after)) :
    cutDashes mode (fuel + 1) text = (false, after) := by
  simp [cutDashes, skips, other]

theorem exists_cutDashes (mode : PatternMode) {fuel : Nat} {text : List Char}
    (bound : text.length < fuel) :
    ∃ used, text = used ++ (cutDashes mode fuel text).2 ∧
      ∀ kept, kept <+: (cutDashes mode fuel text).2 → ∀ enough, used.length < enough →
        cutDashes mode enough (used ++ kept) = ((cutDashes mode fuel text).1, kept) := by
  induction fuel generalizing text with
  | zero => cases bound
  | succ fuel ih =>
      obtain ⟨filler, split, skips⟩ := exists_skipped mode text
      cases dash : takeMark ['-'] (mode.skip text) with
      | mk dashes after =>
        cases dashes with
        | false =>
            have same : mode.skip text = after := eq_of_takeMark dash
            rw [same] at dash split skips
            rw [cutDashes_other same dash]
            refine ⟨filler, split, fun kept begins enough spare => ?_⟩
            obtain ⟨mark, splitMark, again⟩ := takeMark_local ['-'] _ _ _ (congrArg some dash)
            obtain rfl : mark = [] := by simpa using congrArg List.length splitMark
            obtain ⟨enough, rfl⟩ := Nat.exists_eq_add_of_lt spare
            exact cutDashes_other (skips kept begins) (Option.some.inj (again kept begins))
        | true =>
            have same : mode.skip text = '-' :: after := eq_of_takeMark dash
            rw [same] at split skips
            have shorter : after.length < fuel := by
              rw [split] at bound
              simp at bound
              omega
            obtain ⟨used, splitAfter, again⟩ := ih shorter
            rw [cutDashes_dash same]
            refine ⟨filler ++ '-' :: used, ?_, fun kept begins enough spare => ?_⟩
            · rw [List.append_assoc, List.cons_append, ← splitAfter, split]
            · have begins' : '-' :: (used ++ kept) <+: '-' :: after := by
                rw [splitAfter]
                exact (List.prefix_append_right_inj ('-' :: used)).2 begins
              obtain ⟨enough, rfl⟩ := Nat.exists_eq_add_of_lt spare
              rw [List.append_assoc, List.cons_append, cutDashes_dash (skips _ begins'),
                again kept begins _ (by simp; omega)]

theorem cutDashes_local (mode : PatternMode) :
    Local fun text => some (cutDashes mode (text.length + 1) text) := by
  rintro text dashes rest found
  obtain ⟨used, split, again⟩ := exists_cutDashes mode (Nat.lt_succ_self text.length)
  rw [Option.some.inj found] at split again
  refine ⟨used, split, fun kept begins => congrArg some (again kept begins _ ?_)⟩
  rw [List.length_append]
  omega

theorem openBracket_local (mode : PatternMode) : Local fun text => some (openBracket mode text) := by
  have dashed (negated : Bool) := local_some (negated, CharSet.single '-')
  have closing (negated : Bool) := (takeMark_local [']']).bind fun closing =>
    local_some (negated, if closing then CharSet.single ']' else .nothing)
  have whole := ((takeMark_local ['^']).skipped mode).bind fun negated =>
    (cutDashes_local mode).bind fun dashes => Local.ite dashes (dashed negated) (closing negated)
  refine whole.congr fun text => ?_
  exact (apply_ite some _ _ _).symm

theorem visible_of_readRange {text rest : List Char} {set : CharSet}
    (found : readRange mode text = some (set, rest)) : text ≠ [] := by
  obtain ⟨_, readFirst, _⟩ := Option.bind_eq_some_iff.1 found
  exact visible_of_readMember readFirst

/-- After an opening bracket, there is a class of ASCII characters or another bracket expression. -/
theorem readSetPiece_open_local (mode : PatternMode) :
    Local fun text => readSetPiece mode ('[' :: text) := by
  intro text piece rest found
  simp only [readSetPiece] at found
  split at found
  · rename_i classed
    obtain ⟨set, allowed, ⟨⟩⟩ := Option.map_eq_some_iff.1 found
    obtain ⟨used, rfl, again⟩ := readAsciiClass?_local mode _ _ _ classed
    exact ⟨used, rfl, fun kept begins => by simp [readSetPiece, again kept begins, allowed]⟩
  · rename_i unclassed
    cases opened : openBracket mode text with
    | mk start after =>
      rw [opened] at found
      obtain ⟨⟩ := found
      obtain ⟨used, rfl, again⟩ := openBracket_local mode _ _ _ (congrArg some opened)
      refine ⟨used, rfl, fun kept begins => ?_⟩
      have openAgain : openBracket mode (used ++ kept) = (start, kept) :=
        Option.some.inj (again kept begins)
      have unclassedAgain : readAsciiClass? mode (used ++ kept) = none := by
        rw [Option.eq_none_iff_forall_ne_some]
        rintro ⟨set, rest⟩ classed
        obtain ⟨more, rfl⟩ := begins
        rw [← List.append_assoc, readAsciiClass?_append classed more] at unclassed
        cases unclassed
      simp [readSetPiece, unclassedAgain, openAgain]

theorem readSetPiece_local (mode : PatternMode) : Local (readSetPiece mode) := by
  intro text piece rest found
  unfold readSetPiece at found
  split at found
  · cases found
  · obtain ⟨⟩ := found
    exact ⟨[']'], rfl, fun kept _ => rfl⟩
  · obtain ⟨⟩ := found
    exact ⟨['&', '&'], rfl, fun kept _ => rfl⟩
  · obtain ⟨⟩ := found
    exact ⟨['-', '-'], rfl, fun kept _ => rfl⟩
  · obtain ⟨⟩ := found
    exact ⟨['~', '~'], rfl, fun kept _ => rfl⟩
  · rename_i text
    obtain ⟨used, rfl, again⟩ := readSetPiece_open_local mode _ _ _ found
    exact ⟨'[' :: used, rfl, again⟩
  · obtain ⟨⟨set, _⟩, readSet, ⟨⟩⟩ := Option.map_eq_some_iff.1 found
    obtain ⟨used, rfl, again⟩ := readRange_local mode _ _ _ readSet
    refine ⟨used, rfl, fun kept begins => ?_⟩
    obtain ⟨more, rfl⟩ := begins
    have readAgain := again kept (List.prefix_append _ _)
    rw [← List.append_assoc] at *
    generalize used ++ kept = short at *
    unfold readSetPiece
    split
    · exact absurd rfl (visible_of_readRange readAgain)
    · simp_all
    · simp_all
    · simp_all
    · simp_all
    · simp_all
    · simp_all

theorem readMembers_local (mode : PatternMode) (waiting : Option (SetOperator × CharSet))
    (members : CharSet) : LocalWithin fun fuel => readMembers mode fuel waiting members := by
  intro fuel
  induction fuel generalizing waiting members with
  | zero => exact nofun
  | succ fuel ih =>
      intro text set rest found
      obtain ⟨⟨piece, after⟩, readPiece, goesOn⟩ := Option.bind_eq_some_iff.1 found
      obtain ⟨used, rfl, taken, again⟩ := ((readSetPiece_local mode).skipped mode).exists_used
        (by rw [skip_nil]; rfl) readPiece
      -- It remains to go on after the piece.
      suffices later : ∃ usedRest, after = usedRest ++ rest ∧ ∀ kept, kept <+: rest →
          ∀ enough, usedRest.length ≤ enough →
            afterSetPiece (readMembers mode enough) mode waiting members piece (usedRest ++ kept) =
              some (set, kept) by
        obtain ⟨usedRest, rfl, againRest⟩ := later
        refine ⟨used ++ usedRest, by simp, fun kept begins enough bound => ?_⟩
        obtain ⟨enough, rfl, bound'⟩ := exists_fuel taken bound
        have begins' := (List.prefix_append_right_inj usedRest).2 begins
        simp [readMembers, again _ begins', againRest kept begins enough bound']
      cases piece with
      | close =>
          obtain ⟨⟩ := goesOn
          exact ⟨[], rfl, fun kept _ enough _ => rfl⟩
      | operator operator => exact ih _ _ _ _ _ goesOn
      | members set => exact ih _ _ _ _ _ goesOn
      | bracket negated start =>
          obtain ⟨⟨inner, _⟩, readInner, closes⟩ := Option.bind_eq_some_iff.1 goesOn
          obtain ⟨closed, allowed, readRest⟩ := Option.bind_eq_some_iff.1 closes
          obtain ⟨usedInner, rfl, againInner⟩ := ih _ _ _ _ _ readInner
          obtain ⟨usedRest, rfl, againRest⟩ := ih _ _ _ _ _ readRest
          refine ⟨usedInner ++ usedRest, by simp, fun kept begins enough bound => ?_⟩
          rw [List.length_append] at bound
          have begins' := (List.prefix_append_right_inj usedRest).2 begins
          have innerAgain := againInner _ begins' enough (by omega)
          have restAgain := againRest kept begins enough (by omega)
          simp [afterSetPiece, innerAgain, allowed, restAgain]

theorem readBracket_local (mode : PatternMode) : Local (readBracket mode) := by
  have whole := (openBracket_local mode).bind fun opened =>
    ((readMembers_local mode none opened.2).local 1).bind fun members =>
      local_option (closeBracket? mode opened.1 members) id
  exact whole

theorem readBounds_local (mode : PatternMode) : Local (readBounds mode) := by
  have bounds (inner : List Char) := Local.given (countBounds? inner) fun bounds =>
    (dropReluctance_local.skipped mode).map fun _ => bounds
  have whole := ((readBraced_local mode).local 1).bind bounds
  exact whole

/-! ## Groups -/

theorem readFlags_local (mode : PatternMode) (seen : List Char) : Local (readFlags mode seen) := by
  intro text flags rest found
  induction text generalizing mode seen with
  | nil => cases found
  | cons c text ih =>
      unfold readFlags at found
      split at found
      · rename_i ends
        split at found
        · cases found
        · rename_i complete
          obtain ⟨⟩ := found
          exact ⟨[c], rfl, fun kept _ => by simp [readFlags, ends, complete]⟩
      · rename_i goesOn
        split at found
        · cases found
        · rename_i fresh
          split at found
          · rename_i minus
            obtain ⟨used, rfl, again⟩ := ih _ _ found
            refine ⟨c :: used, rfl, fun kept begins => ?_⟩
            rw [List.cons_append, readFlags, if_neg goesOn, if_neg fresh, if_pos minus]
            exact again kept begins
          · rename_i flag
            obtain ⟨inner, known, found⟩ := Option.bind_eq_some_iff.1 found
            obtain ⟨used, rfl, again⟩ := ih _ _ found
            refine ⟨c :: used, rfl, fun kept begins => ?_⟩
            rw [List.cons_append, readFlags, if_neg goesOn, if_neg fresh, if_neg flag]
            exact Option.bind_eq_some_iff.2 ⟨inner, known, again kept begins⟩

theorem readGroupName_local (taken : List String) : Local (readGroupName taken) := by
  have closing : ['>'] ≠ [] := List.cons_ne_nil _ _
  have whole := (cutAt?_local closing).bind fun name =>
    Local.ite (isGroupName name && !taken.contains (String.ofList name))
      (local_some (String.ofList name :: taken)) local_none
  exact whole

theorem takeNameMark_local : Local fun text => some (takeNameMark text) := by
  have whole := (takeMark_local ['P', '<']).bind fun long =>
    Local.ite long (local_some true) (takeMark_local ['<'])
  exact whole.congr fun text => (apply_ite some _ _ _).symm

theorem readGroupHead_local (mode : PatternMode) (names : List String) :
    Local (readGroupHead mode names) := by
  have named := (readGroupName_local names).bind fun names => local_some (Piece.group mode names)
  have flagged := (readFlags_local mode []).bind fun flags =>
    Local.ite (flags.last == ':') (local_some (Piece.group flags.mode names))
      (Local.ite flags.isEmpty local_none (local_some (Piece.flags flags.mode)))
  have special := takeNameMark_local.bind fun marked => Local.ite marked named flagged
  have whole := ((takeMark_local ['?']).skipped mode).bind fun marked =>
    Local.ite (!marked) (local_some (Piece.group mode names)) special
  exact whole

/-! ## Pieces -/

theorem readPiece_local (mode : PatternMode) (names : List String) (first : Char) :
    Local (readPiece mode names first) := by
  have times (least : Nat) (most : Option Nat) :=
    dropReluctance_local.map fun _ => Piece.repetition (least, most)
  unfold readPiece
  split
  · exact local_some _
  · exact readGroupHead_local mode names
  · exact times _ _
  · exact times _ _
  · exact times _ _
  · exact (readBounds_local mode).map Piece.repetition
  · exact (readBracket_local mode).map fun set => Piece.part (.char set)
  · exact (readEscape_local mode).map fun atom => Piece.part (ofAtom mode atom)
  · exact local_option (mode.admit? mode.dot) fun set => Piece.part (.char set)
  · exact local_some _
  · exact local_some _
  · exact local_some _

end Pattern

end HostTypes
