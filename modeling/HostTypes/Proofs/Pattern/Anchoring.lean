import HostTypes.Pattern.Matching
import HostTypes.Proofs.Pattern.Readers

/-!
What a written pattern comes to between anchors. Reading the body of a group does not depend on what
comes after its closing parenthesis, and is the same as reading the body as a pattern of its own
(`readsGroup_of_readBody`). So either the group that is put around a written pattern ends where it
should, or the pattern itself closes it (`anchored?_cases`).
-/

namespace HostTypes

namespace Pattern

variable {mode : PatternMode} {names : List String} {progress : Progress}

/-- What can come after the body of a pattern of which more was read before: the end of a group, with
less of what was left unread, or the end of the text. The last argument is what is left unread. -/
inductive Closing (rest : List Char) : Bool → List Char → List Char → Prop
  | group {kept : List Char} (begins : kept <+: rest) : Closing rest true (')' :: kept) kept
  | whole : Closing rest false [] []

theorem Closing.begins {rest tail left : List Char} {grouped : Bool}
    (closing : Closing rest grouped tail left) : tail <+: ')' :: rest := by
  cases closing with
  | group begins => exact (List.prefix_append_right_inj [')']).2 begins
  | whole => exact ⟨_, rfl⟩

theorem readBody_closing {fuel : Nat} {rest text tail left : List Char} {grouped : Bool}
    (closing : Closing rest grouped tail left) (skips : mode.skip text = tail) :
    readBody (fuel + 1) grouped mode names progress text = some (progress.finish, names, left) := by
  cases closing with
  | group begins => simp [readBody, skips]
  | whole => simp [readBody, skips]

theorem readBody_piece {fuel : Nat} {grouped : Bool} {text rest : List Char} {c : Char}
    (skips : mode.skip text = c :: rest) (goesOn : c ≠ ')') :
    readBody (fuel + 1) grouped mode names progress text =
      (readPiece mode names c rest).bind fun found =>
        afterPiece (readBody fuel) grouped mode names progress found.1 found.2 := by
  rw [readBody, skips]
  split
  · contradiction
  · rename_i same
    exact absurd (List.cons.inj same).1 goesOn
  · rename_i same
    obtain ⟨⟩ := same
    rfl

/-- The body of a group is read up to the closing parenthesis, and in the same way if less follows the
group, or as a whole pattern. -/
def ReadsGroup (read : Nat → Bool → List Char → Option (Pattern × List String × List Char))
    (text : List Char) (found : Pattern) (names : List String) (rest : List Char) : Prop :=
  ∃ used, text = used ++ ')' :: rest ∧
    ∀ grouped tail left, Closing rest grouped tail left → ∀ enough, used.length < enough →
      read enough grouped (used ++ tail) = some (found, names, left)

section

variable {text middle rest : List Char} {piece : Piece} {found : Pattern} {names' : List String}

theorem readsGroup_closing {after : List Char} (closes : mode.skip text = ')' :: after) :
    ReadsGroup (fun enough grouped => readBody enough grouped mode names progress) text
      progress.finish names after := by
  obtain ⟨filler, split, skips⟩ := exists_skipped mode text
  rw [closes] at split skips
  refine ⟨filler, split, fun grouped tail left closing enough bound => ?_⟩
  obtain ⟨enough, rfl⟩ := Nat.exists_eq_add_of_lt bound
  exact readBody_closing closing (skips tail closing.begins)

theorem readsGroup_piece {c : Char} {after : List Char} (visible : mode.skip text = c :: after)
    (goesOn : c ≠ ')') (readFirst : readPiece mode names c after = some (piece, middle))
    (later : ReadsGroup
      (fun enough grouped => afterPiece (readBody enough) grouped mode names progress piece)
      middle found names' rest) :
    ReadsGroup (fun enough grouped => readBody enough grouped mode names progress) text found names'
      rest := by
  obtain ⟨filler, split, skips⟩ := exists_skipped mode text
  rw [visible] at split skips
  obtain ⟨used, rfl, again⟩ := readPiece_local mode names c _ _ _ readFirst
  obtain ⟨usedRest, rfl, againRest⟩ := later
  refine ⟨filler ++ c :: (used ++ usedRest), by simp [split],
    fun grouped tail left closing enough bound => ?_⟩
  have shorter := (List.prefix_append_right_inj usedRest).2 closing.begins
  have visibleAgain := skips (c :: (used ++ (usedRest ++ tail)))
    ((List.prefix_append_right_inj (c :: used)).2 shorter)
  obtain ⟨enough, rfl⟩ := Nat.exists_eq_add_of_lt bound
  dsimp only
  rw [List.append_assoc, List.cons_append, List.append_assoc,
    readBody_piece visibleAgain goesOn, again _ shorter]
  refine againRest grouped tail left closing _ ?_
  simp only [List.length_append, List.length_cons]
  omega

theorem readsGroup_group {inner : PatternMode} {taken known : List String} {part : Pattern}
    (readsInner : ReadsGroup (fun enough grouped => readBody enough grouped inner taken {}) text part
      known middle)
    (readsOuter : ReadsGroup
      (fun enough grouped => readBody enough grouped mode known (progress.push part)) middle found
      names' rest) :
    ReadsGroup
      (fun enough grouped =>
        afterPiece (readBody enough) grouped mode names progress (.group inner taken))
      text found names' rest := by
  obtain ⟨usedInner, rfl, againInner⟩ := readsInner
  obtain ⟨usedRest, rfl, againRest⟩ := readsOuter
  refine ⟨usedInner ++ ')' :: usedRest, by simp, fun grouped tail left closing enough bound => ?_⟩
  rw [List.length_append, List.length_cons] at bound
  have shorter := (List.prefix_append_right_inj usedRest).2 closing.begins
  have innerAgain := againInner true _ _ (.group shorter) enough (by omega)
  have restAgain := againRest grouped tail left closing enough (by omega)
  simp [afterPiece, innerAgain, restAgain]

end

theorem readsGroup_of_readBody {fuel : Nat} {text rest : List Char} {found : Pattern}
    {names' : List String}
    (read : readBody fuel true mode names progress text = some (found, names', rest)) :
    ReadsGroup (fun enough grouped => readBody enough grouped mode names progress) text found names'
      rest := by
  induction fuel generalizing mode names progress text rest found names' with
  | zero => cases read
  | succ fuel ih =>
      unfold readBody at read
      split at read
      · cases read
      · rename_i after closes
        obtain ⟨⟩ := read
        exact readsGroup_closing closes
      · rename_i c after goesOn visible
        obtain ⟨⟨piece, middle⟩, readFirst, readRest⟩ := Option.bind_eq_some_iff.1 read
        refine readsGroup_piece visible goesOn readFirst ?_
        cases piece with
        | part part => exact ih readRest
        | bar => exact ih readRest
        | flags inner => exact ih readRest
        | repetition bounds =>
            obtain ⟨repeated, known, readRest⟩ := Option.bind_eq_some_iff.1 readRest
            obtain ⟨used, split, again⟩ := ih readRest
            exact ⟨used, split, by simpa [afterPiece, known] using again⟩
        | group inner taken =>
            obtain ⟨⟨part, taken, _⟩, readInner, readOuter⟩ := Option.bind_eq_some_iff.1 readRest
            exact readsGroup_group (ih readInner) (ih readOuter)

theorem readBody_unique {fuel fuel' : Nat} {text : List Char}
    {result result' : Pattern × List String × List Char}
    (read : readBody fuel true mode names progress text = some result)
    (read' : readBody fuel' true mode names progress text = some result') : result = result' := by
  obtain ⟨found, taken, rest⟩ := result
  obtain ⟨found', taken', rest'⟩ := result'
  obtain ⟨used, split, again⟩ := readsGroup_of_readBody read
  obtain ⟨used', split', again'⟩ := readsGroup_of_readBody read'
  let enough := used.length + used'.length + 1
  have first := again true _ _ (.group List.prefix_rfl) enough (by omega)
  have second := again' true _ _ (.group List.prefix_rfl) enough (by omega)
  rw [← split] at first
  rw [← split', first] at second
  exact Option.some.inj second

/-- Where a group ends, a whole pattern does not. -/
theorem readBody_eq_none {fuel fuel' : Nat} {text : List Char}
    {result : Pattern × List String × List Char}
    (read : readBody fuel true mode names progress text = some result) :
    readBody fuel' false mode names progress text = none := by
  induction fuel generalizing fuel' mode names progress text result with
  | zero => cases read
  | succ fuel ih =>
      cases fuel' with
      | zero => rfl
      | succ fuel' =>
          unfold readBody at read
          split at read
          · cases read
          · rename_i after closes
            simp [readBody, closes]
          · rename_i c after goesOn visible
            obtain ⟨⟨piece, middle⟩, readFirst, readRest⟩ := Option.bind_eq_some_iff.1 read
            rw [readBody_piece visible goesOn, readFirst, Option.bind_some]
            cases piece with
            | part part => exact ih readRest
            | bar => exact ih readRest
            | flags inner => exact ih readRest
            | repetition bounds =>
                obtain ⟨repeated, known, readRest⟩ := Option.bind_eq_some_iff.1 readRest
                simpa [afterPiece, known] using ih readRest
            | group inner taken =>
                obtain ⟨⟨part, taken, rest⟩, readInner, readOuter⟩ :=
                  Option.bind_eq_some_iff.1 readRest
                rw [afterPiece]
                refine Option.bind_eq_none_iff.2 fun other readInner' => ?_
                rw [← readBody_unique readInner readInner']
                exact ih readOuter

/-- A pattern of its own, read without regard to case. -/
def caseless? (text : List Char) : Option Pattern :=
  (readBody (text.length + 1) false { ignoreCase := true } [] {} text).map Prod.fst

theorem readBody_anchored (fuel : Nat) (text : List Char) :
    readBody (fuel + 4) false {} [] {} ("(?i)^(?:".toList ++ text) =
      (readBody (fuel + 1) true { ignoreCase := true } [] {} text).bind fun found =>
        readBody (fuel + 1) false { ignoreCase := true } found.2.1
          ⟨[], [some found.1, some (anchor .textStart), none]⟩ found.2.2 := by
  rfl

/-- Where the group around a written pattern is closed: at its end, or in the pattern. -/
theorem split_at_closing {text used rest : List Char}
    (same : text ++ [')', '$'] = used ++ ')' :: rest) :
    (text = used ∧ rest = ['$']) ∨
      ∃ after, text = used ++ ')' :: after ∧ rest = after ++ [')', '$'] := by
  rcases List.append_eq_append_iff.1 same with ⟨more, rfl, closes⟩ | ⟨more, rfl, closes⟩
  · cases more with
    | nil =>
        rw [List.nil_append, List.cons_inj_right] at closes
        exact .inl ⟨(List.append_nil _).symm, closes.symm⟩
    | cons c more =>
        -- The last character is none that closes a group.
        obtain ⟨_, closes⟩ := List.cons.inj closes
        cases more with
        | nil => cases closes
        | cons c more => cases more <;> cases closes
  · cases more with
    | nil =>
        rw [List.nil_append, List.cons_inj_right] at closes
        exact .inl ⟨List.append_nil _, closes⟩
    | cons c more =>
        obtain ⟨rfl, rfl⟩ := List.cons.inj closes
        exact .inr ⟨more, rfl, rfl⟩

theorem anchored?_cases {source : String} {pattern : Pattern}
    (read : anchored? source = some pattern) :
    (∃ body, caseless? source.toList = some body ∧
      pattern = concat (anchor .textStart) (concat body (anchor .textEnd))) ∨
    (caseless? source.toList = none ∧
      ∃ before after, source.toList = before ++ ')' :: after ∧ (caseless? before).isSome) := by
  obtain ⟨⟨_, names', left⟩, whole, rfl⟩ := Option.map_eq_some_iff.1 read
  have text : ("(?i)^(?:" ++ source ++ ")$").toList =
      "(?i)^(?:".toList ++ (source.toList ++ [')', '$']) := by
    simp [String.toList_append]
  have long : ("(?i)^(?:" ++ source ++ ")$").toList.length + 1 =
      (source.toList.length + 7) + 4 := by
    simp [String.toList_append]
  rw [long, text, readBody_anchored] at whole
  obtain ⟨⟨body, taken, rest⟩, readInner, readRest⟩ := Option.bind_eq_some_iff.1 whole
  obtain ⟨used, split, again⟩ := readsGroup_of_readBody readInner
  have alone := again false [] [] .whole (used.length + 1) (Nat.lt_succ_self _)
  dsimp only at alone
  rw [List.append_nil] at alone
  rcases split_at_closing split with ⟨rfl, rfl⟩ | ⟨after, same, rfl⟩
  · refine .inl ⟨body, by rw [caseless?, alone]; rfl, ?_⟩
    exact (congrArg Prod.fst (Option.some.inj readRest)).symm
  · refine .inr ⟨?_, used, after, same, by rw [caseless?, alone]; rfl⟩
    have closed := again true _ _ (.group (List.prefix_append after [')', '$'])) (used.length + 1)
      (Nat.lt_succ_self _)
    rw [same, caseless?, readBody_eq_none closed]
    rfl

end Pattern

end HostTypes
