import HostTypes.Text.Blank
import Mathlib.Data.List.DropRight

/-!
Words between white space. Cutting a text into words gives exactly the words of which the text is put
together with blanks (`wordsOf_eq_iff`), whatever blanks stand around them (`wordsOf_trimBlanks`).
-/

namespace HostTypes

def IsWord (word : List Char) : Prop :=
  word ≠ [] ∧ ∀ c ∈ word, isBlank c = false

/-- A text is made of words and blanks, with at least one blank between two words. -/
inductive Spaced : List Char → List (List Char) → Prop
  | nil : Spaced [] []
  | blank {c : Char} {rest : List Char} {words : List (List Char)} (isBlank : isBlank c)
      (others : Spaced rest words) : Spaced (c :: rest) words
  | word {word rest : List Char} {words : List (List Char)} (isWord : IsWord word)
      (ends : ∀ c ∈ rest.head?, isBlank c) (others : Spaced rest words) :
      Spaced (word ++ rest) (word :: words)

variable {text word rest : List Char} {words : List (List Char)} {c : Char}

theorem wordsOf_blank (blank : isBlank c) (rest : List Char) : wordsOf (c :: rest) = wordsOf rest := by
  rw [wordsOf.eq_def]
  exact if_pos blank

theorem wordsOf_visible {d : Char} (first : isBlank c = false) (second : isBlank d = false)
    (rest : List Char) : wordsOf (c :: d :: rest) =
      match wordsOf (d :: rest) with
      | [] => [[c]]
      | word :: words => (c :: word) :: words := by
  rw [wordsOf.eq_def]
  exact (if_neg (Bool.eq_false_iff.1 first)).trans (if_neg (Bool.eq_false_iff.1 second))

theorem wordsOf_last (visible : isBlank c = false) (ends : ∀ d ∈ rest.head?, isBlank d) :
    wordsOf (c :: rest) = [c] :: wordsOf rest := by
  cases rest with
  | nil =>
      rw [wordsOf.eq_def]
      simp only [visible, Bool.false_eq_true, if_false]
      rfl
  | cons d others =>
      have blank : isBlank d = true := ends d rfl
      rw [wordsOf.eq_def]
      simp only [visible, blank, Bool.false_eq_true, if_false, if_true]

theorem wordsOf_word (isWord : IsWord word) (ends : ∀ c ∈ rest.head?, isBlank c) :
    wordsOf (word ++ rest) = word :: wordsOf rest := by
  obtain ⟨filled, visible⟩ := isWord
  induction word with
  | nil => exact absurd rfl filled
  | cons c more ih =>
      have first : isBlank c = false := visible c List.mem_cons_self
      cases more with
      | nil => exact wordsOf_last first ends
      | cons d more =>
          have second : isBlank d = false := visible d (by simp)
          have others := ih (List.cons_ne_nil _ _) fun e member => visible e (List.mem_cons_of_mem c member)
          rw [List.cons_append] at others
          rw [List.cons_append, List.cons_append, wordsOf_visible first second, others]

theorem Spaced.eq_wordsOf (spaced : Spaced text words) : wordsOf text = words := by
  induction spaced with
  | nil => rfl
  | blank isBlank _ ih => rw [wordsOf_blank isBlank, ih]
  | word isWord ends _ ih => rw [wordsOf_word isWord ends, ih]

/-- The word with which a text begins, and what follows it. -/
theorem exists_word (visible : isBlank c = false) (rest : List Char) :
    ∃ word others, c :: rest = word ++ others ∧ IsWord word ∧ ∀ d ∈ others.head?, isBlank d := by
  refine ⟨(c :: rest).takeWhile (!isBlank ·), (c :: rest).dropWhile (!isBlank ·),
    List.takeWhile_append_dropWhile.symm, ⟨?_, ?_⟩, ?_⟩
  · simp [visible]
  · intro d member
    simpa using List.mem_takeWhile_imp member
  · intro d first
    have stops := List.head?_dropWhile_not (fun c => !isBlank c) (c :: rest)
    rw [Option.mem_def.1 first] at stops
    simpa using stops

theorem spaced_wordsOf (text : List Char) : Spaced text (wordsOf text) := by
  induction length : text.length using Nat.strong_induction_on generalizing text with
  | _ length ih =>
      subst length
      cases text with
      | nil => exact .nil
      | cons c rest =>
          by_cases blank : isBlank c
          · rw [wordsOf_blank blank]
            exact .blank blank (ih _ (Nat.lt_succ_self _) rest rfl)
          · obtain ⟨word, others, split, isWord, ends⟩ := exists_word (by simpa using blank) rest
            have shorter : others.length < (c :: rest).length := by
              have some := List.length_pos_of_ne_nil isWord.1
              rw [split, List.length_append]
              omega
            rw [split, wordsOf_word isWord ends]
            exact .word isWord ends (ih _ shorter others rfl)

theorem wordsOf_eq_iff : wordsOf text = words ↔ Spaced text words :=
  ⟨fun same => same ▸ spaced_wordsOf text, Spaced.eq_wordsOf⟩

/-- Words with one space between any two of them. -/
theorem spaced_intercalate (areWords : ∀ word ∈ words, IsWord word) :
    Spaced ([' '].intercalate words) words := by
  induction words with
  | nil => exact .nil
  | cons word others ih =>
      obtain ⟨isWord, later⟩ := List.forall_mem_cons.1 areWords
      cases others with
      | nil =>
          have last : Spaced (word ++ []) [word] := .word isWord nofun .nil
          rw [List.append_nil] at last
          rwa [List.intercalate_singleton]
      | cons next others =>
          rw [List.intercalate_cons_cons, List.append_assoc]
          refine .word isWord ?_ (.blank rfl (ih later))
          rintro _ ⟨⟩
          rfl

/-! ## Trimming -/

theorem wordsOf_blanks {blanks : List Char} (blank : ∀ c ∈ blanks, isBlank c) (rest : List Char) :
    wordsOf (blanks ++ rest) = wordsOf rest := by
  induction blanks with
  | nil => rfl
  | cons c others ih =>
      obtain ⟨first, later⟩ := List.forall_mem_cons.1 blank
      rw [List.cons_append, wordsOf_blank first, ih later]

theorem wordsOf_append_blanks {blanks : List Char} (blank : ∀ c ∈ blanks, isBlank c)
    (text : List Char) : wordsOf (text ++ blanks) = wordsOf text := by
  have spaced := spaced_wordsOf text
  generalize wordsOf text = words at spaced
  induction spaced with
  | nil => exact (congrArg wordsOf (List.append_nil blanks)).symm.trans (wordsOf_blanks blank [])
  | blank isBlank _ ih => rw [List.cons_append, wordsOf_blank isBlank, ih]
  | @word word rest words isWord ends _ ih =>
      rw [List.append_assoc, wordsOf_word isWord ?_, ih]
      intro c first
      cases rest with
      | nil => exact blank c (List.mem_of_head? first)
      | cons d others => exact ends c first

theorem exists_blanks (text : List Char) : ∃ before after, text = before ++ trimBlanks text ++ after ∧
    (∀ c ∈ before, isBlank c) ∧ ∀ c ∈ after, isBlank c := by
  refine ⟨text.takeWhile isBlank, (text.dropWhile isBlank).rtakeWhile isBlank, ?_, ?_, ?_⟩
  · have trimmed : trimBlanks text = (text.dropWhile isBlank).rdropWhile isBlank := rfl
    rw [trimmed, List.append_assoc, List.rdropWhile_append_rtakeWhile,
      List.takeWhile_append_dropWhile]
  · exact fun c member => List.mem_takeWhile_imp member
  · exact fun c member => List.mem_rtakeWhile_imp member

theorem wordsOf_trimBlanks (text : List Char) : wordsOf (trimBlanks text) = wordsOf text := by
  obtain ⟨before, after, split, blankBefore, blankAfter⟩ := exists_blanks text
  calc wordsOf (trimBlanks text)
      = wordsOf (before ++ trimBlanks text ++ after) := by
        rw [wordsOf_append_blanks blankAfter, wordsOf_blanks blankBefore]
    _ = wordsOf text := by rw [← split]

theorem Spaced.all_blank (spaced : Spaced text []) : ∀ c ∈ text, isBlank c := by
  generalize empty : ([] : List (List Char)) = words at spaced
  induction spaced with
  | nil => exact nofun
  | blank isBlank _ ih => exact List.forall_mem_cons.2 ⟨isBlank, ih empty⟩
  | word => cases empty

theorem wordsOf_eq_nil_iff : wordsOf text = [] ↔ trimBlanks text = [] := by
  constructor
  · intro none
    have blank := (wordsOf_eq_iff.1 none).all_blank
    simp [trimBlanks, List.dropWhile_eq_nil_iff.2 blank]
  · intro empty
    rw [← wordsOf_trimBlanks, empty]
    rfl

end HostTypes
