import HostTypes.Proofs.Timespan.PhraseReading

/-!
Phrases as texts, with single spaces between the words. The text of a phrase has the words of the phrase
(`Phrase.spaced_text`) and is no clock (`Phrase.noClock_text`), so that a phrase of whole amounts in real
time is read back from its text (`Phrase.read?_text`).
-/

namespace HostTypes

/-! ## The words of numerals -/

theorem isBlank_of_isDecimalDigit {c : Char} (digit : isDecimalDigit c) : isBlank c = false := by
  have table : ∀ first ∈ digitZeros, ∀ value < 10, isBlank (Char.ofNat (first + value)) = false := by
    decide +kernel
  rw [isDecimalDigit, List.any_eq_true] at digit
  obtain ⟨first, member, within⟩ := digit
  simp only [Bool.and_eq_true, decide_eq_true_eq] at within
  have visible := table first member (c.toNat - first) (by omega)
  rwa [Nat.add_sub_cancel' within.1, Char.ofNat_toNat] at visible

theorem lowercaseChar_of_isDigit {c : Char} (digit : c.isDigit) : lowercaseChar c = [c] := by
  have table : ∀ code ≤ '9'.toNat, '0'.toNat ≤ code →
      lowercaseChar (Char.ofNat code) = [Char.ofNat code] := by
    decide
  obtain ⟨low, high⟩ := Char.isDigit_iff_toNat.1 digit
  have same := table c.toNat high low
  rwa [Char.ofNat_toNat] at same

namespace Numeral

variable {numeral : Numeral}

theorem mem_text {c : Char} (member : c ∈ numeral.text) :
    c = '-' ∨ c = '.' ∨ c ∈ numeral.whole ++ numeral.fraction := by
  unfold text fractionText at member
  split_ifs at member <;> grind

theorem isWord_text (wellFormed : numeral.WellFormed) : IsWord numeral.text := by
  refine ⟨by simp [text, wellFormed.filled], fun c member => ?_⟩
  rcases mem_text member with rfl | rfl | digit
  · rfl
  · rfl
  · exact isBlank_of_isDecimalDigit (wellFormed.isDecimalDigit digit)

theorem lowercase_text (ascii : numeral.IsAscii) : lowercase numeral.text = numeral.text := by
  have same : ∀ c ∈ numeral.text, lowercaseChar c = [c] := by
    intro c member
    rcases mem_text member with rfl | rfl | digit
    · rfl
    · rfl
    · exact lowercaseChar_of_isDigit (ascii c digit)
  rw [lowercase, List.flatMap_congr same]
  simp

end Numeral

/-! ## The phrase -/

def Phrase.text (phrase : Phrase) : List Char :=
  [' '].intercalate phrase.words

theorem intercalate_append {words more : List (List Char)} (filled : words ≠ []) (others : more ≠ []) :
    [' '].intercalate (words ++ more) = [' '].intercalate words ++ ' ' :: [' '].intercalate more := by
  induction words with
  | nil => exact absurd rfl filled
  | cons word words ih =>
      cases words with
      | nil =>
          obtain ⟨next, rest, rfl⟩ := List.exists_cons_of_ne_nil others
          rw [List.singleton_append, List.intercalate_cons_cons, List.intercalate_singleton,
            List.append_assoc, List.singleton_append]
      | cons next words =>
          rw [List.cons_append, List.cons_append, List.intercalate_cons_cons, ← List.cons_append,
            ih (List.cons_ne_nil _ _), List.intercalate_cons_cons, List.append_assoc, List.append_assoc,
            List.append_assoc]

theorem Phrase.text_one (term : PhraseTerm) : Phrase.text ⟨term, []⟩ = [' '].intercalate term.words := by
  rw [text, words, otherWords, List.flatMap_nil, List.append_nil]

theorem Phrase.text_two (first second : PhraseTerm) : Phrase.text ⟨first, [(1, second)]⟩ =
    [' '].intercalate first.words ++ " and ".toList ++ [' '].intercalate second.words := by
  have others : otherWords [(1, second)] = ["and".toList] ++ second.words := by
    simp [otherWords]
  rw [text, words, others, intercalate_append (PhraseSum.words_ne_nil first) (by simp),
    intercalate_append (List.cons_ne_nil _ _) (PhraseSum.words_ne_nil second), List.append_assoc]
  rfl

/-! ## Reading the text -/

/-- A word that is the same in lower case. -/
def IsLowercaseWord (word : List Char) : Prop :=
  IsWord word ∧ lowercase word = word

theorem isLowercaseWord_of_all {word : List Char} (filled : word ≠ [])
    (visible : word.all (!isBlank ·)) (same : lowercase word = word) : IsLowercaseWord word :=
  ⟨⟨filled, fun c member => (Bool.not_eq_true' _).mp (List.all_eq_true.1 visible c member)⟩, same⟩

theorem UnitWord.isLowercaseWord_text {word : UnitWord} (member : word.unit ∈ TimeUnit.all) :
    IsLowercaseWord word.text := by
  have table : ∀ unit ∈ TimeUnit.all, ∀ plural comma, let text := UnitWord.text ⟨unit, plural, comma⟩
      text ≠ [] ∧ text.all (!isBlank ·) ∧ lowercase text = text := by
    decide +kernel
  obtain ⟨filled, visible, same⟩ := table word.unit member word.plural word.comma
  exact isLowercaseWord_of_all filled visible same

theorem ScaleWord.isLowercaseWord_text (word : ScaleWord) : IsLowercaseWord word.text := by
  cases word <;> exact isLowercaseWord_of_all (List.cons_ne_nil _ _) rfl rfl

theorem AmountWord.isLowercaseWord_text {word : AmountWord} (wellFormed : word.WellFormed) :
    IsLowercaseWord word.text := by
  cases word with
  | a => exact isLowercaseWord_of_all (List.cons_ne_nil _ _) rfl rfl
  | an => exact isLowercaseWord_of_all (List.cons_ne_nil _ _) rfl rfl
  | decimal numeral =>
      exact ⟨Numeral.isWord_text wellFormed.1, Numeral.lowercase_text wellFormed.2.1⟩

theorem PhraseTerm.isLowercaseWord {term : PhraseTerm} (wellFormed : term.WellFormed) :
    ∀ word ∈ term.words, IsLowercaseWord word := by
  intro word member
  simp only [words, List.mem_append, Option.mem_toList, Option.map_eq_some_iff,
    List.mem_singleton] at member
  rcases member with (⟨amount, given, rfl⟩ | ⟨scale, _, rfl⟩) | rfl
  · exact AmountWord.isLowercaseWord_text (wellFormed.amount amount given)
  · exact ScaleWord.isLowercaseWord_text scale
  · exact UnitWord.isLowercaseWord_text wellFormed.unit

theorem ClockText.isWord_text {clock : ClockText} (wellFormed : clock.WellFormed) :
    IsWord clock.text := by
  have group {least : Nat} {most : Option Nat} {digits : List Char} (isGroup : IsGroup least most digits)
      {c : Char} (member : c ∈ digits) : isBlank c = false :=
    isBlank_of_isDecimalDigit (isGroup.1 c member)
  refine ⟨by simp [text], fun c member => ?_⟩
  rw [text, tailText, List.mem_append, List.mem_cons, List.mem_append, List.mem_append] at member
  rcases member with first | rfl | second | third | decimals
  · exact group wellFormed.first first
  · rfl
  · exact group wellFormed.second second
  · cases given : clock.third with
    | none => simp [given] at third
    | some digits =>
        rw [given, Option.elim_some, List.mem_cons] at third
        rcases third with rfl | member
        · rfl
        · exact group (wellFormed.third digits given) member
  · cases given : clock.decimals with
    | none => simp [given] at decimals
    | some digits =>
        rw [given, Option.elim_some, List.mem_cons] at decimals
        rcases decimals with rfl | member
        · rfl
        · exact group (wellFormed.decimals digits given) member

namespace Phrase

variable {phrase : Phrase}

theorem isLowercaseWord (wellFormed : phrase.WellFormed) :
    ∀ word ∈ phrase.words, IsLowercaseWord word := by
  obtain ⟨first, others⟩ := List.forall_mem_cons.1 wellFormed
  intro word member
  rcases List.mem_append.1 member with early | later
  · exact PhraseTerm.isLowercaseWord first word early
  · obtain ⟨⟨count, term⟩, given, inside⟩ := List.mem_flatMap.1 later
    rcases List.mem_append.1 inside with conjunction | part
    · rw [List.eq_of_mem_replicate conjunction]
      exact isLowercaseWord_of_all (List.cons_ne_nil _ _) rfl rfl
    · exact PhraseTerm.isLowercaseWord (others term (List.mem_map_of_mem given)) word part

theorem spaced_text (wellFormed : phrase.WellFormed) : Spaced phrase.text phrase.words :=
  spaced_intercalate fun word member => (isLowercaseWord wellFormed word member).1

theorem map_lowercase_words (wellFormed : phrase.WellFormed) :
    phrase.words.map lowercase = phrase.words :=
  (List.map_congr_left fun word member => (isLowercaseWord wellFormed word member).2).trans
    (List.map_id phrase.words)

/-- A clock is a single word with a colon, which no name of a unit has. -/
theorem noClock_text (wellFormed : phrase.WellFormed) : Timespan.NoClock phrase.text := by
  have names : ∀ unit ∈ TimeUnit.all, ∀ plural comma, ':' ∉ UnitWord.text ⟨unit, plural, comma⟩ := by
    decide +kernel
  intro clock isClock same
  have single : wordsOf (clock.text ++ []) = [clock.text] :=
    wordsOf_word (ClockText.isWord_text isClock) nofun
  have words : phrase.words = [clock.text] := by
    rw [← (spaced_text wellFormed).eq_wordsOf, ← wordsOf_trimBlanks, same, ← single, List.append_nil]
  have last : phrase.first.unit.text ∈ phrase.words := by
    simp [Phrase.words, PhraseTerm.words]
  rw [words, List.mem_singleton] at last
  have isUnit := (wellFormed phrase.first List.mem_cons_self).unit
  refine names _ isUnit phrase.first.unit.plural phrase.first.unit.comma ?_
  change ':' ∈ phrase.first.unit.text
  rw [last]
  simp [ClockText.text]

/-- A phrase of whole amounts in real time is read back from its text. -/
theorem read?_text (wellFormed : phrase.WellFormed) (oneScale : phrase.OneScale)
    (real : phrase.scale = .real) (whole : ∀ term ∈ phrase.terms, ∃ n : ℕ, term.rational = n)
    {millis : Nat} (sum : phrase.exactMillis = millis) (small : millis < 2 ^ 53) :
    Timespan.read? phrase.text = some ⟨UInt64.ofNat millis⟩ :=
  Timespan.read?_of_whole (noClock_text wellFormed) (spaced_text wellFormed) wellFormed
    (map_lowercase_words wellFormed).symm oneScale real whole sum small

end Phrase

end HostTypes
