import HostTypes.Proofs.Text.Words
import HostTypes.Proofs.Timespan.ClockReading
import HostTypes.Proofs.Timespan.Phrases
import HostTypes.Proofs.Timespan.WordIndex

/-!
Reading timespan phrases. A text that is not put together as a clock is a timespan exactly if its words,
in lower case, make a phrase that keeps to one time scale and whose sum fits (`read?_phrase`).
-/

namespace HostTypes

namespace Timespan

variable {text : List Char} {span : Timespan} {millis : Nat}

def NoClock (text : List Char) : Prop :=
  ∀ clock : ClockText, clock.WellFormed → trimBlanks text ≠ clock.text

theorem noClock_iff : NoClock text ↔ ClockText.read? (trimBlanks text) = none := by
  simp only [NoClock, Option.eq_none_iff_forall_ne_some, ne_eq, ClockText.read?_eq_some_iff, not_and]

/-- The sum of the words of a text. -/
def phraseTotal? (text : List Char) : Option Nat :=
  PhraseSum.total? ⟨0, none⟩ (((wordsOf text).map lowercase).map PhraseToken.ofWord)

theorem read?_of_noClock (noClock : NoClock text) (filled : trimBlanks text ≠ []) :
    read? text = (phraseTotal? text).bind ofMillis? := by
  have some : (trimBlanks text).isEmpty = false := List.isEmpty_eq_false_iff.2 filled
  simp only [read?, some, Bool.false_eq_true, if_false, noClock_iff.1 noClock, readPhrase?,
    wordsOf_trimBlanks, phraseTotal?, List.map_map]
  rfl

theorem read?_of_blank (blank : trimBlanks text = []) : read? text = none := by
  simp [read?, blank]

theorem ofMillis?_eq_some_iff : ofMillis? millis = some span ↔ millis = span.millis.toNat := by
  simp only [ofMillis?, Option.ite_none_right_eq_some, Option.some.injEq]
  constructor
  · rintro ⟨fits, rfl⟩
    exact (UInt64.toNat_ofNat_of_lt' fits).symm
  · rintro rfl
    exact ⟨span.millis.toNat_lt, by rw [UInt64.ofNat_toNat]⟩

theorem read?_eq_some_iff_phraseTotal? (noClock : NoClock text) : read? text = some span ↔
    trimBlanks text ≠ [] ∧ phraseTotal? text = some span.millis.toNat := by
  by_cases filled : trimBlanks text = []
  · simp [read?_of_blank filled, filled]
  · simp [read?_of_noClock noClock filled, Option.bind_eq_some_iff, ofMillis?_eq_some_iff, filled]

/-! ## The statement -/

theorem map_lowercase_ne_nil (filled : trimBlanks text ≠ []) :
    (wordsOf text).map lowercase ≠ [] := by
  rwa [Ne, List.map_eq_nil_iff, wordsOf_eq_nil_iff]

theorem read?_eq_some_iff_phrase (noClock : NoClock text) : read? text = some span ↔
    ∃ (phrase : Phrase) (words : List (List Char)), Spaced text words ∧ phrase.WellFormed ∧
      phrase.words = words.map lowercase ∧ phrase.OneScale ∧ phrase.Sums span.millis.toNat := by
  simp only [read?_eq_some_iff_phraseTotal? noClock, phraseTotal?, ← wordsOf_eq_iff]
  constructor
  · rintro ⟨filled, total⟩
    obtain ⟨phrase, wellFormed, spelt, oneScale, sums⟩ :=
      (PhraseSum.total?_eq_some_iff (map_lowercase_ne_nil filled)).1 total
    exact ⟨phrase, _, rfl, wellFormed, spelt, oneScale, sums⟩
  · rintro ⟨phrase, _, rfl, wellFormed, spelt, oneScale, sums⟩
    have filled : (wordsOf text).map lowercase ≠ [] := by
      rw [← spelt]
      simp [Phrase.words, PhraseSum.words_ne_nil]
    refine ⟨?_, (PhraseSum.total?_eq_some_iff filled).2 ⟨phrase, wellFormed, spelt, oneScale, sums⟩⟩
    rwa [Ne, List.map_eq_nil_iff, wordsOf_eq_nil_iff] at filled

theorem readByIndex_eq_read? (noClock : NoClock text) :
    readByIndex text = WordIndex.ofOption ((read? text).map (·.millis.toNat)) := by
  unfold readByIndex
  split_ifs with blank
  · rw [read?_of_blank (List.isEmpty_iff.1 blank)]
    rfl
  · have filled : trimBlanks text ≠ [] := by simpa using blank
    have total : phraseTotal? text = (read? text).map (·.millis.toNat) := by
      rw [read?_of_noClock noClock filled]
      cases added : phraseTotal? text with
      | none => rfl
      | some millis =>
          obtain ⟨_, _, _, _, _, _, _, fits⟩ :=
            (PhraseSum.total?_eq_some_iff (map_lowercase_ne_nil filled)).1 added
          have found : ofMillis? millis = some ⟨UInt64.ofNat millis⟩ := if_pos fits
          rw [Option.bind_some, found, Option.map_some, UInt64.toNat_ofNat_of_lt' fits]
    rw [WordIndex.readFrom_eq _ (Nat.zero_le _) (by simp), ← total]
    rfl

theorem read?_of_whole (noClock : NoClock text) {words : List (List Char)} {phrase : Phrase}
    (spaced : Spaced text words) (wellFormed : phrase.WellFormed)
    (spelt : phrase.words = words.map lowercase) (oneScale : phrase.OneScale)
    (real : phrase.scale = .real) (whole : ∀ term ∈ phrase.terms, ∃ n : ℕ, term.rational = n)
    (sum : phrase.exactMillis = millis) (small : millis < 2 ^ 53) :
    read? text = some ⟨UInt64.ofNat millis⟩ := by
  refine (read?_eq_some_iff_phrase noClock).2
    ⟨phrase, words, spaced, wellFormed, spelt, oneScale, ?_⟩
  rw [UInt64.toNat_ofNat_of_lt' (small.trans (by decide))]
  exact Phrase.sums_of_whole wellFormed real whole sum small

end Timespan

theorem read?_phrase (text : List Char) (noClock : Timespan.NoClock text) :
    (∀ span, Timespan.read? text = some span ↔
      ∃ (phrase : Phrase) (words : List (List Char)), Spaced text words ∧ phrase.WellFormed ∧
        phrase.words = words.map lowercase ∧ phrase.OneScale ∧ phrase.Sums span.millis.toNat) ∧
      Timespan.readByIndex text =
        WordIndex.ofOption ((Timespan.read? text).map (·.millis.toNat)) ∧
      (∀ index, Timespan.readByIndex text ≠ .error (.noWord index)) ∧
      ∀ (phrase : Phrase) (words : List (List Char)) (millis : Nat), Spaced text words →
        phrase.WellFormed → phrase.words = words.map lowercase → phrase.OneScale →
        phrase.scale = .real → (∀ term ∈ phrase.terms, ∃ n : ℕ, term.rational = n) →
        phrase.exactMillis = millis → millis < 2 ^ 53 →
        Timespan.read? text = some ⟨UInt64.ofNat millis⟩ := by
  have byIndex := Timespan.readByIndex_eq_read? noClock
  refine ⟨fun span => Timespan.read?_eq_some_iff_phrase noClock, byIndex, ?_, ?_⟩
  · intro index
    rw [byIndex]
    cases Timespan.read? text <;> exact nofun
  · intro phrase words millis spaced wellFormed spelt oneScale real whole sum small
    exact Timespan.read?_of_whole noClock spaced wellFormed spelt oneScale real whole sum small

def PhraseTerm.hour : PhraseTerm :=
  ⟨some .an, none, ⟨.hour, false, true⟩⟩

def PhraseTerm.minutes : PhraseTerm :=
  ⟨some (.decimal ⟨false, ['2'], ['0']⟩), some .irl, ⟨.minute, true, false⟩⟩

theorem PhraseTerm.rational_hour : hour.rational = (1 : ℕ) :=
  Nat.cast_one.symm

theorem PhraseTerm.rational_minutes : minutes.rational = (2 : ℕ) := by
  have digits : decimalValue ['2', '0'] = 20 := by decide
  simp [minutes, PhraseTerm.rational, AmountWord.rational, Numeral.rational, digits]
  norm_num

/-- An hour and two minutes. -/
def Phrase.hourAndMinutes : Phrase :=
  ⟨.hour, [(2, .minutes)]⟩

theorem Phrase.hourAndMinutes_wellFormed : hourAndMinutes.WellFormed := by
  refine List.forall_mem_cons.2
    ⟨⟨?_, by decide⟩, List.forall_mem_cons.2 ⟨⟨?_, by decide⟩, List.forall_mem_nil _⟩⟩
  · rintro _ ⟨⟩
    trivial
  · rintro _ ⟨⟩
    exact ⟨⟨List.cons_ne_nil _ _, List.all_eq_true.1 rfl, List.all_eq_true.1 rfl⟩,
      List.all_eq_true.1 rfl, rfl⟩

theorem Phrase.hourAndMinutes_oneScale : hourAndMinutes.OneScale := by
  simp only [OneScale, PhraseTerm.Agrees]
  decide

theorem Phrase.hourAndMinutes_exactMillis : hourAndMinutes.exactMillis = (3720000 : ℕ) := by
  have hour : PhraseTerm.hour.unit.unit.millis = 3600000 := rfl
  have minute : PhraseTerm.minutes.unit.unit.millis = 60000 := rfl
  simp [exactMillis, terms, hourAndMinutes, PhraseTerm.rational_hour, PhraseTerm.rational_minutes,
    hour, minute]
  norm_num

theorem read?_phrase_hourAndMinutes :
    let text := " An hour, and AND 2.0 irl\tMinutes".toList
    Timespan.NoClock text ∧ Timespan.read? text = some ⟨3720000⟩ ∧
      Timespan.readByIndex text = .ok 3720000 := by
  intro text
  have noClock : Timespan.NoClock text := Timespan.noClock_iff.2 (by decide)
  obtain ⟨_, byIndex, _, whole⟩ := read?_phrase text noClock
  have amounts : ∀ term ∈ Phrase.hourAndMinutes.terms, ∃ n : ℕ, term.rational = n :=
    List.forall_mem_cons.2 ⟨⟨1, PhraseTerm.rational_hour⟩,
      List.forall_mem_cons.2 ⟨⟨2, PhraseTerm.rational_minutes⟩, List.forall_mem_nil _⟩⟩
  have read : Timespan.read? text = some ⟨3720000⟩ :=
    whole .hourAndMinutes _ 3720000 (spaced_wordsOf text) Phrase.hourAndMinutes_wellFormed
      (by decide) Phrase.hourAndMinutes_oneScale rfl amounts Phrase.hourAndMinutes_exactMillis
      (by norm_num)
  exact ⟨noClock, read, by rw [byIndex, read]; rfl⟩

end HostTypes
