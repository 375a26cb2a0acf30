import HostTypes.Builtin.Parsers
import HostTypes.Proofs.Catalog.Complaints
import HostTypes.Proofs.Number.Numerals

/-!
Texts that are no numbers. A text means nothing as a number exactly if it is no numeral
(`readNumber_eq_noMatch_iff`), and then no reading complains of it in the name of the number entry
(`not_reported_of_noMatch`). A numeral is invalid exactly if no double is close to its number or one of
its digits is not from `0` to `9` (`readNumber_eq_invalid_iff`), although it is called too large in
either case (`numberParser_rejects`).
-/

namespace HostTypes

open Binary64 (overflow)

/-! ## Reading a number -/

variable {native : TypeKey} {text : String}

/-- The text, without blanks around it, is the numeral. -/
def SpellsNumeral (text : String) (numeral : Numeral) : Prop :=
  numeral.WellFormed ∧ trimBlanks text.toList = numeral.text

theorem spellsNumeral_iff {numeral : Numeral} :
    SpellsNumeral text numeral ↔ Numeral.read? (trimBlanks text.toList) = some numeral :=
  Numeral.read?_eq_some_iff.symm

theorem SpellsNumeral.mem_of_digit {numeral : Numeral} (spells : SpellsNumeral text numeral) {c : Char}
    (member : c ∈ numeral.whole ++ numeral.fraction) : c ∈ trimBlanks text.toList := by
  rw [spells.2, Numeral.text, Numeral.fractionText]
  rcases List.mem_append.1 member with whole | fraction
  · simp [whole]
  · simp [fraction, List.ne_nil_of_mem fraction]

theorem readNumber_of_unread (unread : Numeral.read? (trimBlanks text.toList) = none) :
    readNumber native text = .error .noMatch := by
  rw [readNumber, unread]

/-- A numeral that no double is close to, or whose digits have no value. -/
def Numeral.Unfit (numeral : Numeral) : Prop :=
  numeral.IsAscii → (overflow : ℚ) ≤ |numeral.rational|

theorem readNumber_of_fit {numeral : Numeral} (spells : SpellsNumeral text numeral)
    (fit : ¬ numeral.Unfit) : readNumber native text = .ok ⟨native, .number numeral.double⟩ := by
  obtain ⟨ascii, small⟩ := Classical.not_imp.1 fit
  have value : numeral.value? = some numeral.double := Numeral.value?_eq_some_iff.2 ⟨ascii, rfl⟩
  have finite : numeral.double.isFinite := Numeral.isFinite_double_iff.2 (not_le.1 small)
  simp [readNumber, spellsNumeral_iff.1 spells, value, finite]

theorem readNumber_of_unfit {numeral : Numeral} (spells : SpellsNumeral text numeral)
    (unfit : numeral.Unfit) :
    readNumber native text = .error (.invalid
      ("'" ++ String.ofList (trimBlanks text.toList) ++ "' is too large to be a number")) := by
  have read := spellsNumeral_iff.1 spells
  by_cases ascii : numeral.IsAscii
  · have value : numeral.value? = some numeral.double := Numeral.value?_eq_some_iff.2 ⟨ascii, rfl⟩
    have infinite : ¬ numeral.double.isFinite := by
      rw [Numeral.isFinite_double_iff]
      exact not_lt.2 (unfit ascii)
    simp [readNumber, read, value, infinite, toString]
  · have value : numeral.value? = none := Numeral.value?_eq_none_iff.2 ascii
    simp [readNumber, read, value, toString]

theorem readNumber_eq_noMatch_iff :
    readNumber native text = .error .noMatch ↔ ∀ numeral, ¬ SpellsNumeral text numeral := by
  constructor
  · intro meaningless numeral spells
    by_cases unfit : numeral.Unfit
    · cases meaningless.symm.trans (readNumber_of_unfit spells unfit)
    · cases meaningless.symm.trans (readNumber_of_fit spells unfit)
  · intro other
    refine readNumber_of_unread (Option.eq_none_iff_forall_not_mem.2 ?_)
    intro numeral read
    exact other numeral (spellsNumeral_iff.2 read)

theorem readNumber_eq_invalid_iff {reason : String} :
    readNumber native text = .error (.invalid reason) ↔
      (∃ numeral, SpellsNumeral text numeral ∧ numeral.Unfit) ∧
        reason = "'" ++ String.ofList (trimBlanks text.toList) ++ "' is too large to be a number" := by
  constructor
  · intro invalid
    cases read : Numeral.read? (trimBlanks text.toList) with
    | none => cases invalid.symm.trans (readNumber_of_unread read)
    | some numeral =>
        have spells := spellsNumeral_iff.2 read
        by_cases unfit : numeral.Unfit
        · have same := invalid.symm.trans (readNumber_of_unfit spells unfit)
          injection same with same
          injection same with same
          exact ⟨⟨numeral, spells, unfit⟩, same⟩
        · cases invalid.symm.trans (readNumber_of_fit spells unfit)
  · rintro ⟨⟨numeral, spells, unfit⟩, rfl⟩
    exact readNumber_of_unfit spells unfit

/-! ## Reports -/

/-- What a parser makes nothing of is not reported under the name of its entry. -/
theorem not_reported_of_noMatch {catalog : Catalog} (frozen : catalog.IsFrozen) {entry : TypeEntry}
    (member : entry ∈ catalog.entries) {parser : Parser} (has : entry.parser = some parser)
    {context : ParseContext} (meaningless : parser.parse text context = .error .noMatch)
    (type : TypeKey) :
    entry.codeName ∉
      (catalog.parseDirect text type context).diagnostics.map ParseDiagnostic.codeName := by
  intro reported
  obtain ⟨diagnostic, listed, same⟩ := List.mem_map.1 reported
  obtain ⟨twin, memberToo, named, complains⟩ := Catalog.mem_diagnostics_parseDirect.1 listed
  obtain rfl :=
    List.inj_on_of_nodup_map frozen.codeNames_nodup member memberToo (same.symm.trans named.symm)
  obtain ⟨_, sameParser, _, invalid⟩ := complains.rejects
  obtain rfl := Option.some.inj (has.symm.trans sameParser)
  cases meaningless.symm.trans invalid

/-! ## The statement -/

theorem numberParser_rejects (native : TypeKey) (accuracy : Nat) (text : String)
    (context : ParseContext) :
    let trimmed := trimBlanks text.toList
    let parsed := (numberParser native accuracy).parse text context
    (∀ reason, parsed = .error (.invalid reason) ↔
      (∃ numeral : Numeral, numeral.WellFormed ∧ trimmed = numeral.text ∧
        (numeral.IsAscii → (overflow : ℚ) ≤ |numeral.rational|)) ∧
      reason = "'" ++ String.ofList trimmed ++ "' is too large to be a number") ∧
    (parsed = .error .noMatch ↔
      ∀ numeral : Numeral, numeral.WellFormed → trimmed ≠ numeral.text) ∧
    ((∀ c ∈ trimmed, isDecimalDigit c → c.isDigit) →
      ((∃ reason, parsed = .error (.invalid reason)) ↔
        ∃ numeral : Numeral, numeral.WellFormed ∧ numeral.IsAscii ∧ trimmed = numeral.text ∧
          (overflow : ℚ) ≤ |numeral.rational|) ∧
      ((∀ numeral : Numeral, numeral.WellFormed → numeral.IsAscii → trimmed ≠ numeral.text) →
        parsed = .error .noMatch)) ∧
    ∀ catalog : Catalog, catalog.IsFrozen → ∀ entry ∈ catalog.entries,
      entry.parser = some (numberParser native accuracy) → parsed = .error .noMatch → ∀ type,
        entry.codeName ∉
          (catalog.parseDirect text type context).diagnostics.map ParseDiagnostic.codeName := by
  intro trimmed parsed
  have invalid (reason : String) : parsed = .error (.invalid reason) ↔
      (∃ numeral, SpellsNumeral text numeral ∧ numeral.Unfit) ∧
        reason = "'" ++ String.ofList trimmed ++ "' is too large to be a number" :=
    readNumber_eq_invalid_iff
  have meaningless : parsed = .error .noMatch ↔ ∀ numeral, ¬ SpellsNumeral text numeral :=
    readNumber_eq_noMatch_iff
  refine ⟨?_, ?_, ?_, ?_⟩
  · intro reason
    simpa only [SpellsNumeral, and_assoc, Numeral.Unfit] using invalid reason
  · simpa only [SpellsNumeral, not_and] using meaningless
  · intro native
    have ascii {numeral : Numeral} (spells : SpellsNumeral text numeral) : numeral.IsAscii :=
      fun c member => native c (spells.mem_of_digit member) (spells.1.isDecimalDigit member)
    constructor
    · constructor
      · rintro ⟨reason, found⟩
        obtain ⟨⟨numeral, spells, unfit⟩, -⟩ := (invalid reason).1 found
        exact ⟨numeral, spells.1, ascii spells, spells.2, unfit (ascii spells)⟩
      · rintro ⟨numeral, wellFormed, _, spelt, beyond⟩
        exact ⟨_, (invalid _).2 ⟨⟨numeral, ⟨wellFormed, spelt⟩, fun _ => beyond⟩, rfl⟩⟩
    · intro other
      exact meaningless.2 fun numeral spells => other numeral spells.1 (ascii spells) spells.2
  · intro catalog frozen entry member has noMatch type
    exact not_reported_of_noMatch frozen member has noMatch type

/-- The only entry is that of numbers. -/
def Catalog.numeric : Catalog where
  hierarchy := .diamond
  display := {}
  entries := [{ codeName := "number", native := ⟨1⟩, parser := some (numberParser ⟨1⟩ 2) }]
  graph := ⟨.diamond, []⟩
  issues := []

theorem Catalog.numeric_isFrozen : numeric.IsFrozen :=
  ⟨.diamond, {}, numeric.entries.map .entry, rfl⟩

theorem numberParser_rejects_scientific :
    let text := " -1.5e3"
    (∀ c ∈ trimBlanks text.toList, isDecimalDigit c → c.isDigit) ∧
      (∀ numeral : Numeral, numeral.WellFormed → numeral.IsAscii →
        trimBlanks text.toList ≠ numeral.text) ∧
      Catalog.numeric.IsFrozen ∧
      (numberParser ⟨1⟩ 2).parse text .default = .error .noMatch ∧
      "number" ∉ (Catalog.numeric.parseDirect text ⟨0⟩ .default).diagnostics.map
        ParseDiagnostic.codeName := by
  intro text
  have native : ∀ c ∈ trimBlanks text.toList, isDecimalDigit c → c.isDigit := by
    have listed : (trimBlanks text.toList).all (fun c => !isDecimalDigit c || c.isDigit) := by
      decide
    intro c member digit
    have either := List.all_eq_true.1 listed c member
    rwa [digit, Bool.not_true, Bool.false_or] at either
  have unread : Numeral.read? (trimBlanks text.toList) = none := by decide
  have other (numeral : Numeral) (wellFormed : numeral.WellFormed) (_ : numeral.IsAscii) :
      trimBlanks text.toList ≠ numeral.text := by
    intro spelt
    cases unread.symm.trans (Numeral.read?_eq_some_iff.2 ⟨wellFormed, spelt⟩)
  obtain ⟨_, _, rejects, reported⟩ := numberParser_rejects ⟨1⟩ 2 text .default
  have noMatch := (rejects native).2 other
  exact ⟨native, other, Catalog.numeric_isFrozen, noMatch,
    reported .numeric Catalog.numeric_isFrozen _ List.mem_cons_self rfl noMatch ⟨0⟩⟩

/-- Digits of another script make a numeral, which is then called too large. -/
theorem numberParser_rejects_foreign :
    (numberParser ⟨1⟩ 2).parse "٣" .default =
        .error (.invalid "'٣' is too large to be a number") ∧
      ∀ numeral : Numeral, numeral.WellFormed → numeral.IsAscii →
        trimBlanks "٣".toList ≠ numeral.text := by
  refine ⟨by rfl, ?_⟩
  intro numeral wellFormed ascii spelt
  have read : Numeral.read? (trimBlanks "٣".toList) = some ⟨false, ['٣'], []⟩ := by decide
  obtain rfl :=
    Option.some.inj (read.symm.trans (Numeral.read?_eq_some_iff.2 ⟨wellFormed, spelt⟩))
  exact absurd (ascii '٣' List.mem_cons_self) (by decide)

end HostTypes
