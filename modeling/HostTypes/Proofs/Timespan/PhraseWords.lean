import HostTypes.Proofs.Number.Numerals
import HostTypes.Timespan.Phrase
import Mathlib.Data.List.Basic

/-!
The words of a timespan phrase. Each word of the notation is sorted as what it is, and nothing else is
sorted that way: amounts (`ofWord_eq_amount_iff`), time scales (`ofWord_eq_scale_iff`), units
(`ofWord_eq_unit_iff`) and the word `and` (`ofWord_eq_and_iff`).
-/

namespace HostTypes

/-- The words that may stand for an amount. -/
inductive AmountWord where
  | a
  | an
  | decimal (numeral : Numeral)
  deriving DecidableEq, Repr

namespace AmountWord

def text : AmountWord → List Char
  | a => ['a']
  | an => ['a', 'n']
  | decimal numeral => numeral.text

/-- A decimal has no sign, and its digits are from `0` to `9`. -/
def WellFormed : AmountWord → Prop
  | decimal numeral => numeral.WellFormed ∧ numeral.IsAscii ∧ numeral.negative = false
  | _ => True

def rational : AmountWord → ℚ
  | decimal numeral => numeral.rational
  | _ => 1

/-- The amount in doubles. -/
def double : AmountWord → Binary64
  | decimal numeral => numeral.double
  | _ => .ofNat 1

end AmountWord

/-- The words that may name a time scale. -/
inductive ScaleWord where
  | real
  | rl
  | irl
  | minecraft
  | mc
  deriving DecidableEq, Repr

namespace ScaleWord

def text : ScaleWord → List Char
  | real => "real".toList
  | rl => "rl".toList
  | irl => "irl".toList
  | minecraft => "minecraft".toList
  | mc => "mc".toList

def scale : ScaleWord → TimeScale
  | real | rl | irl => .real
  | minecraft | mc => .game

end ScaleWord

/-- A unit by its name in the singular or the plural, with or without a comma. -/
structure UnitWord where
  unit : TimeUnit
  plural : Bool
  comma : Bool
  deriving DecidableEq, Repr

namespace UnitWord

def name (word : UnitWord) : String :=
  if word.plural then word.unit.plural else word.unit.singular

def text (word : UnitWord) : List Char :=
  word.name.toList ++ if word.comma then [','] else []

end UnitWord

/-! ## Amounts -/

variable {word : List Char}

namespace PhraseToken

theorem decimal_of_amountOf? {numeral : Numeral} {x : Binary64}
    (read : Numeral.readUnsigned? word = some numeral) (value : numeral.value? = some x) :
    ∃ amount : AmountWord, amount.WellFormed ∧ amount.text = word ∧ amount.double = x := by
  obtain ⟨wellFormed, unsigned, spelt⟩ := Numeral.readUnsigned?_eq_some_iff.1 read
  obtain ⟨ascii, same⟩ := Numeral.value?_eq_some_iff.1 value
  exact ⟨.decimal numeral, ⟨wellFormed, ascii, unsigned⟩, spelt.symm, same⟩

theorem amountOf?_decimal {numeral : Numeral} (wellFormed : numeral.WellFormed)
    (ascii : numeral.IsAscii) (unsigned : numeral.negative = false) :
    amountOf? numeral.text = some numeral.double := by
  have read : Numeral.readUnsigned? numeral.text = some numeral :=
    Numeral.readUnsigned?_eq_some_iff.2 ⟨wellFormed, unsigned, rfl⟩
  have value : numeral.value? = some numeral.double := Numeral.value?_eq_some_iff.2 ⟨ascii, rfl⟩
  have noArticle : ¬ (numeral.text = ['a'] ∨ numeral.text = ['a', 'n']) := by
    rintro (article | article) <;> rw [article] at read <;> cases read
  rw [amountOf?, if_neg (by simpa using noArticle), read, Option.bind_some, value]

theorem amountOf?_eq_some_iff {x : Binary64} : amountOf? word = some x ↔
    ∃ amount : AmountWord, amount.WellFormed ∧ amount.text = word ∧ amount.double = x := by
  constructor
  · intro read
    unfold amountOf? at read
    split_ifs at read with article
    · obtain rfl := Option.some.inj read
      simp only [Bool.or_eq_true, decide_eq_true_eq] at article
      rcases article with rfl | rfl
      · exact ⟨.a, trivial, rfl, rfl⟩
      · exact ⟨.an, trivial, rfl, rfl⟩
    · obtain ⟨numeral, readNumeral, value⟩ := Option.bind_eq_some_iff.1 read
      exact decimal_of_amountOf? readNumeral value
  · rintro ⟨amount, wellFormed, rfl, rfl⟩
    cases amount with
    | a => rfl
    | an => rfl
    | decimal numeral => exact amountOf?_decimal wellFormed.1 wellFormed.2.1 wellFormed.2.2

/-! ## Units -/

theorem named?_names : ∀ unit ∈ TimeUnit.all,
    TimeUnit.named? unit.singular = some unit ∧ TimeUnit.named? unit.plural = some unit := by
  decide

theorem named?_eq_some_iff {name : String} {unit : TimeUnit} : TimeUnit.named? name = some unit ↔
    unit ∈ TimeUnit.all ∧ (unit.singular = name ∨ unit.plural = name) := by
  constructor
  · intro found
    refine ⟨List.mem_of_find?_eq_some found, ?_⟩
    simpa using List.find?_some found
  · rintro ⟨member, rfl | rfl⟩
    · exact (named?_names unit member).1
    · exact (named?_names unit member).2

theorem ofWord_unit : ∀ unit ∈ TimeUnit.all, ∀ plural comma,
    ofWord (UnitWord.text ⟨unit, plural, comma⟩) = .unit unit := by
  decide +kernel

theorem exists_unitWord {unit : TimeUnit} (read : unitOf? word = some unit) :
    ∃ name : UnitWord, name.unit ∈ TimeUnit.all ∧ name.text = word ∧ name.unit = unit := by
  obtain ⟨member, named⟩ := named?_eq_some_iff.1 read
  split_ifs at named with comma
  · have cut : word.dropLast ++ [','] = word := List.dropLast_append_getLast? _ comma
    rcases named with singular | plural
    · exact ⟨⟨unit, false, true⟩, member, by simp [UnitWord.text, UnitWord.name, singular, cut], rfl⟩
    · exact ⟨⟨unit, true, true⟩, member, by simp [UnitWord.text, UnitWord.name, plural, cut], rfl⟩
  · rcases named with singular | plural
    · exact ⟨⟨unit, false, false⟩, member, by simp [UnitWord.text, UnitWord.name, singular], rfl⟩
    · exact ⟨⟨unit, true, false⟩, member, by simp [UnitWord.text, UnitWord.name, plural], rfl⟩

/-! ## Sorting -/

theorem ofWord_scale (scale : ScaleWord) : ofWord scale.text = .scale scale.scale := by
  cases scale <;> decide

theorem exists_scaleWord {scale : TimeScale} (read : scaleNamed? (String.ofList word) = some scale) :
    ∃ name : ScaleWord, name.text = word ∧ name.scale = scale := by
  have same {name : String} (named : String.ofList word = name) : name.toList = word := by
    rw [← named, String.toList_ofList]
  unfold scaleNamed? at read
  split_ifs at read with real game
  · obtain rfl := Option.some.inj read
    simp only [Bool.or_eq_true, decide_eq_true_eq] at real
    rcases real with (named | named) | named
    · exact ⟨.real, same named, rfl⟩
    · exact ⟨.rl, same named, rfl⟩
    · exact ⟨.irl, same named, rfl⟩
  · obtain rfl := Option.some.inj read
    simp only [Bool.or_eq_true, decide_eq_true_eq] at game
    rcases game with named | named
    · exact ⟨.minecraft, same named, rfl⟩
    · exact ⟨.mc, same named, rfl⟩

/-- The kinds of words in the order in which they are tried. -/
theorem ofWord_cases (word : List Char) :
    (word = "and".toList ∧ ofWord word = .and) ∨
      (∃ x, amountOf? word = some x ∧ ofWord word = .amount x) ∨
      (∃ scale, scaleNamed? (String.ofList word) = some scale ∧ ofWord word = .scale scale) ∨
      (∃ unit, unitOf? word = some unit ∧ ofWord word = .unit unit) ∨ ofWord word = .unknown := by
  by_cases conjunction : word = "and".toList
  · exact .inl ⟨conjunction, if_pos conjunction⟩
  · rw [ofWord, if_neg conjunction]
    cases amountOf? word with
    | some x => exact .inr (.inl ⟨x, rfl, rfl⟩)
    | none =>
        cases scaleNamed? (String.ofList word) with
        | some scale => exact .inr (.inr (.inl ⟨scale, rfl, rfl⟩))
        | none =>
            cases unitOf? word with
            | some unit => exact .inr (.inr (.inr (.inl ⟨unit, rfl, rfl⟩)))
            | none => exact .inr (.inr (.inr (.inr rfl)))

theorem ofWord_eq_and_iff : ofWord word = .and ↔ word = "and".toList := by
  constructor
  · intro sorted
    rcases ofWord_cases word with ⟨same, _⟩ | ⟨_, _, other⟩ | ⟨_, _, other⟩ | ⟨_, _, other⟩ | other
    · exact same
    all_goals cases sorted.symm.trans other
  · rintro rfl
    rfl

theorem ofWord_eq_amount_iff {x : Binary64} : ofWord word = .amount x ↔
    ∃ amount : AmountWord, amount.WellFormed ∧ amount.text = word ∧ amount.double = x := by
  rw [← amountOf?_eq_some_iff]
  constructor
  · intro sorted
    rcases ofWord_cases word with ⟨_, other⟩ | ⟨_, read, same⟩ | ⟨_, _, other⟩ | ⟨_, _, other⟩ | other
    case inr.inl =>
      cases sorted.symm.trans same
      exact read
    all_goals cases sorted.symm.trans other
  · intro read
    have other : word ≠ "and".toList := by
      rintro rfl
      cases read
    rw [ofWord, if_neg other, read]

theorem ofWord_eq_scale_iff {scale : TimeScale} : ofWord word = .scale scale ↔
    ∃ name : ScaleWord, name.text = word ∧ name.scale = scale := by
  constructor
  · intro sorted
    rcases ofWord_cases word with ⟨_, other⟩ | ⟨_, _, other⟩ | ⟨_, read, same⟩ | ⟨_, _, other⟩ | other
    case inr.inr.inl =>
      cases sorted.symm.trans same
      exact exists_scaleWord read
    all_goals cases sorted.symm.trans other
  · rintro ⟨name, rfl, rfl⟩
    exact ofWord_scale name

theorem ofWord_eq_unit_iff {unit : TimeUnit} : ofWord word = .unit unit ↔
    ∃ name : UnitWord, name.unit ∈ TimeUnit.all ∧ name.text = word ∧ name.unit = unit := by
  constructor
  · intro sorted
    rcases ofWord_cases word with ⟨_, other⟩ | ⟨_, _, other⟩ | ⟨_, _, other⟩ | ⟨_, read, same⟩ | other
    case inr.inr.inr.inl =>
      cases sorted.symm.trans same
      exact exists_unitWord read
    all_goals cases sorted.symm.trans other
  · rintro ⟨⟨_, plural, comma⟩, member, rfl, rfl⟩
    exact ofWord_unit _ member plural comma

end PhraseToken

end HostTypes
