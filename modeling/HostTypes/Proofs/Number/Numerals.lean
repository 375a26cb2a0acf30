import HostTypes.Number.Numeral
import HostTypes.Proofs.Number.DecimalDigits
import HostTypes.Proofs.Number.WholeDoubles
import Mathlib.Algebra.Order.Field.Rat
import Mathlib.Tactic.FieldSimp
import Mathlib.Tactic.Positivity

/-!
Numerals and what they denote. A text is read as a numeral exactly if it is the text of that numeral
(`Numeral.read?_eq_some_iff`), and a numeral has a value exactly if its digits are from `0` to `9`; the
value is the double nearest to the number (`Numeral.value?_eq_some_iff`), and that number itself if it is
whole and below `2 ^ 53` (`Numeral.double_of_whole`).
-/

namespace HostTypes

theorem cast_tenTo (n : Nat) : ((tenTo n : ℕ) : ℚ) = 10 ^ n :=
  Nat.cast_pow 10 n

namespace Numeral

/-! ## Texts -/

structure WellFormed (numeral : Numeral) : Prop where
  filled : numeral.whole ≠ []
  whole : ∀ c ∈ numeral.whole, isDecimalDigit c
  fraction : ∀ c ∈ numeral.fraction, isDecimalDigit c

def fractionText (fraction : List Char) : List Char :=
  if fraction = [] then [] else '.' :: fraction

/-- The numeral as it is written. -/
def text (numeral : Numeral) : List Char :=
  (if numeral.negative then ['-'] else []) ++ numeral.whole ++ fractionText numeral.fraction

variable {numeral : Numeral}

theorem wellFormed_of_readUnsigned? {text : List Char} (read : readUnsigned? text = some numeral) :
    numeral.WellFormed ∧ numeral.negative = false ∧ text = numeral.text := by
  have digits : (text.takeWhile isDecimalDigit).all isDecimalDigit := List.all_takeWhile
  have parts : text.takeWhile isDecimalDigit ++ text.dropWhile isDecimalDigit = text :=
    List.takeWhile_append_dropWhile
  unfold readUnsigned? at read
  generalize text.takeWhile isDecimalDigit = whole at digits parts read
  generalize text.dropWhile isDecimalDigit = rest at parts read
  subst parts
  have isWhole := List.all_eq_true.1 digits
  dsimp only at read
  split_ifs at read with none
  have filled : whole ≠ [] := by simpa using none
  split at read
  · obtain rfl := Option.some.inj read
    exact ⟨⟨filled, isWhole, nofun⟩, rfl, rfl⟩
  · rename_i fraction
    split_ifs at read with wrong
    simp only [Bool.or_eq_true, List.isEmpty_iff, List.any_eq_true, Bool.not_eq_true', not_or,
      not_exists, not_and, Bool.not_eq_false] at wrong
    obtain rfl := Option.some.inj read
    refine ⟨⟨filled, isWhole, wrong.2⟩, rfl, ?_⟩
    simp [Numeral.text, fractionText, wrong.1]
  · cases read

theorem readUnsigned?_text (wellFormed : numeral.WellFormed) (unsigned : numeral.negative = false) :
    readUnsigned? numeral.text = some numeral := by
  obtain ⟨filled, isWhole, isFraction⟩ := wellFormed
  obtain ⟨negative, whole, fraction⟩ := numeral
  dsimp only at filled isWhole isFraction unsigned
  subst unsigned
  have stops : ∀ c ∈ (fractionText fraction).head?, isDecimalDigit c = false := by
    intro c first
    unfold fractionText at first
    split_ifs at first
    · cases first
    · cases first
      decide
  obtain ⟨taken, dropped⟩ := cut_while isWhole stops
  have start : Numeral.text ⟨false, whole, fraction⟩ = whole ++ fractionText fraction := rfl
  have some : whole.isEmpty = false := List.isEmpty_eq_false_iff.2 filled
  rw [start, readUnsigned?, taken, dropped]
  rcases eq_or_ne fraction [] with rfl | decimals
  · simp [some, fractionText]
  · have digits : (fraction.any fun c => !isDecimalDigit c) = false := by
      simpa using isFraction
    have point : fraction.isEmpty = false := List.isEmpty_eq_false_iff.2 decimals
    simp [some, fractionText, decimals, digits, point]

theorem readUnsigned?_eq_some_iff {text : List Char} : readUnsigned? text = some numeral ↔
    numeral.WellFormed ∧ numeral.negative = false ∧ text = numeral.text := by
  constructor
  · exact wellFormed_of_readUnsigned?
  · rintro ⟨wellFormed, unsigned, rfl⟩
    exact readUnsigned?_text wellFormed unsigned

theorem WellFormed.isDecimalDigit (wellFormed : numeral.WellFormed) {c : Char}
    (member : c ∈ numeral.whole ++ numeral.fraction) : isDecimalDigit c :=
  (List.mem_append.1 member).elim (wellFormed.whole c) (wellFormed.fraction c)

/-- A digit is no sign. -/
theorem WellFormed.head?_ne_minus (wellFormed : numeral.WellFormed) :
    numeral.whole.head? ≠ some '-' := by
  intro first
  have digit := wellFormed.whole _ (List.mem_of_head? first)
  exact absurd digit (by decide)

theorem read?_eq_some_iff {text : List Char} :
    read? text = some numeral ↔ numeral.WellFormed ∧ text = numeral.text := by
  obtain ⟨negative, whole, fraction⟩ := numeral
  unfold read?
  split
  · rename_i rest
    simp only [Option.map_eq_some_iff, readUnsigned?_eq_some_iff]
    constructor
    · rintro ⟨unsigned, ⟨⟨filled, isWhole, isFraction⟩, positive, rfl⟩, same⟩
      cases same
      refine ⟨⟨filled, isWhole, isFraction⟩, ?_⟩
      simp [Numeral.text, positive]
    · rintro ⟨wellFormed, spelt⟩
      cases negative with
      | true =>
          refine ⟨⟨false, whole, fraction⟩, ⟨⟨wellFormed.filled, wellFormed.whole, wellFormed.fraction⟩,
            rfl, ?_⟩, rfl⟩
          simpa [Numeral.text] using spelt
      | false =>
          obtain ⟨c, others, rfl⟩ := List.exists_cons_of_ne_nil wellFormed.filled
          simp only [Numeral.text, Bool.false_eq_true, if_false, List.nil_append, List.cons_append,
            List.cons.injEq] at spelt
          exact absurd (spelt.1 ▸ rfl) wellFormed.head?_ne_minus
  · rename_i unsigned
    rw [readUnsigned?_eq_some_iff]
    constructor
    · rintro ⟨wellFormed, _, spelt⟩
      exact ⟨wellFormed, spelt⟩
    · rintro ⟨wellFormed, spelt⟩
      refine ⟨wellFormed, ?_, spelt⟩
      cases negative with
      | true => exact absurd spelt (by simpa [Numeral.text] using unsigned _)
      | false => rfl

theorem read?_text (wellFormed : numeral.WellFormed) : read? numeral.text = some numeral :=
  read?_eq_some_iff.2 ⟨wellFormed, rfl⟩

/-! ## Values -/

/-- The number that a numeral denotes. -/
def rational (numeral : Numeral) : ℚ :=
  (if numeral.negative then -1 else 1) *
    (decimalValue (numeral.whole ++ numeral.fraction) / 10 ^ numeral.fraction.length)

/-- All digits are from `0` to `9`. -/
def IsAscii (numeral : Numeral) : Prop :=
  ∀ c ∈ numeral.whole ++ numeral.fraction, c.isDigit

theorem IsAscii.wellFormed (ascii : numeral.IsAscii) (filled : numeral.whole ≠ []) :
    numeral.WellFormed where
  filled := filled
  whole c member := isDecimalDigit_of_isDigit (ascii c (List.mem_append_left _ member))
  fraction c member := isDecimalDigit_of_isDigit (ascii c (List.mem_append_right _ member))

/-- The double nearest to the number. -/
def double (numeral : Numeral) : Binary64 :=
  Binary64.nearest numeral.negative (decimalValue (numeral.whole ++ numeral.fraction))
    (tenTo numeral.fraction.length)

theorem value?_eq_some_iff {x : Binary64} :
    numeral.value? = some x ↔ numeral.IsAscii ∧ numeral.double = x := by
  simp only [value?, Option.map_eq_some_iff, asciiNumber?_eq_some_iff]
  constructor
  · rintro ⟨_, ⟨ascii, rfl⟩, same⟩
    exact ⟨ascii, same⟩
  · rintro ⟨ascii, same⟩
    exact ⟨_, ⟨ascii, rfl⟩, same⟩

theorem value?_eq_none_iff : numeral.value? = none ↔ ¬ numeral.IsAscii := by
  rw [value?, Option.map_eq_none_iff, asciiNumber?_eq_none_iff]
  simp [IsAscii]

theorem abs_rational (numeral : Numeral) : |numeral.rational| =
    decimalValue (numeral.whole ++ numeral.fraction) / 10 ^ numeral.fraction.length := by
  have sign : |if numeral.negative then (-1 : ℚ) else 1| = 1 := by
    split_ifs <;> simp
  rw [rational, abs_mul, sign, one_mul, abs_of_nonneg (by positivity)]

theorem isFinite_double_iff : numeral.double.isFinite ↔ |numeral.rational| < Binary64.overflow := by
  rw [double, Binary64.isFinite_nearest_iff _ (tenTo_pos _), abs_rational,
    div_lt_iff₀ (by positivity)]
  norm_cast

theorem double_of_whole {n : Nat} (unsigned : numeral.negative = false)
    (whole : numeral.rational = n) : numeral.double = .ofNat n := by
  rw [rational, unsigned, if_neg Bool.false_ne_true, one_mul, div_eq_iff (by positivity)] at whole
  rw [double, unsigned]
  refine Binary64.nearest_congr false (tenTo_pos _) Nat.one_pos ?_
  rw [Nat.mul_one]
  exact_mod_cast whole

end Numeral

end HostTypes
