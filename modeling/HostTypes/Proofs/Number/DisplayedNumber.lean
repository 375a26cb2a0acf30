import HostTypes.Number.FixedPoint
import HostTypes.Proofs.Number.Numerals
import Mathlib.Data.List.DropRight

/-!
Numbers as they are shown to users. The text of a finite number is that of a numeral
(`Binary64.displayChars_eq`), which denotes the number rounded to the given count of decimals
(`Binary64.rational_displayed`), and a whole number below `2 ^ 53` is shown by its digits
(`Binary64.displayChars_ofNat`). Trailing zeros are left out after the point only, so the text denotes
what it did with them (`display_trimmed`).
-/

namespace HostTypes

/-! ## Digits of a given count -/

variable {places width n : Nat} {text : List Char}

theorem decimalValue_paddedDigits (width n : Nat) : decimalValue (paddedDigits width n) = n := by
  rw [paddedDigits, decimalValue_append, decimalValue_zeros, decimalValue_toDigits, Nat.mul_zero,
    Nat.zero_add]

theorem length_paddedDigits (some : 0 < width) (fits : n < tenTo width) :
    (paddedDigits width n).length = width := by
  have short := (Nat.length_toDigits_le_iff (by decide) some).2 fits
  rw [paddedDigits, List.length_append, List.length_replicate]
  omega

theorem isDigit_paddedDigits : ∀ c ∈ paddedDigits width n, c.isDigit := by
  intro c member
  rcases List.mem_append.1 member with zero | digit
  · rw [List.eq_of_mem_replicate zero]
    rfl
  · exact isDigit_toDigits _ c digit

/-- The digits after the point, none if there are no places for them. -/
def fractionDigits (places units : Nat) : List Char :=
  if places = 0 then [] else paddedDigits places (units % tenTo places)

theorem length_fractionDigits (places units : Nat) : (fractionDigits places units).length = places := by
  unfold fractionDigits
  split_ifs with none
  · exact none.symm
  · exact length_paddedDigits (Nat.pos_of_ne_zero none) (Nat.mod_lt _ (tenTo_pos _))

theorem decimalValue_fractionDigits (places units : Nat) :
    decimalValue (fractionDigits places units) = units % tenTo places := by
  unfold fractionDigits
  split_ifs with none
  · rw [none]
    exact (Nat.mod_one units).symm
  · exact decimalValue_paddedDigits _ _

theorem isDigit_fractionDigits {units : Nat} : ∀ c ∈ fractionDigits places units, c.isDigit := by
  unfold fractionDigits
  split_ifs
  · exact nofun
  · exact isDigit_paddedDigits

theorem placeValueText_eq (places units : Nat) : placeValueText places units =
    Nat.toDigits 10 (units / tenTo places) ++ Numeral.fractionText (fractionDigits places units) := by
  unfold placeValueText Numeral.fractionText
  rcases Nat.eq_zero_or_pos places with rfl | some
  · rfl
  · have filled : fractionDigits places units ≠ [] :=
      List.ne_nil_of_length_pos (some.trans_eq (length_fractionDigits places units).symm)
    have digits : fractionDigits places units = paddedDigits places (units % tenTo places) :=
      if_neg some.ne'
    rw [if_neg some.ne', if_neg filled, digits]

/-! ## Trailing zeros -/

theorem Numeral.IsAscii.point_notMem {numeral : Numeral} (ascii : numeral.IsAscii) :
    '.' ∉ numeral.whole ∧ '.' ∉ numeral.fraction := by
  rw [← not_or, ← List.mem_append]
  intro point
  exact absurd (ascii '.' point) (by decide)

theorem Numeral.IsAscii.point_notMem_front {numeral : Numeral} (ascii : numeral.IsAscii) :
    '.' ∉ (if numeral.negative then ['-'] else []) ++ numeral.whole := by
  rw [List.mem_append, not_or]
  refine ⟨?_, ascii.point_notMem.1⟩
  split_ifs <;> decide

theorem dropTrailing_eq (drop : Char → Bool) (text : List Char) :
    dropTrailing drop text = text.rdropWhile drop :=
  rfl

theorem dropTrailing_append_of_neg {drop : Char → Bool} {c : Char} (keep : drop c = false)
    (front back : List Char) :
    dropTrailing drop (front ++ c :: back) = front ++ c :: dropTrailing drop back := by
  simp only [dropTrailing_eq]
  induction back using List.reverseRecOn with
  | nil => exact List.rdropWhile_concat_neg _ _ _ (by simp [keep])
  | append_singleton back d ih =>
      rw [← List.cons_append, ← List.append_assoc]
      cases last : drop d with
      | true => rw [List.rdropWhile_concat_pos _ _ _ last, List.rdropWhile_concat_pos _ _ _ last, ih]
      | false =>
          rw [List.rdropWhile_concat_neg _ _ _ (by simp [last]),
            List.rdropWhile_concat_neg _ _ _ (by simp [last]), ← List.cons_append, List.append_assoc]

def withoutZeros (fraction : List Char) : List Char :=
  dropTrailing (· == '0') fraction

theorem exists_zeros (fraction : List Char) :
    ∃ count, fraction = withoutZeros fraction ++ List.replicate count '0' := by
  have zeros : ∀ c ∈ fraction.rtakeWhile (· == '0'), c = '0' := by
    intro c member
    simpa using List.mem_rtakeWhile_imp member
  refine ⟨(fraction.rtakeWhile (· == '0')).length, ?_⟩
  rw [← List.eq_replicate_of_mem zeros]
  exact List.rdropWhile_append_rtakeWhile.symm

theorem mem_of_mem_withoutZeros {c : Char} {fraction : List Char} (member : c ∈ withoutZeros fraction) :
    c ∈ fraction :=
  (List.rdropWhile_prefix _ fraction).subset member

theorem dropTrailing_point {text : List Char} (noPoint : '.' ∉ text) :
    dropTrailing (· == '.') text = text := by
  rw [dropTrailing_eq, List.rdropWhile_eq_self_iff]
  intro filled point
  exact noPoint (eq_of_beq point ▸ List.getLast_mem filled)

theorem trimDecimals_eq {front fraction : List Char} (whole : '.' ∉ front) (decimals : '.' ∉ fraction) :
    trimDecimals (front ++ Numeral.fractionText fraction) =
      front ++ Numeral.fractionText (withoutZeros fraction) := by
  unfold Numeral.fractionText
  by_cases empty : fraction = []
  · subst empty
    have none : withoutZeros [] = [] := rfl
    simp [trimDecimals, whole, none]
  · have point : (front ++ '.' :: fraction).contains '.' = true := by simp
    have zeros : dropTrailing (· == '0') (front ++ '.' :: fraction) =
        front ++ '.' :: withoutZeros fraction := dropTrailing_append_of_neg rfl front fraction
    rw [if_neg empty, trimDecimals, if_pos point, zeros]
    split_ifs with trimmed
    · rw [trimmed, dropTrailing_eq, List.rdropWhile_concat_pos _ _ _ rfl, ← dropTrailing_eq,
        dropTrailing_point whole, List.append_nil]
    · -- The last of the digits that are left is no point.
      obtain none | ⟨digits, d, last⟩ := List.eq_nil_or_concat (withoutZeros fraction)
      · exact absurd none trimmed
      · have digit : ¬ (d == '.') := by
          intro point
          have member : d ∈ withoutZeros fraction := by simp [last]
          exact decimals (eq_of_beq point ▸ mem_of_mem_withoutZeros member)
        rw [last, List.concat_eq_append, ← List.cons_append, ← List.append_assoc, dropTrailing_eq,
          List.rdropWhile_concat_neg (· == '.') _ _ digit]

theorem withoutZeros_of_mod {places units : Nat} (none : units % tenTo places = 0) :
    withoutZeros (fractionDigits places units) = [] := by
  have zeros : ∀ c ∈ fractionDigits places units, c == '0' := by
    unfold fractionDigits paddedDigits
    rw [none]
    split_ifs
    · exact nofun
    · simp only [Nat.toDigits_zero, List.mem_append, List.mem_replicate, List.mem_singleton, beq_iff_eq]
      rintro c (⟨_, zero⟩ | zero) <;> exact zero
  exact List.rdropWhile_eq_nil_iff.2 zeros

/-! ## The numeral that is shown -/

namespace Binary64

variable {x : Binary64} {accuracy : Nat}

/-- A finite number in units of the last decimal, rounded. -/
def unitsOf (accuracy : Nat) (x : Binary64) : Nat :=
  roundHalfEven (x.steps * tenTo accuracy) stepsPerUnit

/-- What rounds to zero has no sign. -/
def displayed (accuracy : Nat) (x : Binary64) : Numeral where
  negative := x.negative && x.unitsOf accuracy != 0
  whole := Nat.toDigits 10 (x.unitsOf accuracy / tenTo accuracy)
  fraction := withoutZeros (fractionDigits accuracy (x.unitsOf accuracy))

theorem decimalValue_fixed (places units : Nat) :
    decimalValue (Nat.toDigits 10 (units / tenTo places) ++ fractionDigits places units) = units := by
  rw [decimalValue_append, decimalValue_toDigits, length_fractionDigits, decimalValue_fractionDigits,
    Nat.div_add_mod]

/-- The number with all its decimals, trailing zeros and the sign of zero included. -/
def fixed (accuracy : Nat) (x : Binary64) : Numeral where
  negative := x.negative
  whole := Nat.toDigits 10 (x.unitsOf accuracy / tenTo accuracy)
  fraction := fractionDigits accuracy (x.unitsOf accuracy)

theorem fixedPoint_eq (finite : x.isFinite) : x.fixedPoint accuracy = (x.fixed accuracy).text := by
  rw [fixedPoint, Numeral.text, fixed, List.append_assoc, ← placeValueText_eq]
  simp [isNaN_of_isFinite finite, isInfinite_of_isFinite finite, unitsOf]

theorem fixed_isAscii (accuracy : Nat) (x : Binary64) : (x.fixed accuracy).IsAscii := by
  intro c member
  rcases List.mem_append.1 member with whole | fraction
  · exact isDigit_toDigits _ c whole
  · exact isDigit_fractionDigits c fraction

theorem fixed_wellFormed (accuracy : Nat) (x : Binary64) : (x.fixed accuracy).WellFormed :=
  (fixed_isAscii accuracy x).wellFormed Nat.toDigits_ne_nil

theorem rational_fixed (accuracy : Nat) (x : Binary64) : (x.fixed accuracy).rational =
    (if x.negative then -1 else 1) * (x.unitsOf accuracy / 10 ^ accuracy) := by
  rw [Numeral.rational, fixed, decimalValue_fixed, length_fractionDigits]

theorem displayed_isAscii (accuracy : Nat) (x : Binary64) : (x.displayed accuracy).IsAscii := by
  intro c member
  apply fixed_isAscii accuracy x
  rcases List.mem_append.1 member with whole | fraction
  · exact List.mem_append_left _ whole
  · exact List.mem_append_right _ (mem_of_mem_withoutZeros fraction)

theorem displayed_wellFormed (accuracy : Nat) (x : Binary64) : (x.displayed accuracy).WellFormed :=
  (displayed_isAscii accuracy x).wellFormed Nat.toDigits_ne_nil

/-- The value of the digits without trailing zeros, counted in units of the last of them. -/
theorem decimalValue_displayed (accuracy : Nat) (x : Binary64) : ∃ count,
    (x.displayed accuracy).fraction.length + count = accuracy ∧
      decimalValue ((x.displayed accuracy).whole ++ (x.displayed accuracy).fraction) * tenTo count =
        x.unitsOf accuracy := by
  obtain ⟨count, split⟩ := exists_zeros (fractionDigits accuracy (x.unitsOf accuracy))
  refine ⟨count, ?_, ?_⟩
  · have length := length_fractionDigits accuracy (x.unitsOf accuracy)
    rw [split, List.length_append, List.length_replicate] at length
    exact length
  · have value := decimalValue_fixed accuracy (x.unitsOf accuracy)
    rw [split, ← List.append_assoc, decimalValue_append, decimalValue_zeros, List.length_replicate,
      Nat.add_zero, Nat.mul_comm] at value
    exact value

theorem rational_displayed (accuracy : Nat) (x : Binary64) : (x.displayed accuracy).rational =
    (if x.negative then -1 else 1) * (x.unitsOf accuracy / 10 ^ accuracy) := by
  obtain ⟨count, length, value⟩ := decimalValue_displayed accuracy x
  have sign : (x.displayed accuracy).negative = (x.negative && x.unitsOf accuracy != 0) := rfl
  have units : (x.unitsOf accuracy : ℚ) / 10 ^ accuracy =
      decimalValue ((x.displayed accuracy).whole ++ (x.displayed accuracy).fraction) /
        10 ^ (x.displayed accuracy).fraction.length := by
    have power : (10 : ℚ) ^ accuracy = 10 ^ (x.displayed accuracy).fraction.length * 10 ^ count := by
      rw [← pow_add, length]
    have cast : (x.unitsOf accuracy : ℚ) =
        decimalValue ((x.displayed accuracy).whole ++ (x.displayed accuracy).fraction) *
          10 ^ count := by
      exact_mod_cast value.symm
    rw [div_eq_div_iff (by positivity) (by positivity), power, cast]
    ring
  rw [Numeral.rational, ← units, sign]
  by_cases zero : x.unitsOf accuracy = 0
  · rw [zero, Nat.cast_zero, zero_div, mul_zero, mul_zero]
  · rw [bne_iff_ne.2 zero, Bool.and_true]

theorem rational_displayed_of_positive (accuracy : Nat) (positive : x.negative = false) :
    (x.displayed accuracy).rational = x.unitsOf accuracy / 10 ^ accuracy := by
  rw [rational_displayed, positive, if_neg Bool.false_ne_true, one_mul]

theorem displayed_of_zero (zero : x.unitsOf accuracy = 0) : x.displayed accuracy = ⟨false, ['0'], []⟩ := by
  rw [displayed, zero, withoutZeros_of_mod (Nat.zero_mod _), Nat.zero_div, bne_self_eq_false,
    Bool.and_false]
  rfl

theorem unitsOf_of_displayed {negative : Bool} (zero : x.displayed accuracy = ⟨negative, ['0'], []⟩) :
    x.unitsOf accuracy = 0 := by
  obtain ⟨count, _, value⟩ := decimalValue_displayed accuracy x
  rw [zero] at value
  exact value.symm.trans (Nat.zero_mul _)

theorem displayed_of_text {numeral : Numeral} (same : (x.displayed accuracy).text = numeral.text)
    (wellFormed : numeral.WellFormed) : x.displayed accuracy = numeral := by
  have read := Numeral.read?_text (displayed_wellFormed accuracy x)
  rw [same, Numeral.read?_text wellFormed] at read
  exact (Option.some.inj read).symm

theorem displayed_text_ne : (x.displayed accuracy).text ≠ ['-', '0'] := by
  intro same
  have negative : x.displayed accuracy = ⟨true, ['0'], []⟩ :=
    displayed_of_text same ⟨List.cons_ne_nil _ _, List.all_eq_true.1 rfl, nofun⟩
  cases negative.symm.trans (displayed_of_zero (unitsOf_of_displayed negative))

/-- Digits after the point do not end with a zero. -/
theorem getLast?_text_displayed (point : '.' ∈ (x.displayed accuracy).text) :
    (x.displayed accuracy).text.getLast? ≠ some '0' := by
  have front := (displayed_isAscii accuracy x).point_notMem_front
  rw [Numeral.text, Numeral.fractionText] at point ⊢
  by_cases none : (x.displayed accuracy).fraction = []
  · rw [if_pos none, List.append_nil] at point
    exact absurd point front
  · rw [if_neg none, List.getLast?_append, List.getLast?_cons, List.getLast?_eq_some_getLast none]
    have last : ¬ ((x.displayed accuracy).fraction.getLast none == '0') :=
      List.rdropWhile_last_not _ _ none
    simpa using last

theorem trimDecimals_fixedPoint (finite : x.isFinite) : trimDecimals (x.fixedPoint accuracy) =
    Numeral.text { x.displayed accuracy with negative := x.negative } := by
  have ascii := fixed_isAscii accuracy x
  rw [fixedPoint_eq finite]
  exact trimDecimals_eq ascii.point_notMem_front ascii.point_notMem.2

theorem displayChars_eq (finite : x.isFinite) :
    x.displayChars accuracy = (x.displayed accuracy).text := by
  rw [displayChars, trimDecimals_fixedPoint finite]
  by_cases zero : x.unitsOf accuracy = 0
  · rw [displayed_of_zero zero]
    cases x.negative <;> rfl
  · have same : { x.displayed accuracy with negative := x.negative } = x.displayed accuracy := by
      simp [displayed, zero]
    rw [same]
    exact if_neg displayed_text_ne

theorem display_eq_zero_iff (finite : x.isFinite) :
    x.display accuracy = "0" ↔ x.unitsOf accuracy = 0 := by
  rw [display, displayChars_eq finite]
  constructor
  · intro shown
    have digits : (x.displayed accuracy).text = ['0'] := String.ofList_injective shown
    have zero : x.displayed accuracy = ⟨false, ['0'], []⟩ :=
      displayed_of_text digits ⟨List.cons_ne_nil _ _, List.all_eq_true.1 rfl, nofun⟩
    exact unitsOf_of_displayed zero
  · intro zero
    rw [displayed_of_zero zero]
    rfl

theorem unitsOf_ofNat {n : Nat} (small : n < twoTo 53) :
    (ofNat n).unitsOf accuracy = n * tenTo accuracy := by
  rw [unitsOf, steps_ofNat small, Nat.mul_right_comm, roundHalfEven_mul _ stepsPerUnit_pos]

theorem displayChars_ofNat {n : Nat} (small : n < twoTo 53) :
    (ofNat n).displayChars accuracy = Nat.toDigits 10 n := by
  rw [displayChars_eq (isFinite_ofNat (small.le.trans (by decide))), Numeral.text, displayed,
    unitsOf_ofNat small, negative_ofNat, withoutZeros_of_mod (Nat.mul_mod_left n _),
    Nat.mul_div_cancel _ (tenTo_pos _)]
  simp [Numeral.fractionText]

theorem length_fraction_displayed_le (accuracy : Nat) (x : Binary64) :
    (x.displayed accuracy).fraction.length ≤ accuracy := by
  obtain ⟨count, length, _⟩ := decimalValue_displayed accuracy x
  omega

/-- A minus sign is shown of negative numbers only, so zero has none. -/
theorem rational_displayed_neg (negative : (x.displayed accuracy).negative) :
    (x.displayed accuracy).rational < 0 := by
  obtain ⟨sign, units⟩ := Bool.and_eq_true_iff.1 negative
  have some : 0 < x.unitsOf accuracy := Nat.pos_of_ne_zero (bne_iff_ne.1 units)
  rw [rational_displayed, if_pos sign, neg_one_mul, neg_lt_zero]
  exact div_pos (Nat.cast_pos.2 some) (by positivity)

theorem rational_displayed_ofNat (accuracy : Nat) {n : Nat} (small : n < twoTo 53) :
    ((ofNat n).displayed accuracy).rational = n := by
  rw [rational_displayed_of_positive accuracy (negative_ofNat n), unitsOf_ofNat small, Nat.cast_mul,
    cast_tenTo, mul_div_cancel_right₀ _ (by positivity)]

end Binary64

/-! ## The statement -/

theorem display_trimmed (accuracy : Nat) (x : Binary64) (finite : x.isFinite) :
    ∃ fixed shown : Numeral,
      Numeral.read? (x.fixedPoint accuracy) = some fixed ∧ fixed.fraction.length = accuracy ∧
      Numeral.read? (x.display accuracy).toList = some shown ∧ shown.IsAscii ∧
      shown.rational = fixed.rational ∧
      shown.fraction.length ≤ accuracy ∧
      ('.' ∈ (x.display accuracy).toList → (x.display accuracy).toList.getLast? ≠ some '0') ∧
      (shown.negative → shown.rational < 0) ∧ x.display accuracy ≠ "-0" := by
  have text : (x.display accuracy).toList = (x.displayed accuracy).text := by
    rw [Binary64.display, String.toList_ofList, Binary64.displayChars_eq finite]
  refine ⟨x.fixed accuracy, x.displayed accuracy, ?_, length_fractionDigits _ _, ?_,
    Binary64.displayed_isAscii accuracy x, ?_, Binary64.length_fraction_displayed_le accuracy x, ?_,
    Binary64.rational_displayed_neg, ?_⟩
  · rw [Binary64.fixedPoint_eq finite]
    exact Numeral.read?_text (Binary64.fixed_wellFormed accuracy x)
  · rw [text]
    exact Numeral.read?_text (Binary64.displayed_wellFormed accuracy x)
  · rw [Binary64.rational_displayed, Binary64.rational_fixed]
  · rw [text]
    exact Binary64.getLast?_text_displayed
  · intro same
    rw [same] at text
    exact Binary64.displayed_text_ne text.symm

/-- A thousandth below zero. -/
theorem display_trimmed_negligible :
    let x : Binary64 := ⟨0xBF50624DD2F1A9FC⟩
    x.isFinite ∧ x.fixedPoint 2 = "-0.00".toList ∧ x.display 2 = "0" ∧
      ∃ fixed shown : Numeral, Numeral.read? "-0.00".toList = some fixed ∧
        Numeral.read? "0".toList = some shown ∧ shown.rational = fixed.rational := by
  intro x
  have finite : x.isFinite := by decide +kernel
  have text : x.fixedPoint 2 = "-0.00".toList := by decide +kernel
  have trimmed : x.display 2 = "0" := by decide +kernel
  obtain ⟨fixed, shown, spelt, _, read, _, same, _⟩ := display_trimmed 2 x finite
  rw [text] at spelt
  rw [trimmed] at read
  exact ⟨finite, text, trimmed, fixed, shown, spelt, read, same⟩

end HostTypes
