import HostTypes.Number.Binary64
import Mathlib.Data.Nat.Log
import Mathlib.Order.MinMax
import Mathlib.Tactic.Ring

/-!
Rounding to doubles. The nearest pattern depends on the fraction alone, not on how it is written
(`nearestBits_congr`), and a greater fraction never has a lesser pattern (`nearestBits_mono`). Greater
patterns stand for greater numbers (`steps_le_steps`), so a product of smaller factors stays finite
(`isFinite_mul_of_le`), and what is rounded to a finite number lies below `overflow`
(`lt_overflow_of_nearestBits`).
-/

namespace HostTypes

/-! ## Powers -/

theorem twoTo_pos (n : Nat) : 0 < twoTo n :=
  Nat.two_pow_pos n

theorem tenTo_succ (n : Nat) : tenTo (n + 1) = 10 * tenTo n :=
  Nat.pow_succ'

theorem tenTo_add (m n : Nat) : tenTo (m + n) = tenTo m * tenTo n :=
  Nat.pow_add 10 m n

theorem tenTo_le_tenTo {m n : Nat} (le : m ≤ n) : tenTo m ≤ tenTo n :=
  Nat.pow_le_pow_right (by decide) le

theorem tenTo_lt_tenTo_iff {m n : Nat} : tenTo m < tenTo n ↔ m < n :=
  Nat.pow_lt_pow_iff_right (by decide)

theorem tenTo_pos (n : Nat) : 0 < tenTo n :=
  Nat.pow_pos (by decide)

/-! ## Rounding to whole numbers -/

variable {numerator greater denominator : Nat}

theorem roundHalfEven_mul_right {factor : Nat} (pos : 0 < factor) (numerator denominator : Nat) :
    roundHalfEven (numerator * factor) (denominator * factor) =
      roundHalfEven numerator denominator := by
  have rest : 2 * (numerator * factor % (denominator * factor)) =
      2 * (numerator % denominator) * factor := by
    rw [Nat.mul_mod_mul_right, Nat.mul_assoc]
  unfold roundHalfEven
  simp only [Nat.mul_div_mul_right _ _ pos, rest, Nat.mul_lt_mul_right pos]

theorem quotient_le_roundHalfEven (numerator denominator : Nat) :
    numerator / denominator ≤ roundHalfEven numerator denominator := by
  unfold roundHalfEven
  grind

theorem roundHalfEven_le_succ (numerator denominator : Nat) :
    roundHalfEven numerator denominator ≤ numerator / denominator + 1 := by
  unfold roundHalfEven
  grind

theorem roundHalfEven_mono (le : numerator ≤ greater) :
    roundHalfEven numerator denominator ≤ roundHalfEven greater denominator := by
  rcases (Nat.div_le_div_right (c := denominator) le).eq_or_lt with same | less
  · -- With one quotient the remainders decide.
    have whole := Nat.div_add_mod numerator denominator
    have wholeGreater := Nat.div_add_mod greater denominator
    rw [same] at whole
    have rest : numerator % denominator ≤ greater % denominator := by omega
    unfold roundHalfEven
    simp only [same]
    split_ifs <;> omega
  · calc roundHalfEven numerator denominator
        ≤ numerator / denominator + 1 := roundHalfEven_le_succ _ _
      _ ≤ greater / denominator := less
      _ ≤ roundHalfEven greater denominator := quotient_le_roundHalfEven _ _

theorem roundHalfEven_mul (count : Nat) (pos : 0 < denominator) :
    roundHalfEven (count * denominator) denominator = count := by
  simp [roundHalfEven, Nat.mul_div_cancel count pos, pos]

theorem le_roundHalfEven {count : Nat} (pos : 0 < denominator)
    (le : count * denominator ≤ numerator) : count ≤ roundHalfEven numerator denominator :=
  (roundHalfEven_mul count pos).ge.trans (roundHalfEven_mono le)

theorem roundHalfEven_le {count : Nat} (pos : 0 < denominator)
    (le : numerator ≤ count * denominator) : roundHalfEven numerator denominator ≤ count :=
  (roundHalfEven_mono le).trans (roundHalfEven_mul count pos).le

/-- A fraction is rounded to more than a number exactly if it is beyond the middle between that number
and the next, or in the middle with an odd number below. -/
theorem lt_roundHalfEven_iff (pos : 0 < denominator) (count : Nat) :
    count < roundHalfEven numerator denominator ↔
      (2 * count + 1) * denominator < 2 * numerator ∨
        (2 * count + 1) * denominator = 2 * numerator ∧ count % 2 = 1 := by
  have whole := Nat.div_add_mod numerator denominator
  have rest := Nat.mod_lt numerator pos
  have middle : (2 * count + 1) * denominator = 2 * (denominator * count) + denominator := by ring
  unfold roundHalfEven
  rw [middle]
  generalize numerator / denominator = quotient at *
  generalize numerator % denominator = remainder at *
  subst whole
  rcases Nat.lt_trichotomy quotient count with less | rfl | more
  · obtain ⟨gap, rfl⟩ := Nat.exists_eq_add_of_lt less
    have far : denominator * (quotient + gap + 1) =
        denominator * quotient + denominator * gap + denominator := by ring
    rw [far]
    grind
  · grind
  · obtain ⟨gap, rfl⟩ := Nat.exists_eq_add_of_lt more
    have far : denominator * (count + gap + 1) =
        denominator * count + denominator * gap + denominator := by ring
    rw [far]
    grind

theorem roundHalfEven_le_of_lt {count : Nat} (pos : 0 < denominator)
    (below : 2 * numerator < (2 * count + 1) * denominator) :
    roundHalfEven numerator denominator ≤ count := by
  rw [← Nat.not_lt, lt_roundHalfEven_iff pos]
  omega

namespace Binary64

/-! ## Nearest patterns -/

theorem stepsPerUnit_pos : 0 < stepsPerUnit := by
  decide +kernel

theorem nearestBits_mul_right {factor : Nat} (pos : 0 < factor) (numerator denominator : Nat) :
    nearestBits (numerator * factor) (denominator * factor) = nearestBits numerator denominator := by
  have scaled : numerator * factor * stepsPerUnit = numerator * stepsPerUnit * factor :=
    Nat.mul_right_comm _ _ _
  have unit (shift : Nat) : denominator * factor * twoTo shift = denominator * twoTo shift * factor :=
    Nat.mul_right_comm _ _ _
  unfold nearestBits
  simp only [scaled, Nat.mul_div_mul_right _ _ pos, unit, roundHalfEven_mul_right pos]

theorem nearestBits_congr {other otherDenominator : Nat} (pos : 0 < denominator)
    (posOther : 0 < otherDenominator)
    (same : numerator * otherDenominator = other * denominator) :
    nearestBits numerator denominator = nearestBits other otherDenominator := by
  rw [← nearestBits_mul_right posOther, same, Nat.mul_comm denominator, nearestBits_mul_right pos]

theorem nearestBits_le (numerator denominator : Nat) :
    nearestBits numerator denominator ≤ infinityBits :=
  Nat.min_le_right _ _

theorem nearestBits_zero (denominator : Nat) : nearestBits 0 denominator = 0 := by
  simp [nearestBits, roundHalfEven]

/-- A fraction of a binade is rounded to at most twice the count with which the binade begins. -/
theorem roundHalfEven_shift_le (pos : 0 < denominator) (numerator : Nat) :
    roundHalfEven numerator
      (denominator * twoTo (Nat.log2 (numerator / denominator) - 52)) ≤ twoTo 53 := by
  refine roundHalfEven_le (Nat.mul_pos pos (twoTo_pos _)) ?_
  have below : numerator < 2 ^ (Nat.log2 (numerator / denominator) + 1) * denominator :=
    (Nat.div_lt_iff_lt_mul pos).1 Nat.lt_log2_self
  calc numerator
      ≤ 2 ^ (Nat.log2 (numerator / denominator) + 1) * denominator := below.le
    _ ≤ 2 ^ (53 + (Nat.log2 (numerator / denominator) - 52)) * denominator :=
        Nat.mul_le_mul_right _ (Nat.pow_le_pow_right (by decide) (by omega))
    _ = twoTo 53 * (denominator * twoTo (Nat.log2 (numerator / denominator) - 52)) := by
        rw [Nat.pow_add, Nat.mul_right_comm, Nat.mul_assoc]
        rfl

theorem le_roundHalfEven_shift (shifted : 0 < Nat.log2 (numerator / denominator) - 52)
    (pos : 0 < denominator) :
    twoTo 52 ≤ roundHalfEven numerator
      (denominator * twoTo (Nat.log2 (numerator / denominator) - 52)) := by
  refine le_roundHalfEven (Nat.mul_pos pos (twoTo_pos _)) ?_
  have filled : numerator / denominator ≠ 0 := by
    intro zero
    simp [zero] at shifted
  have log : 52 + (Nat.log2 (numerator / denominator) - 52) =
      Nat.log2 (numerator / denominator) := by omega
  calc twoTo 52 * (denominator * twoTo (Nat.log2 (numerator / denominator) - 52))
      = 2 ^ (52 + (Nat.log2 (numerator / denominator) - 52)) * denominator := by
        rw [Nat.pow_add, Nat.mul_right_comm, Nat.mul_assoc]
        rfl
    _ ≤ numerator / denominator * denominator := by
        rw [log]
        exact Nat.mul_le_mul_right _ (Nat.log2_self_le filled)
    _ ≤ numerator := Nat.div_mul_le_self _ _

theorem nearestBits_mono (pos : 0 < denominator) (le : numerator ≤ greater) :
    nearestBits numerator denominator ≤ nearestBits greater denominator := by
  have scaled : numerator * stepsPerUnit ≤ greater * stepsPerUnit := Nat.mul_le_mul_right _ le
  have quotient := Nat.div_le_div_right (c := denominator) scaled
  have shift : Nat.log2 (numerator * stepsPerUnit / denominator) - 52 ≤
      Nat.log2 (greater * stepsPerUnit / denominator) - 52 := by
    rw [Nat.log2_eq_log_two, Nat.log2_eq_log_two]
    exact Nat.sub_le_sub_right (Nat.log_mono_right quotient) _
  unfold nearestBits
  refine min_le_min_right _ ?_
  rcases shift.eq_or_lt with same | less
  · rw [same]
    exact Nat.add_le_add_left (roundHalfEven_mono scaled) _
  · -- A higher binade begins where a lower one ends.
    have low := roundHalfEven_shift_le pos (numerator * stepsPerUnit)
    have high := le_roundHalfEven_shift (Nat.zero_lt_of_lt less) pos
    have double : twoTo 53 = twoTo 52 + twoTo 52 := rfl
    have next := Nat.mul_le_mul_right (twoTo 52) less
    rw [Nat.succ_mul] at next
    omega

/-- The least number that is rounded to infinity. -/
def overflow : Nat :=
  (twoTo 54 - 1) * twoTo 970

theorem nearestBits_overflow : nearestBits overflow 1 = infinityBits := by
  decide +kernel

theorem lt_overflow_of_nearestBits (pos : 0 < denominator)
    (finite : nearestBits numerator denominator < infinityBits) :
    numerator < overflow * denominator := by
  rw [← Nat.not_le]
  intro beyond
  have whole : nearestBits (overflow * denominator) denominator = infinityBits :=
    (nearestBits_congr pos Nat.one_pos (Nat.mul_one _)).trans nearestBits_overflow
  have greater := nearestBits_mono pos beyond
  omega

/-! ## The order of patterns -/

variable {x y : Binary64}

theorem unsignedBits_signed (negative : Bool) {pattern : Nat} (fits : pattern < twoTo 63) :
    (signed negative pattern).unsignedBits = pattern := by
  have sign : twoTo 63 = 9223372036854775808 := rfl
  unfold signed unsignedBits
  rw [sign] at fits
  rw [UInt64.toNat_ofNat', sign]
  cases negative <;> simp <;> omega

theorem unsignedBits_nearest (negative : Bool) (numerator denominator : Nat) :
    (nearest negative numerator denominator).unsignedBits = nearestBits numerator denominator :=
  unsignedBits_signed negative ((nearestBits_le _ _).trans_lt (by decide))

theorem exponentField_eq (x : Binary64) : x.exponentField = x.unsignedBits / twoTo 52 :=
  (Nat.mod_mul_right_div_self x.bits.toNat (twoTo 52) (twoTo 11)).symm

theorem fractionField_eq (x : Binary64) : x.fractionField = x.unsignedBits % twoTo 52 :=
  (Nat.mod_mul_right_mod x.bits.toNat (twoTo 52) (twoTo 11)).symm

theorem fractionField_lt (x : Binary64) : x.fractionField < twoTo 52 :=
  Nat.mod_lt _ (twoTo_pos 52)

theorem unsignedBits_eq (x : Binary64) :
    x.unsignedBits = twoTo 52 * x.exponentField + x.fractionField := by
  rw [exponentField_eq, fractionField_eq, Nat.div_add_mod]

theorem exponentField_mono (le : x.unsignedBits ≤ y.unsignedBits) :
    x.exponentField ≤ y.exponentField := by
  rw [exponentField_eq, exponentField_eq]
  exact Nat.div_le_div_right le

/-- A binade ends at the latest where the next one begins. -/
theorem steps_le_twoTo (x : Binary64) : x.steps ≤ twoTo 52 * twoTo x.exponentField := by
  have fraction := x.fractionField_lt
  unfold steps
  split_ifs with subnormal
  · rw [subnormal]
    exact fraction.le.trans (Nat.mul_one _).ge
  · obtain ⟨field, same⟩ := Nat.exists_eq_succ_of_ne_zero subnormal
    have double : twoTo (field + 1) = 2 * twoTo field := Nat.pow_succ'
    rw [same, Nat.succ_sub_one, Nat.succ_eq_add_one, double, ← Nat.mul_assoc]
    exact Nat.mul_le_mul_right _ (by omega)

theorem steps_le_steps (le : x.unsignedBits ≤ y.unsignedBits) : x.steps ≤ y.steps := by
  rcases (exponentField_mono le).eq_or_lt with same | less
  · have fraction : x.fractionField ≤ y.fractionField := by
      rw [x.unsignedBits_eq, y.unsignedBits_eq, same] at le
      exact Nat.le_of_add_le_add_left le
    unfold steps
    rw [same]
    split_ifs with subnormal
    · exact fraction
    · exact Nat.mul_le_mul_right _ (Nat.add_le_add_left fraction _)
  · calc x.steps
        ≤ twoTo 52 * twoTo x.exponentField := x.steps_le_twoTo
      _ ≤ twoTo 52 * twoTo (y.exponentField - 1) :=
          Nat.mul_le_mul_left _ (Nat.pow_le_pow_right (by decide) (by omega))
      _ ≤ (twoTo 52 + y.fractionField) * twoTo (y.exponentField - 1) :=
          Nat.mul_le_mul_right _ (Nat.le_add_right _ _)
      _ = y.steps := by rw [steps, if_neg (Nat.ne_zero_of_lt less)]

theorem steps_ne_zero (filled : ¬ x.isZero) : x.steps ≠ 0 := by
  have bits := x.unsignedBits_eq
  unfold steps
  split_ifs with subnormal
  · intro zero
    rw [subnormal, zero] at bits
    exact filled (decide_eq_true bits)
  · exact Nat.mul_ne_zero (by simp) (twoTo_pos _).ne'

/-! ## Products -/

theorem isFinite_iff : x.isFinite ↔ x.unsignedBits < infinityBits :=
  decide_eq_true_iff

theorem isNaN_of_isFinite (finite : x.isFinite) : x.isNaN = false := by
  rw [isFinite_iff] at finite
  exact decide_eq_false (Nat.lt_asymm finite)

theorem isInfinite_of_isFinite (finite : x.isFinite) : x.isInfinite = false := by
  rw [isFinite_iff] at finite
  exact decide_eq_false finite.ne

theorem isFinite_mul_iff (finiteX : x.isFinite) (finiteY : y.isFinite) : (x * y).isFinite ↔
    nearestBits (x.steps * y.steps) (stepsPerUnit * stepsPerUnit) < infinityBits := by
  have product : x * y = nearest (x.negative != y.negative) (x.steps * y.steps)
      (stepsPerUnit * stepsPerUnit) := by
    change mul x y = _
    simp [mul, isNaN_of_isFinite finiteX, isNaN_of_isFinite finiteY,
      isInfinite_of_isFinite finiteX, isInfinite_of_isFinite finiteY]
  rw [isFinite_iff, product, unsignedBits_nearest]

theorem isFinite_of_le (le : x.unsignedBits ≤ y.unsignedBits) (finite : y.isFinite) : x.isFinite :=
  isFinite_iff.2 (le.trans_lt (isFinite_iff.1 finite))

theorem isFinite_mul_of_le {greaterX greaterY : Binary64}
    (leX : x.unsignedBits ≤ greaterX.unsignedBits) (leY : y.unsignedBits ≤ greaterY.unsignedBits)
    (finiteX : greaterX.isFinite) (finiteY : greaterY.isFinite)
    (finite : (greaterX * greaterY).isFinite) : (x * y).isFinite := by
  rw [isFinite_mul_iff finiteX finiteY] at finite
  rw [isFinite_mul_iff (isFinite_of_le leX finiteX) (isFinite_of_le leY finiteY)]
  refine (nearestBits_mono (Nat.mul_pos stepsPerUnit_pos stepsPerUnit_pos) ?_).trans_lt finite
  exact Nat.mul_le_mul (steps_le_steps leX) (steps_le_steps leY)

theorem unsignedBits_ofNat_mono {n m : Nat} (le : n ≤ m) :
    (ofNat n).unsignedBits ≤ (ofNat m).unsignedBits := by
  rw [ofNat, ofNat, unsignedBits_nearest, unsignedBits_nearest]
  exact nearestBits_mono Nat.one_pos le

end Binary64

end HostTypes
