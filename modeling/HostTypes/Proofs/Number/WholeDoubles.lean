import HostTypes.Proofs.Number.Nearest

/-!
Whole numbers as doubles. Those below `2 ^ 53` are kept as they are (`steps_ofNat`), and so are their
products and rounded values (`ofNat_mul_ofNat`, `roundMagnitude?_ofNat`), while a quotient of two of them
is rounded once (`ofNat_div_ofNat`).
-/

namespace HostTypes.Binary64

variable {x y : Binary64} {denominator : Nat}

theorem isFinite_ofNat {n : Nat} (small : n ≤ twoTo 64) : (ofNat n).isFinite := by
  have finite : (ofNat (twoTo 64)).isFinite := by decide +kernel
  exact isFinite_of_le (unsignedBits_ofNat_mono small) finite

theorem steps_ofNat {n : Nat} (small : n < twoTo 53) : (ofNat n).steps = n * stepsPerUnit := by
  have finite : nearestBits n 1 < infinityBits := by
    rw [← unsignedBits_nearest false, ← isFinite_iff]
    exact isFinite_ofNat (small.le.trans (by decide))
  obtain ⟨shift, power⟩ : ∃ shift, stepsPerUnit = twoTo shift := ⟨1074, by decide +kernel⟩
  rw [power]
  exact steps_nearest_of_short false Nat.one_pos finite (by rw [power, Nat.mul_one]) small

theorem isZero_ofNat {n : Nat} (small : n < twoTo 53) (filled : n ≠ 0) :
    (ofNat n).isZero = false := by
  rw [isZero, decide_eq_false_iff_not]
  intro zero
  have none : (ofNat n).steps = 0 := by
    rw [steps_of_subnormal (zero ▸ twoTo_pos 52), zero]
  rw [steps_ofNat small] at none
  exact Nat.mul_ne_zero filled stepsPerUnit_pos.ne' none

theorem negative_ofNat (n : Nat) : (ofNat n).negative = false :=
  negative_nearest n 1

/-! ## Quotients and products -/

theorem div_of_isFinite (finiteX : x.isFinite) (finiteY : y.isFinite) (filled : y.isZero = false) :
    x / y = nearest (x.negative != y.negative) x.steps y.steps := by
  change div x y = _
  simp [div, isNaN_of_isFinite finiteX, isNaN_of_isFinite finiteY, isInfinite_of_isFinite finiteX,
    isInfinite_of_isFinite finiteY, filled]

theorem mul_of_isFinite (finiteX : x.isFinite) (finiteY : y.isFinite) :
    x * y = nearest (x.negative != y.negative) (x.steps * y.steps) (stepsPerUnit * stepsPerUnit) := by
  change mul x y = _
  simp [mul, isNaN_of_isFinite finiteX, isNaN_of_isFinite finiteY, isInfinite_of_isFinite finiteX,
    isInfinite_of_isFinite finiteY]

theorem ofNat_div_ofNat {n d : Nat} (small : n < twoTo 53) (smallDivisor : d < twoTo 53)
    (filled : d ≠ 0) : ofNat n / ofNat d = nearest false n d := by
  rw [div_of_isFinite (isFinite_ofNat (small.le.trans (by decide)))
    (isFinite_ofNat (smallDivisor.le.trans (by decide))) (isZero_ofNat smallDivisor filled),
    steps_ofNat small, steps_ofNat smallDivisor, negative_ofNat, negative_ofNat]
  refine nearest_congr false (Nat.mul_pos (Nat.pos_of_ne_zero filled) stepsPerUnit_pos)
    (Nat.pos_of_ne_zero filled) ?_
  rw [Nat.mul_assoc, Nat.mul_comm stepsPerUnit]

/-- Where a division comes out even, nothing is rounded. -/
theorem ofNat_mul_div_ofNat {n d : Nat} (small : n * d < twoTo 53) (smallDivisor : d < twoTo 53)
    (filled : d ≠ 0) : ofNat (n * d) / ofNat d = ofNat n := by
  rw [ofNat_div_ofNat small smallDivisor filled]
  exact nearest_congr false (Nat.pos_of_ne_zero filled) Nat.one_pos (Nat.mul_one _)

theorem ofNat_mul_ofNat {n m : Nat} (small : n < twoTo 53) (smallFactor : m < twoTo 53) :
    ofNat n * ofNat m = ofNat (n * m) := by
  rw [mul_of_isFinite (isFinite_ofNat (small.le.trans (by decide)))
    (isFinite_ofNat (smallFactor.le.trans (by decide))), steps_ofNat small,
    steps_ofNat smallFactor, negative_ofNat, negative_ofNat]
  refine nearest_congr false (Nat.mul_pos stepsPerUnit_pos stepsPerUnit_pos) Nat.one_pos ?_
  ring

theorem roundHalfUp_mul (count : Nat) (pos : 0 < denominator) :
    roundHalfUp (count * denominator) denominator = count := by
  have double : 2 * (count * denominator) + denominator =
      2 * denominator * count + denominator := by ring
  rw [roundHalfUp, double, Nat.mul_add_div (Nat.mul_pos Nat.two_pos pos),
    Nat.div_eq_of_lt (by omega), Nat.add_zero]

theorem roundMagnitude?_ofNat {n : Nat} (small : n < twoTo 53) :
    (ofNat n).roundMagnitude? = some n := by
  rw [roundMagnitude?, if_pos (isFinite_ofNat (small.le.trans (by decide))), steps_ofNat small,
    roundHalfUp_mul n stepsPerUnit_pos]

end HostTypes.Binary64
