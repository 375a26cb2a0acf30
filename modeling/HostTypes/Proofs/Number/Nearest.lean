import HostTypes.Proofs.Number.Rounding

/-!
The double nearest to a fraction, as a number. It is a whole count of a power of two (`steps_nearest`), so
a count that is short enough is not changed by rounding (`steps_nearest_of_short`), and it is finite
exactly if the fraction lies below `overflow` (`isFinite_nearest_iff`).
-/

namespace HostTypes.Binary64

/-! ## Counts of a power of two -/

variable {x y : Binary64} {numerator denominator : Nat}

theorem steps_of_fields {field fraction : Nat}
    (bits : x.unsignedBits = (field + 1) * twoTo 52 + fraction) (low : fraction < twoTo 52) :
    x.steps = (twoTo 52 + fraction) * twoTo field := by
  have exponent : x.exponentField = field + 1 := by
    rw [exponentField_eq, bits, Nat.add_comm, Nat.add_mul_div_right _ _ (twoTo_pos 52),
      Nat.div_eq_of_lt low, Nat.zero_add]
  have rest : x.fractionField = fraction := by
    rw [fractionField_eq, bits, Nat.add_comm, Nat.add_mul_mod_self_right, Nat.mod_eq_of_lt low]
  rw [steps, exponent, rest, if_neg (Nat.succ_ne_zero field), Nat.add_sub_cancel]

theorem steps_of_subnormal (low : x.unsignedBits < twoTo 52) : x.steps = x.unsignedBits := by
  have exponent : x.exponentField = 0 := by rw [exponentField_eq, Nat.div_eq_of_lt low]
  rw [steps, if_pos exponent, fractionField_eq, Nat.mod_eq_of_lt low]

/-- The pattern of a count of a power of two, also of one that is carried into the next binade. -/
theorem steps_eq_of_unsignedBits {shift count : Nat}
    (bits : x.unsignedBits = shift * twoTo 52 + count) (high : shift ≠ 0 → twoTo 52 ≤ count)
    (low : count ≤ twoTo 53) : x.steps = count * twoTo shift := by
  have double : twoTo 53 = twoTo 52 + twoTo 52 := rfl
  rcases Nat.lt_or_ge count (twoTo 52) with subnormal | normal
  · obtain rfl : shift = 0 := by
      by_contra shifted
      exact Nat.not_le.2 subnormal (high shifted)
    rw [Nat.zero_mul, Nat.zero_add] at bits
    rw [steps_of_subnormal (bits ▸ subnormal), bits]
    exact (Nat.mul_one _).symm
  · obtain ⟨excess, rfl⟩ := Nat.exists_eq_add_of_le normal
    rcases Nat.lt_or_ge excess (twoTo 52) with inside | carried
    · refine steps_of_fields (bits.trans ?_) inside
      rw [Nat.succ_mul, Nat.add_assoc]
    · obtain rfl : excess = twoTo 52 := by omega
      have next : twoTo (shift + 1) = 2 * twoTo shift := Nat.pow_succ'
      have pattern : x.unsignedBits = (shift + 1 + 1) * twoTo 52 + 0 := by
        rw [bits, Nat.succ_mul, Nat.succ_mul, Nat.add_zero, Nat.add_assoc]
      rw [steps_of_fields pattern (twoTo_pos 52), next, Nat.add_zero, ← Nat.mul_assoc, Nat.mul_two]

/-- The binade in which a fraction is rounded, by the power of two that is its unit. -/
def unitShift (numerator denominator : Nat) : Nat :=
  Nat.log2 (numerator * stepsPerUnit / denominator) - 52

theorem nearestBits_le_pattern (numerator denominator : Nat) :
    nearestBits numerator denominator ≤ unitShift numerator denominator * twoTo 52 +
      roundHalfEven (numerator * stepsPerUnit)
        (denominator * twoTo (unitShift numerator denominator)) :=
  Nat.min_le_left _ _

theorem nearestBits_eq (finite : nearestBits numerator denominator < infinityBits) :
    nearestBits numerator denominator = unitShift numerator denominator * twoTo 52 +
      roundHalfEven (numerator * stepsPerUnit)
        (denominator * twoTo (unitShift numerator denominator)) := by
  unfold nearestBits at finite ⊢
  exact Nat.min_eq_left (Nat.le_of_not_ge fun le => by rw [Nat.min_eq_right le] at finite; omega)

theorem steps_nearest (negative : Bool) (pos : 0 < denominator)
    (finite : nearestBits numerator denominator < infinityBits) :
    (nearest negative numerator denominator).steps =
      roundHalfEven (numerator * stepsPerUnit)
          (denominator * twoTo (unitShift numerator denominator)) *
        twoTo (unitShift numerator denominator) := by
  refine steps_eq_of_unsignedBits
    ((unsignedBits_nearest negative numerator denominator).trans (nearestBits_eq finite)) ?_
    (roundHalfEven_shift_le pos _)
  intro shifted
  exact le_roundHalfEven_shift (Nat.pos_of_ne_zero shifted) pos

/-- What is less than `2 ^ 53` units is not rounded in greater ones. -/
theorem unitShift_le {shift : Nat} (pos : 0 < denominator)
    (short : numerator * stepsPerUnit < twoTo 53 * (denominator * twoTo shift)) :
    unitShift numerator denominator ≤ shift := by
  rw [unitShift]
  rcases Nat.eq_zero_or_pos (numerator * stepsPerUnit / denominator) with zero | some
  · rw [zero, Nat.log2_zero]
    omega
  · have log : Nat.log2 (numerator * stepsPerUnit / denominator) < 53 + shift := by
      rw [Nat.log2_lt some.ne', Nat.div_lt_iff_lt_mul pos, Nat.pow_add, Nat.mul_assoc,
        Nat.mul_comm (2 ^ shift)]
      exact short
    omega

/-- A count below `2 ^ 53` of a power of two has no digits to be rounded. -/
theorem steps_nearest_of_short (negative : Bool) {count shift : Nat} (pos : 0 < denominator)
    (finite : nearestBits numerator denominator < infinityBits)
    (exact : numerator * stepsPerUnit = count * twoTo shift * denominator)
    (short : count < twoTo 53) :
    (nearest negative numerator denominator).steps = count * twoTo shift := by
  have low : unitShift numerator denominator ≤ shift := by
    refine unitShift_le pos ?_
    rw [exact, Nat.mul_assoc, Nat.mul_comm (twoTo shift)]
    exact Nat.mul_lt_mul_of_pos_right short (Nat.mul_pos pos (twoTo_pos shift))
  obtain ⟨more, rfl⟩ := Nat.exists_eq_add_of_le' low
  have power : twoTo (more + unitShift numerator denominator) =
    twoTo more * twoTo (unitShift numerator denominator) := Nat.pow_add 2 _ _
  have multiple : numerator * stepsPerUnit =
      count * twoTo more * (denominator * twoTo (unitShift numerator denominator)) := by
    rw [exact, power]
    ring
  rw [steps_nearest negative pos finite, multiple,
    roundHalfEven_mul _ (Nat.mul_pos pos (twoTo_pos _)), power, Nat.mul_assoc]

/-! ## The greatest numbers -/

/-- The least number that is rounded to infinity lies in the middle above the greatest count of the
greatest unit. -/
theorem overflow_eq : ∃ shift, shift = 2045 ∧
    2 * (overflow * stepsPerUnit) = (2 * (twoTo 53 - 1) + 1) * twoTo shift :=
  ⟨2045, rfl, by decide +kernel⟩

theorem nearestBits_lt_infinityBits (pos : 0 < denominator)
    (below : numerator < overflow * denominator) :
    nearestBits numerator denominator < infinityBits := by
  obtain ⟨top, greatest, middle⟩ := overflow_eq
  have scaled : 2 * (numerator * stepsPerUnit) <
      (2 * (twoTo 53 - 1) + 1) * (denominator * twoTo top) :=
    calc 2 * (numerator * stepsPerUnit)
        < 2 * (overflow * denominator * stepsPerUnit) :=
          Nat.mul_lt_mul_of_pos_left (Nat.mul_lt_mul_of_pos_right below stepsPerUnit_pos) Nat.two_pos
      _ = 2 * (overflow * stepsPerUnit) * denominator := by ring
      _ = (2 * (twoTo 53 - 1) + 1) * (denominator * twoTo top) := by rw [middle]; ring
  have short : numerator * stepsPerUnit < twoTo 53 * (denominator * twoTo top) := by
    have double : 2 * (numerator * stepsPerUnit) < 2 * twoTo 53 * (denominator * twoTo top) :=
      scaled.trans_le (Nat.mul_le_mul_right _ (by decide))
    rw [Nat.mul_assoc 2] at double
    exact Nat.lt_of_mul_lt_mul_left double
  have infinity : infinityBits = 2047 * twoTo 52 := rfl
  have double : twoTo 53 = twoTo 52 + twoTo 52 := rfl
  have binade := twoTo_pos 52
  rcases (unitShift_le pos short).lt_or_eq with low | high
  · have count := roundHalfEven_shift_le pos (numerator * stepsPerUnit)
    have next := Nat.mul_le_mul_right (twoTo 52) low
    rw [Nat.succ_mul, greatest] at next
    refine (nearestBits_le_pattern numerator denominator).trans_lt ?_
    unfold unitShift at next ⊢
    omega
  · -- In the greatest binade there is one count less.
    have fewer := roundHalfEven_le_of_lt (Nat.mul_pos pos (twoTo_pos top)) scaled
    refine (nearestBits_le_pattern numerator denominator).trans_lt ?_
    rw [high]
    subst greatest
    omega

theorem isFinite_nearest_iff (negative : Bool) (pos : 0 < denominator) :
    (nearest negative numerator denominator).isFinite ↔ numerator < overflow * denominator := by
  rw [isFinite_iff, unsignedBits_nearest]
  exact ⟨lt_overflow_of_nearestBits pos, nearestBits_lt_infinityBits pos⟩

/-! ## Signs and equal fractions -/

theorem negative_signed_false {pattern : Nat} (fits : pattern < twoTo 63) :
    (signed false pattern).negative = false := by
  have sign : twoTo 63 = 9223372036854775808 := rfl
  unfold signed negative
  rw [sign] at fits
  rw [decide_eq_false_iff_not, UInt64.toNat_ofNat', sign]
  simp
  omega

theorem negative_nearest (numerator denominator : Nat) :
    (nearest false numerator denominator).negative = false :=
  negative_signed_false ((nearestBits_le _ _).trans_lt (by decide))

theorem nearest_congr (negative : Bool) {other otherDenominator : Nat} (pos : 0 < denominator)
    (posOther : 0 < otherDenominator)
    (same : numerator * otherDenominator = other * denominator) :
    nearest negative numerator denominator = nearest negative other otherDenominator := by
  rw [nearest, nearestBits_congr pos posOther same, nearest]

theorem steps_nearest_mono (negative : Bool) {other otherDenominator : Nat} (pos : 0 < denominator)
    (posOther : 0 < otherDenominator) (le : numerator * otherDenominator ≤ other * denominator) :
    (nearest negative numerator denominator).steps ≤ (nearest negative other otherDenominator).steps := by
  refine steps_le_steps ?_
  rw [unsignedBits_nearest, unsignedBits_nearest]
  calc nearestBits numerator denominator
      = nearestBits (numerator * otherDenominator) (denominator * otherDenominator) :=
        (nearestBits_mul_right posOther _ _).symm
    _ ≤ nearestBits (other * denominator) (denominator * otherDenominator) :=
        nearestBits_mono (Nat.mul_pos pos posOther) le
    _ = nearestBits other otherDenominator := by
        rw [Nat.mul_comm denominator, nearestBits_mul_right pos]

end HostTypes.Binary64
