import HostTypes.Number.Shortest
import HostTypes.Proofs.Number.Rounding
import Mathlib.Tactic.Ring

/-!
The shortest decimal of a double. It has at most seventeen digits (`digits_decimalWith?_le`) and is read
as the same pattern (`nearestBits_decimalWith?`), and both still hold when the zeros at its end are taken
for part of its exponent (`shortest_cases`).
-/

namespace HostTypes

/-! ## Decimals -/

namespace Decimal

theorem nearestBits_of_digits_zero {decimal : Decimal} (zero : decimal.digits = 0) :
    decimal.nearestBits = 0 := by
  rw [Decimal.nearestBits, numerator, zero, Nat.zero_mul, Binary64.nearestBits_zero]

theorem nearestBits_natCast (digits exponent : Nat) :
    nearestBits ⟨digits, exponent⟩ = Binary64.nearestBits (digits * tenTo exponent) 1 := by
  rw [nearestBits, numerator, denominator, Int.toNat_natCast, Int.toNat_neg_natCast]

theorem nearestBits_shift (digits : Nat) (exponent : Int) :
    nearestBits ⟨10 * digits, exponent⟩ = nearestBits ⟨digits, exponent + 1⟩ := by
  refine Binary64.nearestBits_congr (tenTo_pos _) (tenTo_pos _) ?_
  have exponents : exponent.toNat + (-(exponent + 1)).toNat + 1 =
    (exponent + 1).toNat + (-exponent).toNat := by omega
  calc 10 * digits * tenTo exponent.toNat * tenTo (-(exponent + 1)).toNat
      = digits * tenTo (exponent.toNat + (-(exponent + 1)).toNat + 1) := by
        rw [tenTo_succ, tenTo_add]
        ring
    _ = digits * tenTo (exponent + 1).toNat * tenTo (-exponent).toNat := by
        rw [exponents, tenTo_add, Nat.mul_assoc]

theorem nearestBits_normalize (fuel : Nat) (decimal : Decimal) :
    (decimal.normalize fuel).nearestBits = decimal.nearestBits := by
  induction fuel generalizing decimal with
  | zero => rfl
  | succ fuel ih =>
      obtain ⟨digits, exponent⟩ := decimal
      rw [normalize]
      split
      · rename_i zero
        have digit : digits = 10 * (digits / 10) := by
          simp only [Bool.and_eq_true, beq_iff_eq] at zero
          omega
        rw [ih, ← nearestBits_shift, ← digit]
      · rfl

theorem digits_normalize_le (fuel : Nat) (decimal : Decimal) :
    (decimal.normalize fuel).digits ≤ decimal.digits := by
  induction fuel generalizing decimal with
  | zero => exact Nat.le_refl _
  | succ fuel ih =>
      rw [normalize]
      split
      · exact (ih _).trans (Nat.div_le_self _ _)
      · exact Nat.le_refl _

end Decimal

/-! ## Exponents -/

/-- The fraction is less than the power of ten. -/
def BelowTenTo (numerator denominator : Nat) (exponent : Int) : Prop :=
  numerator * tenTo (-exponent).toNat < denominator * tenTo exponent.toNat

variable {numerator denominator : Nat}

theorem belowTenTo_natCast {count : Nat} (pos : 0 < denominator)
    (below : numerator / denominator < tenTo count) : BelowTenTo numerator denominator count := by
  rw [BelowTenTo, Int.toNat_neg_natCast, Int.toNat_natCast, Nat.mul_comm denominator]
  exact (Nat.mul_one _).trans_lt ((Nat.div_lt_iff_lt_mul pos).1 below)

theorem belowTenTo_neg_natCast {count : Nat} :
    BelowTenTo numerator denominator (-count) ↔ numerator * tenTo count < denominator := by
  rw [BelowTenTo, neg_neg, Int.toNat_natCast, Int.toNat_neg_natCast, show tenTo 0 = 1 from rfl,
    Nat.mul_one]

theorem tenTo_le_of_length_toDigits {n count : Nat} (length : (Nat.toDigits 10 n).length = count + 2) :
    tenTo (count + 1) ≤ n := by
  rw [← Nat.not_lt]
  intro below
  have short := (Nat.length_toDigits_le_iff (by decide) (Nat.succ_pos count)).2 below
  omega

theorem mul_tenTo_lt_of_inverse {count : Nat} (filled : numerator ≠ 0)
    (inverse : tenTo (count + 1) ≤ denominator / numerator) :
    numerator * tenTo count < denominator := by
  have scaled := (Nat.le_div_iff_mul_le (Nat.pos_of_ne_zero filled)).1 inverse
  have power := Nat.mul_pos (Nat.pos_of_ne_zero filled) (tenTo_pos count)
  rw [tenTo_succ] at scaled
  calc numerator * tenTo count
      < 10 * (numerator * tenTo count) := by omega
    _ = 10 * tenTo count * numerator := by ring
    _ ≤ denominator := scaled

theorem belowTenTo_decimalExponent (filled : numerator ≠ 0) (pos : 0 < denominator) :
    BelowTenTo numerator denominator (decimalExponent numerator denominator + 1) := by
  unfold decimalExponent
  split
  · generalize length : (Nat.toDigits 10 (numerator / denominator)).length = count
    have some : 0 < count := length ▸ Nat.length_toDigits_pos
    have exponent : (count : Int) - 1 + 1 = count := by omega
    rw [exponent]
    exact belowTenTo_natCast pos ((Nat.length_toDigits_le_iff (by decide) some).1 length.le)
  · rename_i small
    dsimp only
    generalize length : (Nat.toDigits 10 (denominator / numerator)).length = guess
    have some : 0 < guess := length ▸ Nat.length_toDigits_pos
    split
    · rename_i reached
      obtain ⟨count, rfl⟩ : ∃ count, guess = count + 2 := by
        refine ⟨guess - 2, ?_⟩
        by_contra single
        obtain rfl : guess = 1 := by omega
        exact small (reached.trans (Nat.mul_one _).le)
      have exponent : -((count + 2 - 1 : Nat) : Int) + 1 = -(count : Int) := by omega
      rw [exponent, belowTenTo_neg_natCast]
      exact mul_tenTo_lt_of_inverse filled (tenTo_le_of_length_toDigits length)
    · rename_i missed
      have exponent : -(guess : Int) + 1 = -((guess - 1 : Nat) : Int) := by omega
      rw [exponent, belowTenTo_neg_natCast]
      exact Nat.not_le.1 missed

/-- On a grid with `places` digits below the power of ten, the fraction has less than as many. -/
theorem BelowTenTo.quotient_lt {exponent : Int} (below : BelowTenTo numerator denominator exponent)
    (pos : 0 < denominator) (places : Nat) :
    numerator * tenTo (-(exponent - places)).toNat / (denominator * tenTo (exponent - places).toNat) <
      tenTo places := by
  rw [Nat.div_lt_iff_lt_mul (Nat.mul_pos pos (tenTo_pos _))]
  have exponents : (-(exponent - places)).toNat + exponent.toNat =
    (-exponent).toNat + (places + (exponent - places).toNat) := by omega
  have room : 0 < tenTo (places + (exponent - places).toNat) := tenTo_pos _
  refine Nat.lt_of_mul_lt_mul_right (a := tenTo exponent.toNat) ?_
  calc numerator * tenTo (-(exponent - places)).toNat * tenTo exponent.toNat
      = numerator * tenTo (-exponent).toNat * tenTo (places + (exponent - places).toNat) := by
        rw [Nat.mul_assoc, ← tenTo_add, exponents, tenTo_add, Nat.mul_assoc]
    _ < denominator * tenTo exponent.toNat * tenTo (places + (exponent - places).toNat) :=
        Nat.mul_lt_mul_of_pos_right below room
    _ = tenTo places * (denominator * tenTo (exponent - places).toNat) * tenTo exponent.toNat := by
        rw [tenTo_add]
        ring

/-! ## The shortest decimal -/

namespace Binary64

variable {x : Binary64} {decimal : Decimal}

theorem digits_decimalBelow_lt (filled : x.steps ≠ 0) (places : Nat) :
    (x.decimalBelow places).1.digits < tenTo places :=
  (belowTenTo_decimalExponent filled stepsPerUnit_pos).quotient_lt stepsPerUnit_pos places

theorem digits_decimalWith?_le {places : Nat} (filled : x.steps ≠ 0)
    (found : x.decimalWith? places = some decimal) : decimal.digits ≤ tenTo places := by
  have below := digits_decimalBelow_lt filled places
  unfold decimalWith? at found
  dsimp only at found
  split_ifs at found <;> cases found
  · exact below.le
  · exact below
  · exact below.le
  · exact below

theorem nearestBits_decimalWith? {places : Nat} (found : x.decimalWith? places = some decimal) :
    decimal.nearestBits = x.unsignedBits := by
  unfold decimalWith? at found
  dsimp only at found
  split_ifs at found with both tie fits fits <;> cases found
  · exact eq_of_beq (Bool.and_eq_true_iff.1 both).1
  · exact eq_of_beq (Bool.and_eq_true_iff.1 both).2
  · exact eq_of_beq fits
  · exact eq_of_beq fits

/-- Either no decimal was found, or one that is read as the number and has at most seventeen digits. -/
theorem shortest_cases (filled : x.steps ≠ 0) :
    x.shortest = ⟨0, 0⟩ ∨
      x.shortest.nearestBits = x.unsignedBits ∧ x.shortest.digits ≤ tenTo 17 := by
  unfold shortest
  cases found : x.fewestDigits? with
  | none => exact .inl rfl
  | some decimal =>
      obtain ⟨places, member, found⟩ := List.exists_of_findSome?_eq_some found
      obtain ⟨count, inside, rfl⟩ := List.mem_map.1 member
      refine .inr ⟨(decimal.nearestBits_normalize 17).trans (nearestBits_decimalWith? found), ?_⟩
      calc (decimal.normalize 17).digits
          ≤ decimal.digits := decimal.digits_normalize_le 17
        _ ≤ tenTo (count + 1) := digits_decimalWith?_le filled found
        _ ≤ tenTo 17 := tenTo_le_tenTo (List.mem_range.1 inside)

end Binary64

end HostTypes
