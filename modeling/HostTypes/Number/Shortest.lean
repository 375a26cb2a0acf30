import HostTypes.Number.FixedPoint

/-!
The shortest decimal that reads back as the same double. For one digit, then two, and so on, the
two neighbours of the exact value on the grid of decimals with so many digits are tried; the first
grid on which one reads back is used, with the nearer neighbour if both do.
-/

namespace HostTypes

/-- The positive decimal `digits * 10 ^ exponent`. -/
structure Decimal where
  digits : Nat
  exponent : Int
  deriving DecidableEq, Repr

namespace Decimal

def numerator (decimal : Decimal) : Nat :=
  decimal.digits * tenTo decimal.exponent.toNat

def denominator (decimal : Decimal) : Nat :=
  tenTo (-decimal.exponent).toNat

def nearestBits (decimal : Decimal) : Nat :=
  Binary64.nearestBits decimal.numerator decimal.denominator

/-- Moves zeros at the end of the digits into the exponent. `fuel` bounds their number. -/
def normalize : Nat → Decimal → Decimal
  | 0, decimal => decimal
  | fuel + 1, ⟨digits, exponent⟩ =>
    if digits != 0 && digits % 10 == 0 then normalize fuel ⟨digits / 10, exponent + 1⟩
    else ⟨digits, exponent⟩

/-- Positional for exponents from -5 to 15, with at least one digit after the point, else with an
exponent. -/
def text (decimal : Decimal) : List Char :=
  let digits := Nat.toDigits 10 decimal.digits
  let point : Int := digits.length + decimal.exponent
  if 0 ≤ decimal.exponent && point ≤ 16 then
    digits ++ List.replicate decimal.exponent.toNat '0' ++ ['.', '0']
  else if 0 < point && point ≤ 16 then
    digits.take point.toNat ++ '.' :: digits.drop point.toNat
  else if -5 < point && point ≤ 0 then
    ['0', '.'] ++ List.replicate (-point).toNat '0' ++ digits
  else
    digits.take 1 ++ (if digits.length = 1 then [] else '.' :: digits.drop 1) ++
      'e' :: (toString (point - 1)).toList

end Decimal

/-- The largest exponent `e` with `10 ^ e ≤ numerator / denominator`, for positive fractions. -/
def decimalExponent (numerator denominator : Nat) : Int :=
  if denominator ≤ numerator then ((Nat.toDigits 10 (numerator / denominator)).length : Int) - 1
  else
    let guess := (Nat.toDigits 10 (denominator / numerator)).length
    if denominator ≤ numerator * tenTo (guess - 1) then -((guess - 1 : Nat) : Int)
    else -(guess : Int)

namespace Binary64

/-- The decimal with `places` digits below the exact value, and the share of a unit of its last
digit that is left, as a fraction. -/
def decimalBelow (x : Binary64) (places : Nat) : Decimal × Nat × Nat :=
  let exponent := decimalExponent x.steps stepsPerUnit + 1 - places
  let numerator := x.steps * tenTo (-exponent).toNat
  let denominator := stepsPerUnit * tenTo exponent.toNat
  (⟨numerator / denominator, exponent⟩, numerator % denominator, denominator)

/-- The decimal with `places` digits that reads back as `x`, if there is one. -/
def decimalWith? (x : Binary64) (places : Nat) : Option Decimal :=
  let (below, rest, unit) := x.decimalBelow places
  let above : Decimal := { below with digits := below.digits + 1 }
  let belowFits := below.nearestBits == x.unsignedBits
  let aboveFits := above.nearestBits == x.unsignedBits
  if belowFits && aboveFits then
    if 2 * rest < unit || (2 * rest == unit && below.digits % 2 == 0) then some below
    else some above
  else if belowFits then some below
  else if aboveFits then some above
  else none

/-- The decimal with the fewest digits that reads back as a positive finite number. Seventeen digits
always do. -/
def fewestDigits? (x : Binary64) : Option Decimal :=
  ((List.range 17).map (· + 1)).findSome? x.decimalWith?

def shortest (x : Binary64) : Decimal :=
  (x.fewestDigits?.getD ⟨0, 0⟩).normalize 17

/-- The text of a finite number by its shortest decimal. -/
def shortestText (x : Binary64) : List Char :=
  (if x.negative then ['-'] else []) ++ if x.isZero then ['0', '.', '0'] else x.shortest.text

end Binary64

end HostTypes
