import HostTypes.Number.Power

/-!
Double-precision numbers, kept as their sixty-four bits so that every bit pattern, each NaN
included, survives being stored and read back. A finite number is an integer count of the finest
step `1 / 2 ^ 1074`; arithmetic is carried out exactly on those counts and rounded once, by
`nearest`.
-/

namespace HostTypes

/-- Rounds `numerator / denominator` to the nearest integer, a half going to the even neighbour. -/
def roundHalfEven (numerator denominator : Nat) : Nat :=
  let quotient := numerator / denominator
  let remainder := numerator % denominator
  if 2 * remainder < denominator then quotient
  else if denominator < 2 * remainder then quotient + 1
  else quotient + quotient % 2

/-- Rounds `numerator / denominator` to the nearest integer, a half going up. -/
def roundHalfUp (numerator denominator : Nat) : Nat :=
  (2 * numerator + denominator) / (2 * denominator)

/-- A double-precision number as its bit pattern: sign, eleven exponent bits, fifty-two fraction
bits. -/
structure Binary64 where
  bits : UInt64
  deriving DecidableEq, Repr, Inhabited

namespace Binary64

/-- The sign bit. It is also set on the negative zero and may be set on a NaN. -/
def negative (x : Binary64) : Bool :=
  decide (twoTo 63 ≤ x.bits.toNat)

def exponentField (x : Binary64) : Nat :=
  x.bits.toNat / twoTo 52 % twoTo 11

def fractionField (x : Binary64) : Nat :=
  x.bits.toNat % twoTo 52

/-- The bit pattern without its sign. Magnitudes are ordered as these patterns are. -/
def unsignedBits (x : Binary64) : Nat :=
  x.bits.toNat % twoTo 63

/-- The pattern of infinity; greater unsigned patterns are the NaNs. -/
def infinityBits : Nat :=
  2047 * twoTo 52

def isFinite (x : Binary64) : Bool :=
  decide (x.unsignedBits < infinityBits)

def isInfinite (x : Binary64) : Bool :=
  decide (x.unsignedBits = infinityBits)

def isNaN (x : Binary64) : Bool :=
  decide (infinityBits < x.unsignedBits)

def isZero (x : Binary64) : Bool :=
  decide (x.unsignedBits = 0)

/-- The number of steps in one: every finite number is a whole number of steps of size
`1 / stepsPerUnit`. -/
def stepsPerUnit : Nat :=
  twoTo 1074

/-- The absolute value of a finite number, counted in steps. -/
def steps (x : Binary64) : Nat :=
  if x.exponentField = 0 then x.fractionField
  else (twoTo 52 + x.fractionField) * twoTo (x.exponentField - 1)

def signed (negative : Bool) (unsignedBits : Nat) : Binary64 :=
  ⟨UInt64.ofNat (unsignedBits + if negative then twoTo 63 else 0)⟩

def zero : Binary64 := signed false 0

def nan : Binary64 := signed false (infinityBits + twoTo 51)

/-- The unsigned pattern nearest to `numerator / denominator`, a half going to the even pattern and
everything too large becoming infinity. -/
def nearestBits (numerator denominator : Nat) : Nat :=
  let scaled := numerator * stepsPerUnit
  let shift := Nat.log2 (scaled / denominator) - 52
  -- A pattern `shift * 2 ^ 52 + count` stands for `count` units of `2 ^ shift` steps. A count that
  -- rounding carries up to `2 ^ 53` falls on the next binade by itself.
  min (shift * twoTo 52 + roundHalfEven scaled (denominator * twoTo shift)) infinityBits

def nearest (negative : Bool) (numerator denominator : Nat) : Binary64 :=
  signed negative (nearestBits numerator denominator)

def ofNat (n : Nat) : Binary64 :=
  nearest false n 1

def neg (x : Binary64) : Binary64 :=
  signed (!x.negative) x.unsignedBits

def mul (x y : Binary64) : Binary64 :=
  if x.isNaN || y.isNaN then nan
  else if x.isInfinite || y.isInfinite then
    if x.isZero || y.isZero then nan else signed (x.negative != y.negative) infinityBits
  else nearest (x.negative != y.negative) (x.steps * y.steps) (stepsPerUnit * stepsPerUnit)

def div (x y : Binary64) : Binary64 :=
  if x.isNaN || y.isNaN then nan
  else if x.isInfinite then
    if y.isInfinite then nan else signed (x.negative != y.negative) infinityBits
  else if y.isInfinite then signed (x.negative != y.negative) 0
  else if y.isZero then
    if x.isZero then nan else signed (x.negative != y.negative) infinityBits
  else nearest (x.negative != y.negative) x.steps y.steps

instance : Mul Binary64 := ⟨mul⟩
instance : Div Binary64 := ⟨div⟩
instance : Neg Binary64 := ⟨neg⟩

/-- The nearest whole number to the absolute value, a half going away from zero, for finite
numbers. -/
def roundMagnitude? (x : Binary64) : Option Nat :=
  if x.isFinite then some (roundHalfUp x.steps stepsPerUnit) else none

end Binary64

end HostTypes
