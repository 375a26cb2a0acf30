import HostTypes.Number.Binary64

/-!
Numbers in fixed-point text. `fixedPoint` writes a number with a given count of decimals, rounding
its exact value; `display` is the shorter form shown to users, without trailing zeros and without a
negative zero.
-/

namespace HostTypes

def paddedDigits (width n : Nat) : List Char :=
  let digits := Nat.toDigits 10 n
  List.replicate (width - digits.length) '0' ++ digits

/-- Writes `units / 10 ^ places` with exactly `places` decimals. -/
def placeValueText (places units : Nat) : List Char :=
  Nat.toDigits 10 (units / tenTo places) ++
    if places = 0 then [] else '.' :: paddedDigits places (units % tenTo places)

def dropTrailing (drop : Char → Bool) (text : List Char) : List Char :=
  (text.reverse.dropWhile drop).reverse

/-- Where there is a decimal point, removes trailing zeros and then a trailing point. -/
def trimDecimals (text : List Char) : List Char :=
  if text.contains '.' then dropTrailing (· == '.') (dropTrailing (· == '0') text) else text

namespace Binary64

/-- The text with exactly `places` decimals. The exact value is rounded, a half going to the even
last digit; a sign bit is written even before zero. -/
def fixedPoint (places : Nat) (x : Binary64) : List Char :=
  if x.isNaN then "NaN".toList
  else
    (if x.negative then ['-'] else []) ++
      if x.isInfinite then "inf".toList
      else placeValueText places (roundHalfEven (x.steps * tenTo places) stepsPerUnit)

/-- The text with at most `accuracy` decimals: trailing zeros are not written, and what rounds to
zero is written without a sign. -/
def displayChars (accuracy : Nat) (x : Binary64) : List Char :=
  let text := trimDecimals (x.fixedPoint accuracy)
  if text = ['-', '0'] then ['0'] else text

def display (accuracy : Nat) (x : Binary64) : String :=
  String.ofList (x.displayChars accuracy)

end Binary64

end HostTypes
