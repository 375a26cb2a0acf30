import HostTypes.Number.Binary64
import HostTypes.Text.Digit

/-!
Numerals: an optional minus sign, digits, and optionally a point with more digits. The digits of
every script are recognised, but only the digits from `0` to `9` have a value.
-/

namespace HostTypes

structure Numeral where
  negative : Bool
  whole : List Char
  /-- The digits after the point, empty when there is no point. -/
  fraction : List Char
  deriving DecidableEq, Repr

namespace Numeral

def readUnsigned? (text : List Char) : Option Numeral :=
  let whole := text.takeWhile isDecimalDigit
  if whole.isEmpty then none
  else
    match text.dropWhile isDecimalDigit with
    | [] => some ⟨false, whole, []⟩
    | '.' :: fraction =>
      if fraction.isEmpty || fraction.any (!isDecimalDigit ·) then none
      else some ⟨false, whole, fraction⟩
    | _ => none

def read? : List Char → Option Numeral
  | '-' :: rest => (readUnsigned? rest).map ({ · with negative := true })
  | text => readUnsigned? text

/-- The double nearest to the number, infinite when the number is too large, and `none` when a digit
is not one of `0` to `9`. -/
def value? (numeral : Numeral) : Option Binary64 :=
  (asciiNumber? (numeral.whole ++ numeral.fraction)).map fun units =>
    Binary64.nearest numeral.negative units (tenTo numeral.fraction.length)

end Numeral

end HostTypes
