import HostTypes.Codec.Bytes
import HostTypes.Text.Digit

/-!
Hexadecimal text, with small letters: of numbers in a fixed number of digits, and of byte strings
in two digits a byte.
-/

namespace HostTypes

namespace Hex

def digitValue? (c : Char) : Option Nat :=
  if c.isUpper then none else hexDigit? c

def readNumber? (digits : List Char) : Option Nat :=
  digits.foldlM (fun total c => (digitValue? c).map (16 * total + ·)) 0

/-- A number in at least `width` digits. -/
def ofNumber (width n : Nat) : List Char :=
  let digits := Nat.toDigits 16 n
  List.replicate (width - digits.length) '0' ++ digits

def readBytes? : List Char → Option Bytes
  | [] => some []
  | [_] => none
  | high :: low :: rest => do
    let byte ← readNumber? [high, low]
    return byte.toUInt8 :: (← readBytes? rest)

def ofBytes (bytes : Bytes) : List Char :=
  bytes.flatMap fun byte => ofNumber 2 byte.toNat

end Hex

end HostTypes
