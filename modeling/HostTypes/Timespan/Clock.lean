import HostTypes.Text.Digit
import HostTypes.Timespan.Basic

/-!
Timespans in clock notation: `MM:SS` or `HH:MM:SS`, with up to four digits of milliseconds after a
point. The first group has any length, the others two digits.
-/

namespace HostTypes

structure ClockText where
  first : List Char
  second : List Char
  third : Option (List Char)
  /-- The digits after the point. -/
  decimals : Option (List Char)
  deriving DecidableEq, Repr

namespace ClockText

def readPair? : List Char → Option (List Char × List Char)
  | ':' :: a :: b :: rest =>
    if isDecimalDigit a && isDecimalDigit b then some ([a, b], rest) else none
  | _ => none

/-- Reads what stands after the last pair: nothing, or a point and one to four digits. -/
def readDecimals? : List Char → Option (Option (List Char))
  | [] => some none
  | '.' :: digits =>
    if 1 ≤ digits.length && digits.length ≤ 4 && digits.all isDecimalDigit then some (some digits)
    else none
  | _ => none

def read? (text : List Char) : Option ClockText := do
  let first := text.takeWhile isDecimalDigit
  if first.isEmpty then none
  else
    let (second, rest) ← readPair? (text.dropWhile isDecimalDigit)
    match readPair? rest with
    | some (third, rest) => return ⟨first, second, some third, ← readDecimals? rest⟩
    | none => return ⟨first, second, none, ← readDecimals? rest⟩

def groups (clock : ClockText) : List (List Char) :=
  clock.first :: clock.second :: (clock.third.toList ++ clock.decimals.toList)

/-- The units of four groups in milliseconds. -/
def allUnits : List Nat :=
  [TimeUnit.hour.millis, TimeUnit.minute.millis, TimeUnit.second.millis, 1]

/-- The units of the groups. Four groups begin with hours, and so do three if there is no point. -/
def units (clock : ClockText) : List Nat :=
  let count := clock.groups.length
  if (count = 3 && clock.decimals.isNone) || count = 4 then allUnits else allUnits.drop 1

/-- A number, when it fits into sixty-four bits. -/
def fitting? (n : Nat) : Option Nat :=
  if n < twoTo 64 then some n else none

/-- The value of a group of digits from `0` to `9`, when it fits. -/
def groupValue? (digits : List Char) : Option Nat :=
  (asciiNumber? digits).bind fitting?

/-- Adds a number of units to a total, when the product and the sum fit. -/
def addUnits? (total : Nat) (amount : Nat × Nat) : Option Nat := do
  let (count, unit) := amount
  fitting? (total + (← fitting? (unit * count)))

/-- The sum of the groups in their units, when every group and every sum on the way fits. The digits
after the point count milliseconds, whatever their number. -/
def span? (clock : ClockText) : Option Timespan := do
  let counts ← clock.groups.mapM groupValue?
  let millis ← (counts.zip clock.units).foldlM addUnits? 0
  Timespan.ofMillis? millis

end ClockText

end HostTypes
