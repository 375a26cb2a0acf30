import HostTypes.Number.FixedPoint

/-!
Timespans: non-negative durations in whole milliseconds, with the named units in which they are
written and read.
-/

namespace HostTypes

/-- A non-negative duration. Durations are ordered as their milliseconds are. -/
structure Timespan where
  millis : UInt64
  deriving DecidableEq, Repr, Inhabited

structure TimeUnit where
  singular : String
  plural : String
  millis : Nat
  deriving DecidableEq, Repr

namespace TimeUnit

def tick : TimeUnit := ⟨"tick", "ticks", 50⟩
def second : TimeUnit := ⟨"second", "seconds", 1000⟩
def minute : TimeUnit := ⟨"minute", "minutes", 60 * second.millis⟩
def hour : TimeUnit := ⟨"hour", "hours", 60 * minute.millis⟩
def day : TimeUnit := ⟨"day", "days", 24 * hour.millis⟩
def week : TimeUnit := ⟨"week", "weeks", 7 * day.millis⟩
def month : TimeUnit := ⟨"month", "months", 30 * day.millis⟩
def year : TimeUnit := ⟨"year", "years", 365 * day.millis⟩

def all : List TimeUnit :=
  [tick, second, minute, hour, day, week, month, year]

def named? (name : String) : Option TimeUnit :=
  all.find? fun unit => unit.singular == name || unit.plural == name

end TimeUnit

namespace Timespan

instance : Ord Timespan where
  compare a b := compare a.millis b.millis

def ofMillis? (millis : Nat) : Option Timespan :=
  if millis < twoTo 64 then some ⟨UInt64.ofNat millis⟩ else none

/-- A number of game ticks. A count that does not fit gives the longest timespan. -/
def ofTicks (ticks : UInt64) : Timespan :=
  ⟨UInt64.ofNat (min (ticks.toNat * TimeUnit.tick.millis) (twoTo 64 - 1))⟩

/-- A number of milliseconds measured in a unit, both first rounded to doubles. -/
def inUnit (millis : Nat) (unit : TimeUnit) : Binary64 :=
  Binary64.ofNat millis / Binary64.ofNat unit.millis

/-- The length in game ticks, to the nearest tick, a half going up. -/
def ticks (span : Timespan) : UInt64 :=
  UInt64.ofNat (((inUnit span.millis.toNat TimeUnit.tick).roundMagnitude?).getD 0)

/-- An amount with its unit, in the singular exactly when the amount is written as `1`. -/
def amountText (accuracy : Nat) (amount : Binary64) (unit : TimeUnit) : String :=
  let number := amount.display accuracy
  number ++ " " ++ if number = "1" then unit.singular else unit.plural

/-- The units of a written timespan, each with the next smaller one. -/
def displaySteps : List (TimeUnit × TimeUnit) :=
  [(.day, .hour), (.hour, .minute), (.minute, .second)]

/-- Writes a timespan in the largest unit that it fills, with the remainder in the next smaller unit
unless the remainder is written as zero. -/
def display (accuracy : Nat) (span : Timespan) : String :=
  let millis := span.millis.toNat
  match displaySteps.find? fun (big, _) => big.millis ≤ millis with
  | none => amountText accuracy (inUnit millis .second) .second
  | some (big, small) =>
    let rest := inUnit (millis % big.millis) small
    if rest.display accuracy = "0" then amountText accuracy (inUnit millis big) big
    else
      amountText accuracy (Binary64.ofNat (millis / big.millis)) big ++ " and " ++
        amountText accuracy rest small

/-- The decimals of a timespan in plain text. -/
def textAccuracy : Nat := 2

def toText (span : Timespan) : String :=
  span.display textAccuracy

end Timespan

end HostTypes
