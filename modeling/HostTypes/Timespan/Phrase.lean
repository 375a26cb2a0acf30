import HostTypes.Number.Numeral
import HostTypes.Text.Blank
import HostTypes.Text.Case
import HostTypes.Timespan.Clock

/-!
Timespans in words, such as `2 minutes and 30 seconds` or `a day and 5 minecraft minutes`. The words
are sorted into tokens one by one, and the tokens form terms: an optional amount, an optional time
scale and a unit. `Timespan.read?` reads both notations.
-/

namespace HostTypes

/-- Real time, or the time of the game, which runs faster. -/
inductive TimeScale where
  | real
  | game
  deriving DecidableEq, Repr

/-- Game time runs this many times faster than real time. -/
def gameTimeFactor : Nat := 72

inductive PhraseToken where
  | and
  | amount (value : Binary64)
  | scale (scale : TimeScale)
  | unit (unit : TimeUnit)
  | unknown
  deriving DecidableEq, Repr

namespace PhraseToken

def scaleNamed? (word : String) : Option TimeScale :=
  if word = "real" || word = "rl" || word = "irl" then some .real
  else if word = "minecraft" || word = "mc" then some .game
  else none

def amountOf? (word : List Char) : Option Binary64 :=
  if word = ['a'] || word = ['a', 'n'] then some (.ofNat 1)
  else (Numeral.readUnsigned? word).bind Numeral.value?

/-- The unit that a word names. A comma after the name is allowed. -/
def unitOf? (word : List Char) : Option TimeUnit :=
  TimeUnit.named? <| String.ofList <| if word.getLast? = some ',' then word.dropLast else word

def ofWord (word : List Char) : PhraseToken :=
  if word = "and".toList then .and
  else
    match amountOf? word with
    | some value => .amount value
    | none =>
      match scaleNamed? (String.ofList word) with
      | some named => .scale named
      | none =>
        match unitOf? word with
        | some named => .unit named
        | none => .unknown

end PhraseToken

/-- The sum of the terms read so far, and the scale of the last of them. -/
structure PhraseSum where
  millis : Nat
  scale : Option TimeScale
  deriving DecidableEq, Repr

namespace PhraseSum

/-- The scale of a term after others: the one it names, which must not differ from the one before
it, or else the one before it. -/
def nextScale? (sum : PhraseSum) (named : Option TimeScale) : Option TimeScale :=
  match named, sum.scale with
  | none, none => some .real
  | none, some scale => some scale
  | some scale, none => some scale
  | some scale, some before => if scale = before then some scale else none

/-- The milliseconds of one term, rounded, when they fit. -/
def termMillis? (amount : Binary64) (scale : TimeScale) (unit : TimeUnit) : Option Nat :=
  let amount :=
    -- Ticks are the same on both scales.
    if scale = .game && unit != .tick then amount / Binary64.ofNat gameTimeFactor else amount
  (amount * Binary64.ofNat unit.millis).roundMagnitude?.bind fun millis =>
    if millis < twoTo 64 then some millis else none

def add? (sum : PhraseSum) (amount : Binary64) (named : Option TimeScale) (unit : TimeUnit) :
    Option PhraseSum := do
  let scale ← sum.nextScale? named
  let millis := sum.millis + (← termMillis? amount scale unit)
  if millis < twoTo 64 then some ⟨millis, some scale⟩ else none

/-- The sum of all terms. `and` may stand between terms, any number of times, but not before the
first and not after the last. -/
def total? (sum : PhraseSum) : List PhraseToken → Option Nat
  | [] => some sum.millis
  | .and :: rest => if sum.scale.isNone || rest.isEmpty then none else total? sum rest
  | .amount amount :: .scale scale :: .unit unit :: rest =>
    match sum.add? amount (some scale) unit with
    | some sum => total? sum rest
    | none => none
  | .amount amount :: .unit unit :: rest =>
    match sum.add? amount none unit with
    | some sum => total? sum rest
    | none => none
  | .scale scale :: .unit unit :: rest =>
    match sum.add? (.ofNat 1) (some scale) unit with
    | some sum => total? sum rest
    | none => none
  | .unit unit :: rest =>
    match sum.add? (.ofNat 1) none unit with
    | some sum => total? sum rest
    | none => none
  | _ => none

end PhraseSum

namespace Timespan

def readPhrase? (text : List Char) : Option Timespan :=
  let tokens := (wordsOf text).map fun word => PhraseToken.ofWord (lowercase word)
  (PhraseSum.total? ⟨0, none⟩ tokens).bind ofMillis?

/-- Reads a timespan in either notation. What looks like a clock is never read as a phrase. -/
def read? (text : List Char) : Option Timespan :=
  let trimmed := trimBlanks text
  if trimmed.isEmpty then none
  else
    match ClockText.read? trimmed with
    | some clock => clock.span?
    | none => readPhrase? trimmed

end Timespan

end HostTypes
