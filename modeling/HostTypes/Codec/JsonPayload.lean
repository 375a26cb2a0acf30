import HostTypes.Codec.Json
import HostTypes.Number.Shortest
import HostTypes.Value

/-!
Payloads as JSON documents. A record is an object of its fields; it is also read from an array of
their values in order. Fields that the record does not have are ignored, a field given twice or
not at all is an error.
-/

namespace HostTypes

namespace JsonNumber

def ofDigits (digits : List Nat) : Nat :=
  digits.foldl (fun total digit => 10 * total + digit) 0

/-- The value of an integer spelt without point and exponent, when it lies between `-2 ^ 63` and
`2 ^ 64 - 1`. The negative zero is no integer. -/
def integer? (spelling : JsonNumber) : Option Int :=
  match spelling.fraction, spelling.exponent with
  | none, none =>
    let n := ofDigits spelling.whole
    if spelling.negative then
      if 0 < n && n ≤ twoTo 63 then some (-(n : Int)) else none
    else if n < twoTo 64 then some n
    else none
  | _, _ => none

/-- Appends digits to a number as long as it stays below `2 ^ 64`, and gives the digits that are
left over. -/
def appendDigits : Nat → List Nat → Nat × List Nat
  | total, [] => (total, [])
  | total, digit :: rest =>
    let next := 10 * total + digit
    if next < twoTo 64 then appendDigits next rest else (total, digit :: rest)

/-- The powers of ten that are doubles. -/
def powerOfTen (n : Nat) : Binary64 :=
  Binary64.ofNat (tenTo n)

/-- `significand * 10 ^ exponent` by one multiplication or division by a power of ten, after a first
division by the greatest such power when the exponent is too low for one. Each step rounds, so the
result may miss the nearest double. A number too large for a double has no result. -/
def scale? (significand : Nat) (exponent : Int) : Option Binary64 :=
  let start := Binary64.ofNat significand
  if 0 ≤ exponent then
    if 308 < exponent then if start.isZero then some start else none
    else
      let scaled := start * powerOfTen exponent.toNat
      if scaled.isInfinite then none else some scaled
  else if -308 ≤ exponent then some (start / powerOfTen (-exponent).toNat)
  else if -616 ≤ exponent then some (start / powerOfTen 308 / powerOfTen (-exponent - 308).toNat)
  else some .zero

/-- The double that a spelling is read as. Integers that fit into sixty-four bits are rounded
correctly. For all others the leading digits are taken as far as they fit, and the rest is a
scale. -/
def double? (spelling : JsonNumber) : Option Binary64 :=
  match spelling.integer? with
  | some n => some (.nearest (n < 0) n.natAbs 1)
  | none =>
    let (lead, unread) := appendDigits 0 spelling.whole
    let fraction := spelling.fraction.getD []
    let (significand, ignored) := appendDigits lead fraction
    let exponent : Int := unread.length - (fraction.length - ignored.length : Nat)
    let written : Int :=
      match spelling.exponent with
      | none => 0
      | some (negative, digits) => if negative then -(ofDigits digits : Int) else ofDigits digits
    (scale? significand (exponent + written)).map fun magnitude =>
      if spelling.negative then -magnitude else magnitude

end JsonNumber

namespace Json

def asText? : Json → Option String
  | text content => content
  | _ => none

def asTruth? : Json → Option Bool
  | truth value => some value
  | _ => none

def asNumber? : Json → Option Binary64
  | number spelling => spelling.double?
  | _ => none

def asInteger? (least greatest : Int) : Json → Option Int
  | number spelling =>
    spelling.integer?.bind fun n => if least ≤ n && n ≤ greatest then some n else none
  | _ => none

def asTexts? : Json → Option (List String)
  | array members => members.mapM asText?
  | _ => none

/-- The fields of a record in the order of their names. -/
def asRecord? (names : List String) : Json → Option (List Json)
  | array members => if members.length = names.length then some members else none
  | object fields => do
    if fields.any fun field => field.1.isNone then none
    else
      names.mapM fun name =>
        match fields.filter fun field => field.1 == some name with
        | [(_, value)] => some value
        | _ => none
  | _ => none

end Json

namespace Timespan

def jsonFields : List String := ["millis"]

def ofJson? (json : Json) : Option Timespan := do
  let [millis] ← json.asRecord? jsonFields | none
  let millis ← millis.asInteger? 0 (twoTo 64 - 1)
  ofMillis? millis.toNat

end Timespan

namespace Place

def jsonFields : List String := ["world", "x", "z"]

def ofJson? (json : Json) : Option Place := do
  let [world, x, z] ← json.asRecord? jsonFields | none
  let world ← world.asText?
  let x ← x.asInteger? (-twoTo 31) (twoTo 31 - 1)
  let z ← z.asInteger? (-twoTo 31) (twoTo 31 - 1)
  return ⟨world, Int32.ofInt x, Int32.ofInt z⟩

end Place

namespace Payload

/-- The payload of a known kind that a JSON document stands for. -/
def ofJsonTree? (kind : PayloadKind) (json : Json) : Option Payload :=
  match kind with
  | .text => json.asText?.map text
  | .number => json.asNumber?.map number
  | .truth => json.asTruth?.map truth
  | .timespan => (Timespan.ofJson? json).map timespan
  | .integer => (json.asInteger? (-twoTo 63) (twoTo 63 - 1)).map fun n => integer (Int64.ofInt n)
  | .count => (json.asInteger? 0 (twoTo 32 - 1)).map fun n => count (UInt32.ofNat n.toNat)
  | .texts => json.asTexts?.map texts
  | .place => (Place.ofJson? json).map place
  | .unit =>
    match json with
    | .null => some unit
    | _ => none

def ofJson? (kind : PayloadKind) (bytes : Bytes) : Option Payload :=
  (Json.read? bytes).bind (ofJsonTree? kind)

def jsonField (name : String) (value : List Char) : List Char :=
  Json.quote name ++ ':' :: value

def jsonList (opening closing : Char) (members : List (List Char)) : List Char :=
  opening :: List.intercalate [','] members ++ [closing]

/-- The compact JSON document of a payload. A number that is not finite has none and is written as
`null`. -/
def jsonText : Payload → List Char
  | text content => Json.quote content
  | number value => if value.isFinite then value.shortestText else "null".toList
  | truth value => (if value then "true" else "false").toList
  | timespan span =>
    jsonList '\x7b' '\x7d' [jsonField "millis" (toString span.millis).toList]
  | integer value => (toString value).toList
  | count value => (toString value).toList
  | texts content => jsonList '[' ']' (content.map Json.quote)
  | place spot =>
    jsonList '\x7b' '\x7d'
      [jsonField "world" (Json.quote spot.world), jsonField "x" (toString spot.x).toList,
        jsonField "z" (toString spot.z).toList]
  | unit => "null".toList

def toJson (payload : Payload) : Bytes :=
  textBytes (String.ofList payload.jsonText)

end Payload

end HostTypes
