import HostTypes.Codec.Bytes
import HostTypes.Text.Digit

/-!
JSON documents over bytes. Reading gives a tree in which numbers keep their spelling and a text
that is no valid Unicode is marked as such, so that it is refused only where its content matters.
Writing is compact.
-/

namespace HostTypes

/-- A JSON number as it is spelt. -/
structure JsonNumber where
  negative : Bool
  whole : List Nat
  /-- The digits after the point, `none` without a point. -/
  fraction : Option (List Nat)
  /-- The sign of the exponent, true for minus, and its digits. -/
  exponent : Option (Bool × List Nat)
  deriving DecidableEq, Repr

inductive Json where
  | null
  | truth (value : Bool)
  | number (spelling : JsonNumber)
  /-- A text, `none` when its bytes are not valid Unicode. -/
  | text (content : Option String)
  | array (members : List Json)
  | object (fields : List (Option String × Json))
  deriving Repr

namespace Json

def ascii (c : Char) : UInt8 :=
  UInt8.ofNat c.toNat

def isBlankByte (byte : UInt8) : Bool :=
  byte == ascii ' ' || byte == ascii '\n' || byte == ascii '\t' || byte == ascii '\r'

def skipBlanks (bytes : Bytes) : Bytes :=
  bytes.dropWhile isBlankByte

def digitValue? (byte : UInt8) : Option Nat :=
  if ascii '0' ≤ byte && byte ≤ ascii '9' then some (byte.toNat - '0'.toNat) else none

def hexValue? (byte : UInt8) : Option Nat :=
  hexDigit? (Char.ofNat byte.toNat)

def takeDigits : Bytes → List Nat × Bytes
  | [] => ([], [])
  | byte :: rest =>
    match digitValue? byte with
    | none => ([], byte :: rest)
    | some digit =>
      let (digits, rest) := takeDigits rest
      (digit :: digits, rest)

def readDigits? (bytes : Bytes) : Option (List Nat × Bytes) :=
  let (digits, rest) := takeDigits bytes
  if digits.isEmpty then none else some (digits, rest)

/-- The digits before the point, without needless zeros in front. -/
def readWhole? (bytes : Bytes) : Option (List Nat × Bytes) := do
  let (digits, rest) ← readDigits? bytes
  if digits.length > 1 && digits.head? == some 0 then none else return (digits, rest)

def readFraction? : Bytes → Option (Option (List Nat) × Bytes)
  | [] => some (none, [])
  | byte :: rest =>
    if byte == ascii '.' then (readDigits? rest).map fun (digits, rest) => (some digits, rest)
    else some (none, byte :: rest)

def readExponent? : Bytes → Option (Option (Bool × List Nat) × Bytes)
  | [] => some (none, [])
  | byte :: rest =>
    if byte == ascii 'e' || byte == ascii 'E' then
      let (negative, rest) :=
        match rest with
        | sign :: rest =>
          if sign == ascii '-' then (true, rest)
          else if sign == ascii '+' then (false, rest)
          else (false, sign :: rest)
        | [] => (false, [])
      (readDigits? rest).map fun (digits, rest) => (some (negative, digits), rest)
    else some (none, byte :: rest)

def readNumber? (negative : Bool) (bytes : Bytes) : Option (JsonNumber × Bytes) := do
  let (whole, rest) ← readWhole? bytes
  let (fraction, rest) ← readFraction? rest
  let (exponent, rest) ← readExponent? rest
  return (⟨negative, whole, fraction, exponent⟩, rest)

/-- The piece of text that a two-character escape stands for. -/
def simpleEscape? (byte : UInt8) : Option UInt8 :=
  if byte == ascii '"' || byte == ascii '\\' || byte == ascii '/' then some byte
  else if byte == ascii 'b' then some 8
  else if byte == ascii 'f' then some 12
  else if byte == ascii 'n' then some 10
  else if byte == ascii 'r' then some 13
  else if byte == ascii 't' then some 9
  else none

/-- A piece of a text: a byte, or a sixteen-bit unit given by its number. -/
inductive TextPiece where
  | byte (value : UInt8)
  | unit (value : Nat)
  deriving DecidableEq, Repr

/-- The pieces of a text after its opening quote, up to the closing one. -/
def readPieces? : Bytes → Option (List TextPiece × Bytes)
  | [] => none
  | byte :: rest =>
    if byte == ascii '"' then some ([], rest)
    else if byte == ascii '\\' then
      match rest with
      | [] => none
      | escape :: rest =>
        if escape == ascii 'u' then
          match rest with
          | a :: b :: c :: d :: rest =>
            match hexValue? a, hexValue? b, hexValue? c, hexValue? d, readPieces? rest with
            | some a, some b, some c, some d, some (pieces, rest) =>
              some (.unit (((a * 16 + b) * 16 + c) * 16 + d) :: pieces, rest)
            | _, _, _, _, _ => none
          | _ => none
        else
          match simpleEscape? escape, readPieces? rest with
          | some value, some (pieces, rest) => some (.byte value :: pieces, rest)
          | _, _ => none
    else if byte < 0x20 then none
    else
      match readPieces? rest with
      | some (pieces, rest) => some (.byte byte :: pieces, rest)
      | none => none

/-- The bytes of a text. A high surrogate must be followed by a low one, and the two stand for one
character; a low surrogate does not stand alone. -/
def bytesOfPieces? : List TextPiece → Option Bytes
  | [] => some []
  | .byte value :: rest => (bytesOfPieces? rest).map (value :: ·)
  | .unit high :: rest =>
    if 0xD800 ≤ high && high < 0xDC00 then
      match rest with
      | .unit low :: rest =>
        if 0xDC00 ≤ low && low < 0xE000 then
          let code := 0x10000 + (high - 0xD800) * 0x400 + (low - 0xDC00)
          (bytesOfPieces? rest).map (textBytes (String.singleton (Char.ofNat code)) ++ ·)
        else none
      | _ => none
    else if 0xDC00 ≤ high && high < 0xE000 then none
    else (bytesOfPieces? rest).map (textBytes (String.singleton (Char.ofNat high)) ++ ·)

def readText? (bytes : Bytes) : Option (Option String × Bytes) :=
  (readPieces? bytes).map fun (pieces, rest) => ((bytesOfPieces? pieces).bind textOfBytes?, rest)

def afterKeyword? (keyword : String) (bytes : Bytes) : Option Bytes :=
  let spelling := textBytes keyword
  if bytes.take spelling.length == spelling then some (bytes.drop spelling.length) else none

mutual

/-- A value. `fuel` bounds the number of steps; the length of the input is enough. -/
def readValue? : Nat → Bytes → Option (Json × Bytes)
  | 0, _ => none
  | fuel + 1, bytes =>
    match skipBlanks bytes with
    | [] => none
    | byte :: rest =>
      if byte == ascii '"' then (readText? rest).map (Prod.map text id)
      else if byte == ascii '-' then (readNumber? true rest).map (Prod.map number id)
      else if (digitValue? byte).isSome then
        (readNumber? false (byte :: rest)).map (Prod.map number id)
      else if byte == ascii '[' then
        match skipBlanks rest with
        | [] => none
        | next :: after =>
          if next == ascii ']' then some (array [], after)
          else (readMembers? fuel (next :: after)).map (Prod.map array id)
      else if byte == ascii '\x7b' then
        match skipBlanks rest with
        | [] => none
        | next :: after =>
          if next == ascii '\x7d' then some (object [], after)
          else (readFields? fuel (next :: after)).map (Prod.map object id)
      else if byte == ascii 'n' then (afterKeyword? "null" (byte :: rest)).map (null, ·)
      else if byte == ascii 't' then (afterKeyword? "true" (byte :: rest)).map (truth true, ·)
      else if byte == ascii 'f' then (afterKeyword? "false" (byte :: rest)).map (truth false, ·)
      else none

/-- The members of an array, at least one, and its closing bracket. -/
def readMembers? : Nat → Bytes → Option (List Json × Bytes)
  | 0, _ => none
  | fuel + 1, bytes => do
    let (member, rest) ← readValue? fuel bytes
    match skipBlanks rest with
    | [] => none
    | byte :: rest =>
      if byte == ascii ']' then some ([member], rest)
      else if byte == ascii ',' then
        let (members, rest) ← readMembers? fuel rest
        some (member :: members, rest)
      else none

/-- The fields of an object, at least one, and its closing brace. -/
def readFields? : Nat → Bytes → Option (List (Option String × Json) × Bytes)
  | 0, _ => none
  | fuel + 1, bytes =>
    match skipBlanks bytes with
    | [] => none
    | quote :: rest =>
      if quote != ascii '"' then none
      else do
        let (name, rest) ← readText? rest
        match skipBlanks rest with
        | [] => none
        | colon :: rest =>
          if colon != ascii ':' then none
          else do
            let (value, rest) ← readValue? fuel rest
            match skipBlanks rest with
            | [] => none
            | byte :: rest =>
              if byte == ascii '\x7d' then some ([(name, value)], rest)
              else if byte == ascii ',' then
                let (fields, rest) ← readFields? fuel rest
                some ((name, value) :: fields, rest)
              else none

end

/-- A whole document: one value with nothing but white space around it. -/
def read? (bytes : Bytes) : Option Json := do
  let (value, rest) ← readValue? (2 * bytes.length + 2) bytes
  if (skipBlanks rest).isEmpty then some value else none

/-! ## Writing -/

def hexDigit (n : Nat) : Char :=
  Nat.digitChar n

/-- A character within quotes. Only quotes, backslashes and control characters are escaped. -/
def escapeChar (c : Char) : List Char :=
  if c = '"' then ['\\', '"']
  else if c = '\\' then ['\\', '\\']
  else if c.toNat = 8 then ['\\', 'b']
  else if c.toNat = 9 then ['\\', 't']
  else if c.toNat = 10 then ['\\', 'n']
  else if c.toNat = 12 then ['\\', 'f']
  else if c.toNat = 13 then ['\\', 'r']
  else if c.toNat < 0x20 then
    ['\\', 'u', '0', '0', hexDigit (c.toNat / 16), hexDigit (c.toNat % 16)]
  else [c]

def quote (content : String) : List Char :=
  '"' :: content.toList.flatMap escapeChar ++ ['"']

end Json

end HostTypes
