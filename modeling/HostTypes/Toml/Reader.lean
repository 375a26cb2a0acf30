import HostTypes.Number.Power
import HostTypes.Text.Digit
import HostTypes.Toml.Basic

/-!
Reading TOML documents. Each reader takes what it reads from the front of the text and gives the
rest. A document is read line by line: a header opens a table, and a line with a key adds a value
to the open table.
-/

namespace HostTypes

namespace Toml

/-- Values and dotted keys nest less deep than this. -/
def nestingLimit : Nat := 80

def isSpace (c : Char) : Bool :=
  c == ' ' || c == '\t'

def skipSpaces (input : List Char) : List Char :=
  input.dropWhile isSpace

/-- Characters that may stand in comments and in literal texts. -/
def isPlain (c : Char) : Bool :=
  c == '\t' || (0x20 ≤ c.toNat && c.toNat ≠ 0x7F)

/-- The rest of the text after a line break, which is a line feed with or without a carriage return
before it. -/
def afterBreak? : List Char → Option (List Char)
  | '\n' :: rest => some rest
  | '\r' :: '\n' :: rest => some rest
  | _ => none

def skipComment : List Char → List Char
  | '#' :: rest => rest.dropWhile isPlain
  | input => input

/-- The rest of the text after the current line, which must be empty up to a comment. -/
def endLine? (input : List Char) : Option (List Char) :=
  match skipComment (skipSpaces input) with
  | [] => some []
  | rest => afterBreak? rest

/-- Skips spaces, line breaks and comments, each comment with its line break. -/
def skipLines? (inComment : Bool) : List Char → Option (List Char)
  | [] => if inComment then none else some []
  | c :: rest =>
    if c = '\n' then skipLines? false rest
    else if c = '\r' then if rest.head? = some '\n' then skipLines? inComment rest else none
    else if inComment then if isPlain c then skipLines? true rest else none
    else if c = '#' then skipLines? true rest
    else if isSpace c then skipLines? false rest
    else some (c :: rest)

/-! ## Texts -/

def escape? : Char → Option Char
  | 'b' => some '\x08'
  | 't' => some '\t'
  | 'n' => some '\n'
  | 'f' => some '\x0c'
  | 'r' => some '\r'
  | '"' => some '"'
  | '\\' => some '\\'
  | _ => none

def consRead (c : Char) (read : Option (List Char × List Char)) : Option (List Char × List Char) :=
  read.map fun (content, rest) => (c :: content, rest)

def readBasic? : List Char → Option (List Char × List Char)
  | [] => none
  | '"' :: rest => some ([], rest)
  | '\\' :: 'u' :: a :: b :: c :: d :: rest => do
    consRead (← charOfHex? [a, b, c, d]) (readBasic? rest)
  | '\\' :: 'U' :: a :: b :: c :: d :: e :: f :: g :: h :: rest => do
    consRead (← charOfHex? [a, b, c, d, e, f, g, h]) (readBasic? rest)
  | '\\' :: c :: rest => do consRead (← escape? c) (readBasic? rest)
  | c :: rest => if isPlain c then consRead c (readBasic? rest) else none

def readLiteral? : List Char → Option (List Char × List Char)
  | [] => none
  | '\'' :: rest => some ([], rest)
  | c :: rest => if isPlain c then consRead c (readLiteral? rest) else none

/-- Where a reader of a long text stands with respect to a backslash at the end of a line. -/
inductive LineFold where
  /-- Not after such a backslash. -/
  | none
  /-- On the line of the backslash. -/
  | open
  /-- On a later line, before the text goes on. -/
  | skipping
  deriving DecidableEq, Repr

/-- A text in three double quotes, after the opening ones. Up to two quotes may stand before the
closing three, and a backslash at the end of a line removes all white space up to the text that
follows. -/
def readLongBasic? (fold : LineFold) : List Char → Option (List Char × List Char)
  | [] => none
  | '\r' :: '\n' :: rest =>
    match fold with
    | .none => consRead '\n' (readLongBasic? .none rest)
    | _ => readLongBasic? .skipping rest
  | '\n' :: rest =>
    match fold with
    | .none => consRead '\n' (readLongBasic? .none rest)
    | _ => readLongBasic? .skipping rest
  | c :: rest =>
    if fold ≠ .none && isSpace c then readLongBasic? fold rest
    else if fold = .open then none
    else
      match c, rest with
      | '"', '"' :: '"' :: '"' :: '"' :: rest => some (['"', '"'], rest)
      | '"', '"' :: '"' :: '"' :: rest => some (['"'], rest)
      | '"', '"' :: '"' :: rest => some ([], rest)
      | '"', rest => consRead '"' (readLongBasic? .none rest)
      | '\\', 'u' :: a :: b :: c :: d :: rest => do
        consRead (← charOfHex? [a, b, c, d]) (readLongBasic? .none rest)
      | '\\', 'U' :: a :: b :: c :: d :: e :: f :: g :: h :: rest => do
        consRead (← charOfHex? [a, b, c, d, e, f, g, h]) (readLongBasic? .none rest)
      | '\\', c :: rest =>
        match escape? c with
        | some escaped => consRead escaped (readLongBasic? .none rest)
        | none =>
          if isSpace c || c == '\n' || c == '\r' then readLongBasic? .open (c :: rest) else none
      | c, rest => if isPlain c then consRead c (readLongBasic? .none rest) else none

/-- A text in three single quotes, after the opening ones. Up to two quotes may stand before the
closing three. -/
def readLongLiteral? : List Char → Option (List Char × List Char)
  | [] => none
  | '\'' :: '\'' :: '\'' :: '\'' :: '\'' :: rest => some (['\'', '\''], rest)
  | '\'' :: '\'' :: '\'' :: '\'' :: rest => some (['\''], rest)
  | '\'' :: '\'' :: '\'' :: rest => some ([], rest)
  | '\r' :: '\n' :: rest => consRead '\n' (readLongLiteral? rest)
  | '\n' :: rest => consRead '\n' (readLongLiteral? rest)
  | c :: rest => if isPlain c then consRead c (readLongLiteral? rest) else none

/-- A line break right after the opening quotes of a long text is not part of it. -/
def skipBreak (input : List Char) : List Char :=
  (afterBreak? input).getD input

def readText? : List Char → Option (List Char × List Char)
  | '"' :: '"' :: '"' :: rest => readLongBasic? .none (skipBreak rest)
  | '"' :: rest => readBasic? rest
  | '\'' :: '\'' :: '\'' :: rest => readLongLiteral? (skipBreak rest)
  | '\'' :: rest => readLiteral? rest
  | _ => none

/-! ## Keys -/

def isBareKeyChar (c : Char) : Bool :=
  c.isAlphanum || c == '-' || c == '_'

/-- One part of a key: bare, or a text on one line. -/
def readKey? : List Char → Option (String × List Char)
  | '"' :: rest => (readBasic? rest).map (Prod.map String.ofList id)
  | '\'' :: rest => (readLiteral? rest).map (Prod.map String.ofList id)
  | input =>
    let key := input.takeWhile isBareKeyChar
    if key.isEmpty then none else some (String.ofList key, input.dropWhile isBareKeyChar)

/-- The parts of a dotted key. `fuel` bounds their number. -/
def readKeyParts? : Nat → List Char → Option (List String × List Char)
  | 0, _ => none
  | fuel + 1, input => do
    let (key, rest) ← readKey? (skipSpaces input)
    match skipSpaces rest with
    | '.' :: rest =>
      let (keys, rest) ← readKeyParts? fuel rest
      return (key :: keys, rest)
    | rest => return ([key], rest)

def readPath? (input : List Char) : Option (List String × List Char) :=
  readKeyParts? (nestingLimit - 1) input

/-! ## Numbers, dates and times -/

/-- Digits with single underscores between them, after their first. -/
def readMoreDigits? (isDigit : Char → Bool) : List Char → Option (List Char × List Char)
  | [] => some ([], [])
  | '_' :: c :: rest => if isDigit c then consRead c (readMoreDigits? isDigit rest) else none
  | '_' :: [] => none
  | c :: rest =>
    if isDigit c then consRead c (readMoreDigits? isDigit rest) else some ([], c :: rest)

/-- Digits with single underscores between them. -/
def readDigits? (isDigit : Char → Bool) : List Char → Option (List Char × List Char)
  | c :: rest => if isDigit c then consRead c (readMoreDigits? isDigit rest) else none
  | [] => none

/-- A sign, true for minus. No sign is a plus. -/
def readSign : List Char → Bool × List Char
  | '-' :: rest => (true, rest)
  | '+' :: rest => (false, rest)
  | input => (false, input)

/-- Decimal digits, of which the first is zero only if it is alone. -/
def readDecimal? : List Char → Option (List Char × List Char)
  | '0' :: rest => some (['0'], rest)
  | input => readDigits? Char.isDigit input

def ofDigits (base : Nat) (digits : List Char) : Nat :=
  digits.foldl (fun total c => base * total + (hexDigit? c).getD 0) 0

def integer? (value : Int) : Option Toml :=
  if -twoTo 63 ≤ value && value < twoTo 63 then some (integer value) else none

/-- An integer without sign in a base other than ten. -/
def readBased? (base : Nat) (isDigit : Char → Bool) (input : List Char) :
    Option (Toml × List Char) := do
  let (digits, rest) ← readDigits? isDigit input
  return (← integer? (ofDigits base digits), rest)

def readInteger? : List Char → Option (Toml × List Char)
  | '0' :: 'x' :: rest => readBased? 16 (fun c => (hexDigit? c).isSome) rest
  | '0' :: 'o' :: rest => readBased? 8 (fun c => '0' ≤ c && c ≤ '7') rest
  | '0' :: 'b' :: rest => readBased? 2 (fun c => c == '0' || c == '1') rest
  | input => do
    let (negative, rest) := readSign input
    let (digits, rest) ← readDecimal? rest
    let magnitude : Int := ofDigits 10 digits
    return (← integer? (if negative then -magnitude else magnitude), rest)

def readExponent? : List Char → Option (Int × List Char)
  | c :: rest =>
    if c == 'e' || c == 'E' then do
      let (negative, rest) := readSign rest
      let (digits, rest) ← readDigits? Char.isDigit rest
      let magnitude : Int := ofDigits 10 digits
      return (if negative then -magnitude else magnitude, rest)
    else some (0, c :: rest)
  | [] => some (0, [])

/-- Whether `digits * 10 ^ exponent` is below the least number that a double rounds to infinity. -/
def fitsDouble (digits : Nat) (exponent : Int) : Bool :=
  if digits = 0 then true
  else if 400 < exponent then false
  else if exponent < 0 then
    let lead := (Nat.toDigits 10 digits).length
    if (lead : Int) + exponent < 300 then true
    else decide (digits < (twoTo 54 - 1) * twoTo 970 * tenTo (-exponent).toNat)
  else decide (digits * tenTo exponent.toNat < (twoTo 54 - 1) * twoTo 970)

/-- A number with a fraction, an exponent or both. -/
def readDecimalFloat? (input : List Char) : Option (Toml × List Char) := do
  let (negative, rest) := readSign input
  let (whole, rest) ← readDecimal? rest
  let (fraction, rest, pointed) ←
    match rest with
    | '.' :: rest => (readDigits? Char.isDigit rest).map fun (digits, rest) => (digits, rest, true)
    | rest => some ([], rest, false)
  let written := rest.head? == some 'e' || rest.head? == some 'E'
  let (exponent, rest) ← readExponent? rest
  let digits := ofDigits 10 (whole ++ fraction)
  if !pointed && !written then none
  -- With a minus sign, a number may be as large as it likes.
  else if !negative && !fitsDouble digits (exponent - fraction.length) then none
  else return (float, rest)

def readFloat? (input : List Char) : Option (Toml × List Char) :=
  match (readSign input).2 with
  | 'i' :: 'n' :: 'f' :: rest => some (float, rest)
  | 'n' :: 'a' :: 'n' :: rest => some (float, rest)
  | _ => readDecimalFloat? input

def readPair? (least greatest : Nat) : List Char → Option (Nat × List Char)
  | a :: b :: rest =>
    if a.isDigit && b.isDigit then
      let n := ofDigits 10 [a, b]
      if least ≤ n && n ≤ greatest then some (n, rest) else none
    else none
  | _ => none

def afterChar? (expected : Char) : List Char → Option (List Char)
  | c :: rest => if c = expected then some rest else none
  | [] => none

def daysIn (year month : Nat) : Nat :=
  if month = 2 then
    if year % 4 = 0 && (year % 100 ≠ 0 || year % 400 = 0) then 29 else 28
  else if month = 4 || month = 6 || month = 9 || month = 11 then 30
  else 31

def afterDate? : List Char → Option (List Char)
  | a :: b :: c :: d :: rest => do
    if [a, b, c, d].all Char.isDigit then
      let rest ← afterChar? '-' rest
      let (month, rest) ← readPair? 1 12 rest
      let rest ← afterChar? '-' rest
      let (_, rest) ← readPair? 1 (daysIn (ofDigits 10 [a, b, c, d]) month) rest
      return rest
    else none
  | _ => none

def afterTime? (input : List Char) : Option (List Char) := do
  let (_, rest) ← readPair? 0 23 input
  let rest ← afterChar? ':' rest
  let (_, rest) ← readPair? 0 59 rest
  let rest ← afterChar? ':' rest
  let (_, rest) ← readPair? 0 60 rest
  match rest with
  | '.' :: c :: more => if c.isDigit then return more.dropWhile Char.isDigit else return rest
  | rest => return rest

/-- The rest of the text after the distance from universal time. -/
def afterOffset? : List Char → Option (List Char)
  | sign :: rest =>
    if sign == 'Z' || sign == 'z' then some rest
    else if sign == '+' || sign == '-' then do
      let (_, rest) ← readPair? 0 23 rest
      let rest ← afterChar? ':' rest
      let (_, rest) ← readPair? 0 59 rest
      return rest
    else none
  | [] => none

/-- A date, a date with a time, or a time. -/
def readMoment? (input : List Char) : Option (Toml × List Char) :=
  match afterDate? input with
  | none => (afterTime? input).map (moment, ·)
  | some rest =>
    match rest with
    | separator :: more =>
      if separator == 'T' || separator == 't' || separator == ' ' then
        match afterTime? more with
        | some late => some (moment, (afterOffset? late).getD late)
        | none => some (moment, rest)
      else some (moment, rest)
    | [] => some (moment, [])

def readNumeric? (input : List Char) : Option (Toml × List Char) :=
  (readMoment? input).orElse fun _ => (readFloat? input).orElse fun _ => readInteger? input

/-! ## Values -/

mutual

/-- A value. `depth` is how deep values may still nest, `fuel` bounds the number of steps. -/
def readValue? : Nat → Nat → List Char → Option (Toml × List Char)
  | 0, _, _ => none
  | _ + 1, _, [] => none
  | fuel + 1, depth, c :: rest =>
    if c == '"' || c == '\'' then
      (readText? (c :: rest)).map (Prod.map (fun content => text (String.ofList content)) id)
    else if c == '[' then
      if depth = 0 then none else (readMembers? fuel (depth - 1) rest).map (Prod.map array id)
    else if c == '\x7b' then
      if depth = 0 then none
      else
        match skipSpaces rest with
        | [] => none
        | next :: after =>
          if next == '\x7d' then some (table .inline [], after)
          else (readPairs? fuel (depth - 1) [] (next :: after)).map (Prod.map (table .inline) id)
    else
      match c, rest with
      | 't', 'r' :: 'u' :: 'e' :: rest => some (truth true, rest)
      | 'f', 'a' :: 'l' :: 's' :: 'e' :: rest => some (truth false, rest)
      | _, _ => readNumeric? (c :: rest)

/-- The members of an array and its closing bracket. Members may stand on several lines, and a comma
may follow the last. -/
def readMembers? : Nat → Nat → List Char → Option (List Toml × List Char)
  | 0, _, _ => none
  | fuel + 1, depth, input => do
    match ← skipLines? false input with
    | ']' :: rest => return ([], rest)
    | start =>
      let (member, rest) ← readValue? fuel depth start
      match ← skipLines? false rest with
      | ']' :: rest => return ([member], rest)
      | ',' :: rest =>
        let (members, rest) ← readMembers? fuel depth rest
        return (member :: members, rest)
      | _ => none

/-- The fields of an inline table, at least one, and its closing brace, all on one line. -/
def readPairs? : Nat → Nat → Fields → List Char → Option (Fields × List Char)
  | 0, _, _, _ => none
  | fuel + 1, depth, fields, input => do
    let (path, rest) ← readPath? input
    let rest ← afterChar? '=' rest
    let (value, rest) ← readValue? fuel depth (skipSpaces rest)
    let fields ← insert? value path fields
    match skipSpaces rest with
    | [] => none
    | c :: rest =>
      if c == '\x7d' then return (fields, rest)
      else if c == ',' then readPairs? fuel depth fields rest
      else none

end

/-! ## Documents -/

/-- A document that has been read up to the end of some line. -/
structure OpenDocument where
  fields : Fields
  path : List String

def readHeader? (closing : List Char) (input : List Char) : Option (List String × List Char) := do
  let (path, rest) ← readPath? input
  if rest.take closing.length = closing then
    return (path, ← endLine? (rest.drop closing.length))
  else none

def splitLast? (path : List String) : Option (List String × String) :=
  path.getLast?.map (path.dropLast, ·)

def openAt? (openLast : String → Fields → Option Fields) (document : OpenDocument)
    (path : List String) : Option OpenDocument := do
  let (parents, name) ← splitLast? path
  return ⟨← changeAt? (openLast name) parents document.fields, path⟩

def readLines? : Nat → OpenDocument → List Char → Option Fields
  | 0, _, _ => none
  | fuel + 1, document, input =>
    match skipSpaces input with
    | [] => some document.fields
    | '#' :: rest => (endLine? ('#' :: rest)).bind (readLines? fuel document)
    | '\n' :: rest => readLines? fuel document rest
    | '\r' :: rest => (afterBreak? ('\r' :: rest)).bind (readLines? fuel document)
    | '[' :: '[' :: rest => do
      let (path, rest) ← readHeader? [']', ']'] rest
      readLines? fuel (← openAt? openMember? document path) rest
    | '[' :: rest => do
      let (path, rest) ← readHeader? [']'] rest
      readLines? fuel (← openAt? openTable? document path) rest
    | line => do
      let (path, rest) ← readPath? line
      let rest ← afterChar? '=' rest
      let (value, rest) ← readValue? line.length (nestingLimit - 1) (skipSpaces rest)
      let rest ← endLine? rest
      let fields ← changeAt? (insert? value path) document.path document.fields
      readLines? fuel ⟨fields, document.path⟩ rest

/-- Reads a whole document. A byte order mark in front is skipped. -/
def read? (input : List Char) : Option Fields :=
  let input :=
    match input with
    | '\ufeff' :: rest => rest
    | _ => input
  readLines? (input.length + 1) ⟨[], []⟩ input

end Toml

end HostTypes
