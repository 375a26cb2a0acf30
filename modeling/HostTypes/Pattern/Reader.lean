import HostTypes.Number.Power
import HostTypes.Pattern.Basic

/-!
Reading patterns from their written form. Escapes, bracket expressions, repetitions, groups and
flags each have a reader; all work on lists of characters and return the unread rest. Readers that
call themselves on a rest take fuel, of which the length of the text is always enough.

Left out are the properties of characters for which there are no tables (see `CharSet.property?`), and
in names of groups the vowel signs and other marks that count as alphabetic: patterns with either are
refused here, although engines that have the tables read them.
-/

namespace HostTypes

/-- Cuts a mark off the beginning of a text and says whether it is there. -/
def takeMark (mark text : List Char) : Bool × List Char :=
  if mark.isPrefixOf text then (true, text.drop mark.length) else (false, text)

/-- The flags in force at a place of a written pattern. -/
structure PatternMode where
  ignoreCase : Bool := false
  /-- Line anchors instead of text anchors. -/
  lines : Bool := false
  /-- The full stop also stands for line ends. -/
  dotAll : Bool := false
  /-- Carriage returns end lines too. -/
  returns : Bool := false
  /-- Named sets without members outside ASCII. -/
  asciiOnly : Bool := false
  /-- White space and comments are no part of the pattern. -/
  verbose : Bool := false
  deriving DecidableEq, Repr

namespace PatternMode

/-- Switches a flag on or off, if there is one with the letter. -/
def set? (mode : PatternMode) (on : Bool) : Char → Option PatternMode
  | 'i' => some { mode with ignoreCase := on }
  | 'm' => some { mode with lines := on }
  | 's' => some { mode with dotAll := on }
  | 'R' => some { mode with returns := on }
  | 'u' => some { mode with asciiOnly := !on }
  | 'x' => some { mode with verbose := on }
  -- Greed makes no difference to which texts match.
  | 'U' => some mode
  | _ => none

/-- Skips white space and comments. A comment runs from `#` to the end of the line. -/
def skipFiller : Bool → List Char → List Char
  | _, [] => []
  | true, c :: rest => skipFiller (c != '\n') rest
  | false, c :: rest =>
    if c == '#' then skipFiller true rest
    else if isBlank c then skipFiller false rest
    else c :: rest

def skip (mode : PatternMode) (text : List Char) : List Char :=
  if mode.verbose then skipFiller false text else text

/-- The next character that belongs to the pattern. -/
def next? (mode : PatternMode) (text : List Char) : Option (Char × List Char) :=
  match mode.skip text with
  | [] => none
  | c :: rest => some (c, rest)

/-- A set with case variants, where case is ignored. -/
def fold (mode : PatternMode) (set : CharSet) : CharSet :=
  if !mode.ignoreCase then set
  else if mode.asciiOnly then .inter .ascii (.folded set)
  else .folded set

/-- A set as the mode allows it. -/
def admit? (mode : PatternMode) (set : CharSet) : Option CharSet :=
  if mode.asciiOnly && !set.isAscii then none else some set

def literal (mode : PatternMode) (c : Char) : CharSet :=
  if mode.asciiOnly && 0x80 ≤ c.toNat then .single c else mode.fold (.single c)

def digits (mode : PatternMode) : CharSet :=
  if mode.asciiOnly then .asciiDigits else .categories ["Nd"]

def blanks (mode : PatternMode) : CharSet :=
  if mode.asciiOnly then .union (.range '\t' '\r') (.single ' ') else .blanks

def wordChars (mode : PatternMode) : CharSet :=
  if mode.asciiOnly then .asciiWordChars else .wordChars

def dot (mode : PatternMode) : CharSet :=
  if mode.dotAll then .everything
  else if mode.returns then .complement (.union (.single '\n') (.single '\r'))
  else .complement (.single '\n')

def startAnchor (mode : PatternMode) : Anchor :=
  if mode.lines then .lineStart mode.returns else .textStart

def endAnchor (mode : PatternMode) : Anchor :=
  if mode.lines then .lineEnd mode.returns else .textEnd

end PatternMode

namespace Pattern

/-! ## Escapes -/

inductive Atom where
  | literal (c : Char)
  | set (set : CharSet)
  | anchor (anchor : Anchor)

/-- Collects what stands before the next closing brace, without filler. -/
def readBraced (mode : PatternMode) : Nat → List Char → Option (List Char × List Char)
  | 0, _ => none
  | fuel + 1, text => do
    let (c, rest) ← mode.next? text
    if c == '\x7d' then return ([], rest)
    else
      let (inner, rest) ← readBraced mode fuel rest
      return (c :: inner, rest)

/-- Collects a given number of characters, without filler. -/
def readCounted (mode : PatternMode) : Nat → List Char → Option (List Char × List Char)
  | 0, text => some ([], text)
  | count + 1, text => do
    let (c, rest) ← mode.next? text
    let (inner, rest) ← readCounted mode count rest
    return (c :: inner, rest)

/-- Reads the digits of a code point: those in braces, or as many as `count` says. -/
def readCodeDigits (mode : PatternMode) (count : Nat) (text : List Char) :
    Option (List Char × List Char) :=
  let (braced, rest) := takeMark ['\x7b'] (mode.skip text)
  if braced then readBraced mode (rest.length + 1) rest else readCounted mode count rest

def readCode (mode : PatternMode) (count : Nat) (text : List Char) :
    Option (Char × List Char) := do
  let (digits, rest) ← readCodeDigits mode count text
  if digits.isEmpty then none
  else return (← charOfHex? digits, rest)

/-- Cuts a text at the first occurrence of a mark. -/
def cutAt? (mark : List Char) : List Char → Option (List Char × List Char)
  | [] => none
  | c :: rest =>
    if mark.isPrefixOf (c :: rest) then some ([], (c :: rest).drop mark.length)
    else (cutAt? mark rest).map fun (before, after) => (c :: before, after)

/-- The set that a property in braces denotes, and whether it is written as an inequality. -/
def braceProperty? (text : List Char) : Option (CharSet × Bool) :=
  match cutAt? ['!', '='] text with
  | some (name, value) => (CharSet.propertyWithValue? name value).map (·, true)
  | none =>
    match (cutAt? [':'] text).or (cutAt? ['='] text) with
    | some (name, value) => (CharSet.propertyWithValue? name value).map (·, false)
    | none => (CharSet.property? text).map (·, false)

def readPropertyName (mode : PatternMode) (text : List Char) :
    Option ((CharSet × Bool) × List Char) := do
  let (c, rest) ← mode.next? text
  if c == '\\' then none
  else if c == '\x7b' then
    let (name, rest) ← readBraced mode (rest.length + 1) rest
    return (← braceProperty? name, rest)
  else return ((← CharSet.property? [c], false), rest)

def readProperty (mode : PatternMode) (negated : Bool) (text : List Char) :
    Option (Atom × List Char) := do
  let ((set, unequal), rest) ← readPropertyName mode text
  -- Properties are about all characters.
  if mode.asciiOnly then none
  else return (.set (CharSet.negatedIf (negated != unequal) (mode.fold set)), rest)

def wordEdge? : String → Option WordEdge
  | "start" => some .start
  | "end" => some .stop
  | "start-half" => some .startHalf
  | "end-half" => some .stopHalf
  | _ => none

/-- Reads what may follow the escape for word boundaries: braces around the name of an edge. -/
def readWordEdge (mode : PatternMode) (text : List Char) : Option (WordEdge × List Char) :=
  match text with
  | '\x7b' :: rest =>
    if (mode.skip rest).head?.any fun c => c.isAlpha || c == '-' then do
      let (name, rest) ← readBraced mode (rest.length + 1) rest
      return (← wordEdge? (String.ofList name), rest)
    -- Other braces are a repetition.
    else some (.boundary, text)
  | _ => some (.boundary, text)

def controlEscape? : Char → Option Char
  | 'a' => some '\x07'
  | 'f' => some '\x0c'
  | 't' => some '\t'
  | 'n' => some '\n'
  | 'r' => some '\r'
  | 'v' => some '\x0b'
  | _ => none

/-- ASCII characters other than letters, digits and angle brackets stand for themselves after a
backslash. -/
def isEscapable (c : Char) : Bool :=
  c.toNat < 0x80 && !c.isAlphanum && c != '<' && c != '>'

def plainEscape? (c : Char) : Option Char :=
  if isEscapable c then some c else controlEscape? c

/-- Reads the rest of an escape, given the character after the backslash. -/
def readEscaped (mode : PatternMode) (c : Char) : List Char → Option (Atom × List Char) :=
  let named (set : CharSet) (rest : List Char) : Option (Atom × List Char) := do
    return (.set (← mode.admit? set), rest)
  let edge (edge : WordEdge) (rest : List Char) : Option (Atom × List Char) :=
    some (.anchor (.word edge mode.wordChars), rest)
  match c with
  | 'x' => fun rest => do
    let (c, rest) ← readCode mode 2 rest
    if mode.asciiOnly && 0x80 ≤ c.toNat && c.toNat < 0x100 then none
    else return (.literal c, rest)
  | 'u' => fun rest => (readCode mode 4 rest).map fun (c, rest) => (.literal c, rest)
  | 'U' => fun rest => (readCode mode 8 rest).map fun (c, rest) => (.literal c, rest)
  | 'p' => readProperty mode false
  | 'P' => readProperty mode true
  | 'd' => named mode.digits
  | 'D' => named (.complement mode.digits)
  | 's' => named mode.blanks
  | 'S' => named (.complement mode.blanks)
  | 'w' => named mode.wordChars
  | 'W' => named (.complement mode.wordChars)
  | 'A' => fun rest => some (.anchor .textStart, rest)
  | 'z' => fun rest => some (.anchor .textEnd, rest)
  | 'b' => fun rest => (readWordEdge mode rest).bind fun (found, rest) => edge found rest
  | 'B' => edge .noBoundary
  | '<' => edge .start
  | '>' => edge .stop
  | _ => fun rest => do return (.literal (← plainEscape? c), rest)

def readEscape (mode : PatternMode) : List Char → Option (Atom × List Char)
  | [] => none
  | c :: rest => readEscaped mode c rest

/-! ## Bracket expressions -/

inductive SetOperator where
  | inter
  | difference
  | symmetricDifference

def SetOperator.apply : SetOperator → CharSet → CharSet → CharSet
  | inter => .inter
  | difference => .difference
  | symmetricDifference => .symmetricDifference

def memberSet? (mode : PatternMode) : Atom → Option CharSet
  | .literal c => mode.admit? (.single c)
  | .set set => some set
  | .anchor _ => none

def readMember (mode : PatternMode) : List Char → Option (Atom × List Char)
  | [] => none
  | '\\' :: rest => readEscape mode rest
  | c :: rest => some (.literal c, rest)

/-- The set of a range. Its ends are single characters. -/
def rangeSet? (mode : PatternMode) : Atom → Atom → Option CharSet
  | .literal first, .literal last =>
    if first ≤ last then mode.admit? (.range first last) else none
  | _, _ => none

/-- A dash before another dash or the closing bracket makes no range. -/
def endsRange (c : Char) : Bool :=
  c != ']' && c != '-'

/-- Reads the dash of a range, if there is one. -/
def takeDash (mode : PatternMode) (text : List Char) : Bool × List Char :=
  match mode.skip text with
  | '-' :: rest =>
    if (mode.skip rest).head?.any endsRange then (true, mode.skip rest)
    else (false, '-' :: rest)
  | rest => (false, rest)

/-- Reads a range, or a member that is none. -/
def readRange (mode : PatternMode) (text : List Char) : Option (CharSet × List Char) := do
  let (first, rest) ← readMember mode text
  let (ranges, rest) := takeDash mode rest
  if ranges then
    let (last, rest) ← readMember mode rest
    return (← rangeSet? mode first last, rest)
  else return (← memberSet? mode first, rest)

/-- Reads a named class between colons and its closing bracket. What looks different is no such class.
-/
def readAsciiClass? (mode : PatternMode) : List Char → Option (CharSet × List Char)
  | ':' :: rest => do
    let (negated, rest) := takeMark ['^'] rest
    let (name, rest) ← cutAt? [':', ']'] rest
    return (CharSet.negatedIf negated (mode.fold (← CharSet.asciiClass? (String.ofList name))), rest)
  | _ => none

/-- Cuts off leading dashes and says whether there are any. -/
def cutDashes (mode : PatternMode) : Nat → List Char → Bool × List Char
  | 0, text => (false, text)
  | fuel + 1, text =>
    let (dash, rest) := takeMark ['-'] (mode.skip text)
    if dash then (true, (cutDashes mode fuel rest).2) else (false, rest)

/-- Reads what may stand directly after an opening bracket: a caret, which negates, then dashes,
or a closing bracket that is a member. -/
def openBracket (mode : PatternMode) (text : List Char) : (Bool × CharSet) × List Char :=
  let (negated, rest) := takeMark ['^'] (mode.skip text)
  let (dashes, rest) := cutDashes mode (rest.length + 1) rest
  if dashes then ((negated, .single '-'), rest)
  else
    let (closing, rest) := takeMark [']'] rest
    ((negated, if closing then .single ']' else .nothing), rest)

def combine (mode : PatternMode) (waiting : Option (SetOperator × CharSet)) (members : CharSet) :
    CharSet :=
  match waiting with
  | none => members
  | some (operator, left) => operator.apply (mode.fold left) (mode.fold members)

def closeBracket? (mode : PatternMode) (negated : Bool) (members : CharSet) : Option CharSet :=
  mode.admit? (CharSet.negatedIf negated (mode.fold members))

/-- What a bracket expression is made of. -/
inductive SetPiece where
  | close
  | operator (operator : SetOperator)
  | members (set : CharSet)
  /-- The start of a bracket expression in this one: whether it is negated, and its first members. -/
  | bracket (negated : Bool) (start : CharSet)

def readSetPiece (mode : PatternMode) : List Char → Option (SetPiece × List Char)
  | [] => none
  | ']' :: rest => some (.close, rest)
  | '&' :: '&' :: rest => some (.operator .inter, rest)
  | '-' :: '-' :: rest => some (.operator .difference, rest)
  | '~' :: '~' :: rest => some (.operator .symmetricDifference, rest)
  | '[' :: rest =>
    match readAsciiClass? mode rest with
    | some (set, rest) => (mode.admit? set).map fun set => (.members set, rest)
    | none =>
      let ((negated, start), rest) := openBracket mode rest
      some (.bracket negated start, rest)
  | text => (readRange mode text).map fun (set, rest) => (.members set, rest)

/-- Goes on after a piece, given how the rest of a bracket expression is read. -/
def afterSetPiece
    (read : Option (SetOperator × CharSet) → CharSet → List Char → Option (CharSet × List Char))
    (mode : PatternMode) (waiting : Option (SetOperator × CharSet)) (members : CharSet) :
    SetPiece → List Char → Option (CharSet × List Char)
  | .close, rest => some (combine mode waiting members, rest)
  | .operator operator, rest => read (some (operator, combine mode waiting members)) .nothing rest
  | .members set, rest => read waiting (members.union set) rest
  | .bracket negated start, rest => do
    let (set, rest) ← read none start rest
    read waiting (members.union (← closeBracket? mode negated set)) rest

/-- Reads a bracket expression up to its closing bracket, given the members read so far. -/
def readMembers (mode : PatternMode) :
    Nat → Option (SetOperator × CharSet) → CharSet → List Char → Option (CharSet × List Char)
  | 0, _, _, _ => none
  | fuel + 1, waiting, members, text => do
    let (piece, rest) ← readSetPiece mode (mode.skip text)
    afterSetPiece (readMembers mode fuel) mode waiting members piece rest

def readBracket (mode : PatternMode) (text : List Char) : Option (CharSet × List Char) := do
  let ((negated, start), rest) := openBracket mode text
  let (members, rest) ← readMembers mode (rest.length + 1) none start rest
  return (← closeBracket? mode negated members, rest)

/-! ## Repetitions -/

def readCount? (text : List Char) : Option Nat := do
  let digits := trimBlanks text
  if digits.isEmpty then none
  else
    let count ← asciiNumber? digits
    if count < twoTo 32 then some count else none

/-- The bounds that stand in the braces of a repetition: one number, two, or one and a comma. -/
def countBounds? (text : List Char) : Option (Nat × Option Nat) :=
  match cutAt? [','] text with
  | none => (readCount? text).map fun count => (count, some count)
  | some (least, []) => (readCount? least).map (·, none)
  | some (least, most) => do
    let least ← readCount? least
    let most ← readCount? most
    if least ≤ most then some (least, some most) else none

/-- Drops the mark of reluctance, which makes no difference to which texts match. -/
def dropReluctance (text : List Char) : List Char :=
  (takeMark ['?'] text).2

/-- Reads the rest of a counted repetition after its brace. -/
def readBounds (mode : PatternMode) (text : List Char) :
    Option ((Nat × Option Nat) × List Char) := do
  let (inner, rest) ← readBraced mode (text.length + 1) text
  return (← countBounds? inner, dropReluctance (mode.skip rest))

/-! ## Groups -/

/-- Flags of a group: the mode they lead to, whether there are any, and the character that ends
them. -/
structure FlagList where
  mode : PatternMode
  isEmpty : Bool
  last : Char

/-- Reads flags up to the colon or parenthesis after them. No flag may stand there twice, and
something has to follow a minus. -/
def readFlags (mode : PatternMode) (seen : List Char) : List Char → Option (FlagList × List Char)
  | [] => none
  | c :: rest =>
    if c == ':' || c == ')' then
      if seen.head? = some '-' then none else some (⟨mode, seen.isEmpty, c⟩, rest)
    else if seen.contains c then none
    else if c == '-' then readFlags mode (c :: seen) rest
    else do
      let mode ← mode.set? (!seen.contains '-') c
      readFlags mode (c :: seen) rest

/-- Characters of names of groups: letters, numbers and some signs. Of the characters that are
alphabetic without being letters by category, those in circles and squares are known here, the marks
are not. -/
def isNameChar (atStart : Bool) (c : Char) : Bool :=
  let category := generalCategory c
  c == '_' || ["Lu", "Ll", "Lt", "Lm", "Lo", "Nl"].contains category || isEnclosedLetter c ||
    (!atStart && (c == '.' || c == '[' || c == ']' || category == "Nd" || category == "No"))

def isGroupName : List Char → Bool
  | first :: more => isNameChar true first && more.all (isNameChar false)
  | [] => false

/-- Reads the name of a group. No two groups have the same name. -/
def readGroupName (taken : List String) (text : List Char) : Option (List String × List Char) := do
  let (name, rest) ← cutAt? ['>'] text
  if isGroupName name && !taken.contains (String.ofList name) then
    return (String.ofList name :: taken, rest)
  else none

/-- What a group is made of, besides its end. -/
inductive Piece where
  | part (pattern : Pattern)
  /-- The bar between two alternatives. -/
  | bar
  /-- How often the part before it is repeated. -/
  | repetition (bounds : Nat × Option Nat)
  /-- Flags for the rest of the enclosing group. -/
  | flags (mode : PatternMode)
  /-- The head of a group, with its mode and the names that are taken from then on. -/
  | group (mode : PatternMode) (names : List String)

/-- Cuts off the mark of a name, of which there are two forms. -/
def takeNameMark (text : List Char) : Bool × List Char :=
  let (long, rest) := takeMark ['P', '<'] text
  if long then (true, rest) else takeMark ['<'] rest

/-- Reads what stands between the opening parenthesis of a group and its body: a name or flags. -/
def readGroupHead (mode : PatternMode) (names : List String) (text : List Char) :
    Option (Piece × List Char) := do
  let (special, rest) := takeMark ['?'] (mode.skip text)
  if !special then return (.group mode names, rest)
  else
    let (named, rest) := takeNameMark rest
    if named then
      let (names, rest) ← readGroupName names rest
      return (.group mode names, rest)
    else
      let (flags, rest) ← readFlags mode [] rest
      if flags.last == ':' then return (.group flags.mode names, rest)
      else if flags.isEmpty then none
      else return (.flags flags.mode, rest)

/-! ## Pieces -/

def ofAtom (mode : PatternMode) : Atom → Pattern
  | .literal c => .char (mode.literal c)
  | .set set => .char set
  | .anchor condition => .anchor condition

/-- Reads the rest of a piece, given its first character. -/
def readPiece (mode : PatternMode) (names : List String) (first : Char) :
    List Char → Option (Piece × List Char) :=
  let times (least : Nat) (most : Option Nat) (rest : List Char) : Option (Piece × List Char) :=
    some (.repetition (least, most), dropReluctance rest)
  match first with
  | '|' => fun rest => some (.bar, rest)
  | '(' => readGroupHead mode names
  | '?' => times 0 (some 1)
  | '*' => times 0 none
  | '+' => times 1 none
  | '\x7b' => fun rest => (readBounds mode rest).map fun (bounds, rest) => (.repetition bounds, rest)
  | '[' => fun rest => (readBracket mode rest).map fun (set, rest) => (.part (.char set), rest)
  | '\\' => fun rest =>
    (readEscape mode rest).map fun (atom, rest) => (.part (ofAtom mode atom), rest)
  | '.' => fun rest => do return (.part (.char (← mode.admit? mode.dot)), rest)
  | '^' => fun rest => some (.part (.anchor mode.startAnchor), rest)
  | '$' => fun rest => some (.part (.anchor mode.endAnchor), rest)
  | c => fun rest => some (.part (.char (mode.literal c)), rest)

/-! ## Whole patterns -/

/-- What has been read of a group: the finished alternatives and the parts of the current one, the
latest first. Flags are a part that cannot be repeated. -/
structure Progress where
  alternatives : List Pattern := []
  parts : List (Option Pattern) := []

namespace Progress

def push (progress : Progress) (part : Pattern) : Progress :=
  { progress with parts := some part :: progress.parts }

def pushFlags (progress : Progress) : Progress :=
  { progress with parts := none :: progress.parts }

def current (progress : Progress) : Pattern :=
  sequence (progress.parts.reverse.filterMap id)

def divide (progress : Progress) : Progress where
  alternatives := progress.current :: progress.alternatives

def repeat? (progress : Progress) (bounds : Nat × Option Nat) : Option Progress :=
  match progress.parts with
  | some part :: parts =>
    some { progress with parts := some (.repeated bounds.1 bounds.2 part) :: parts }
  | _ => none

def finish (progress : Progress) : Pattern :=
  choice (progress.current :: progress.alternatives).reverse

end Progress

/-- Goes on after a piece, given how the rest of a group is read. -/
def afterPiece
    (read : Bool → PatternMode → List String → Progress → List Char →
      Option (Pattern × List String × List Char))
    (grouped : Bool) (mode : PatternMode) (names : List String) (progress : Progress) :
    Piece → List Char → Option (Pattern × List String × List Char)
  | .part part, rest => read grouped mode names (progress.push part) rest
  | .bar, rest => read grouped mode names progress.divide rest
  | .repetition bounds, rest => do read grouped mode names (← progress.repeat? bounds) rest
  | .flags inner, rest => read grouped inner names progress.pushFlags rest
  | .group inner names, rest => do
    let (part, names, rest) ← read true inner names {} rest
    read grouped mode names (progress.push part) rest

/-- Reads the rest of a group, or of the whole pattern, given what has been read of it. A group ends
with its closing parenthesis and the whole pattern with the text. -/
def readBody :
    Nat → Bool → PatternMode → List String → Progress → List Char →
      Option (Pattern × List String × List Char)
  | 0, _, _, _, _, _ => none
  | fuel + 1, grouped, mode, names, progress, text =>
    match mode.skip text with
    | [] => if grouped then none else some (progress.finish, names, [])
    | ')' :: rest => if grouped then some (progress.finish, names, rest) else none
    | c :: rest => do
      let (piece, rest) ← readPiece mode names c rest
      afterPiece (readBody fuel) grouped mode names progress piece rest

def read? (text : List Char) : Option Pattern :=
  (readBody (text.length + 1) false {} [] {} text).map Prod.fst

end Pattern

end HostTypes
