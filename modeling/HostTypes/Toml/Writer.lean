import HostTypes.Toml.Basic

/-!
Writing TOML: texts in the notation that suits them, keys with values, and sections.
-/

namespace HostTypes

namespace Toml

/-- Control characters other than tab and line feed. -/
def isControl (c : Char) : Bool :=
  (c.toNat < 0x20 && c != '\t' && c != '\n') || c.toNat = 0x7F

/-- The length of the longest run of a character. `current` is the length of the run so far. -/
def longestRun (wanted : Char) (current : Nat) : List Char → Nat
  | [] => current
  | c :: rest =>
    if c = wanted then longestRun wanted (current + 1) rest
    else max current (longestRun wanted 0 rest)

/-- The four notations of a text. -/
inductive TextNotation where
  | basic
  | literal
  | longBasic
  | longLiteral
  deriving DecidableEq, Repr

/-- The notation that a text is written in: the first of the four that needs no escapes except for
tabs, or else the shortest in which everything can be escaped. -/
def textNotation (content : List Char) : TextNotation :=
  let controls := content.any isControl
  let escapes := content.contains '\\'
  let lines := content.contains '\n'
  if !controls && !escapes && !content.contains '"' && !lines then .basic
  else if !controls && !content.contains '\'' && !lines then .literal
  else if !controls && !escapes && longestRun '"' 0 content ≤ 2 then .longBasic
  else if !controls && longestRun '\'' 0 content ≤ 2 then .longLiteral
  else if lines then .longBasic
  else .basic

/-- A hexadecimal digit in upper case. -/
def hexDigit (n : Nat) : Char :=
  (Nat.digitChar n).toUpper

def hexEscape (c : Char) : List Char :=
  ['\\', 'u', '0', '0', hexDigit (c.toNat / 16), hexDigit (c.toNat % 16)]

/-- A character other than a quote in a basic text. -/
def escapeChar (long : Bool) (c : Char) : List Char :=
  if c = '\\' then ['\\', '\\']
  else if c.toNat = 8 then ['\\', 'b']
  else if c = '\t' then ['\\', 't']
  else if c = '\n' then if long then ['\n'] else ['\\', 'n']
  else if c.toNat = 12 then ['\\', 'f']
  else if c = '\r' then ['\\', 'r']
  else if isControl c then hexEscape c
  else [c]

/-- The inside of a basic text. In the long notation two quotes in a row may stand unescaped;
`quotes` is how many have just been written so. -/
def escapeText (long : Bool) (quotes : Nat) : List Char → List Char
  | [] => []
  | c :: rest =>
    if c = '"' then
      if long && quotes < 2 then '"' :: escapeText long (quotes + 1) rest
      else '\\' :: '"' :: escapeText long 0 rest
    else escapeChar long c ++ escapeText long 0 rest

/-- A text with its quotes. A long text that has line breaks starts on a line of its own. -/
def writeText (content : List Char) : List Char :=
  let start := if content.contains '\n' then ['\n'] else []
  match textNotation content with
  | .basic => ['"'] ++ escapeText false 0 content ++ ['"']
  | .literal => ['\''] ++ content ++ ['\'']
  | .longBasic => ['"', '"', '"'] ++ start ++ escapeText true 0 content ++ ['"', '"', '"']
  | .longLiteral => ['\'', '\'', '\''] ++ start ++ content ++ ['\'', '\'', '\'']

def writeTruth (value : Bool) : List Char :=
  (if value then "true" else "false").toList

def writeField (key : String) (value : List Char) : List Char :=
  key.toList ++ [' ', '=', ' '] ++ value ++ ['\n']

def writeSection (name : String) (fields : List (List Char)) : List Char :=
  '[' :: name.toList ++ [']', '\n'] ++ fields.flatten

end Toml

end HostTypes
