import HostTypes.Catalog.Lookup

/-!
Writing values: for messages, for debugging, and inside variable names.
-/

namespace HostTypes

inductive DisplayMode where
  | message
  /-- The code name and the debugging form in brackets. -/
  | debug
  | variableName
  deriving DecidableEq, Repr

namespace DisplayMode

def named? : String → Option DisplayMode
  | "message" => some message
  | "debug" => some debug
  | "variable" => some variableName
  | _ => none

end DisplayMode

/-- Joins texts to a list in a sentence: the last after a conjunction, the others with commas. -/
def sentenceList (conjunction : String) : List String → String
  | [] => ""
  | [only] => only
  | texts => commaList texts.dropLast ++ " " ++ conjunction ++ " " ++ texts.getLastD ""

/-- The form of a value that no entry accepts, from the name of its type. -/
def unregisteredText (typeName : String) : DisplayMode → String
  | .variableName => "object:" ++ typeName
  | .message | .debug => typeName

namespace TypeEntry

/-- Writes a value by the entry's parser. Without one all values look alike. -/
def displayValue (entry : TypeEntry) (value : Value) (mode : DisplayMode) (flags : DisplayFlags) :
    String :=
  match entry.parser with
  | none => entry.displayName
  | some parser =>
    match mode with
    | .message => parser.display value flags
    | .debug => "[" ++ entry.codeName ++ ":" ++ parser.debug value ++ "]"
    | .variableName => parser.variableName value

end TypeEntry

namespace Catalog

variable (catalog : Catalog)

def displayValue (value : Value) (mode : DisplayMode) (flags : DisplayFlags) : Query String := do
  match ← catalog.printing? value.type with
  | none => return unregisteredText (catalog.hierarchy.name value.type) mode
  | some entry => return entry.displayValue value mode flags

def messageText (value : Value) : Query String :=
  catalog.displayValue value .message .none

def displayEach (mode : DisplayMode) : List Value → Query (List String)
  | [] => return []
  | value :: rest => do
    let text ← catalog.displayValue value mode .none
    let texts ← displayEach mode rest
    return text :: texts

/-- Writes several values as a list in a sentence. No value has a text of its own. -/
def displayList (values : List Value) (conjunction : String) (mode : DisplayMode) :
    Query String := do
  let texts ← catalog.displayEach mode values
  return if texts.isEmpty then catalog.display.noneText else sentenceList conjunction texts

def displayExtracted (mode : DisplayMode) : Extracted → Query String
  | .one value => catalog.displayValue value mode .none
  | .many values => do return "[" ++ commaList (← catalog.displayEach mode values) ++ "]"

end Catalog

end HostTypes
