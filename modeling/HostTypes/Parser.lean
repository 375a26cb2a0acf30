import HostTypes.Value

/-!
Parsers of host types: reading a value from text, in the contexts where that makes sense, and the
three ways of writing a value. `Parser.ofFunctions` builds a parser from the parts that a host
provides.
-/

namespace HostTypes

/-- Where the text to be read comes from. -/
inductive ParseContext where
  | default
  | event
  | command
  | config
  | script
  deriving DecidableEq, Repr

namespace ParseContext

def name : ParseContext → String
  | default => "default"
  | event => "event"
  | command => "command"
  | config => "config"
  | script => "script"

def named? (name : String) : Option ParseContext :=
  [default, event, command, config, script].find? fun context => context.name == name

end ParseContext

/-- Why a parser reads no value: the text means nothing to it, or it looks right but is invalid.
Only the latter is reported. -/
inductive ParseFailure where
  | noMatch
  | invalid (reason : String)
  deriving DecidableEq, Repr

/-- A set of hints on how to write a value. -/
structure DisplayFlags where
  bits : UInt8
  deriving DecidableEq, Repr

namespace DisplayFlags

def none : DisplayFlags := ⟨0⟩
def noArticle : DisplayFlags := ⟨1⟩
def plural : DisplayFlags := ⟨2⟩

instance : Inhabited DisplayFlags := ⟨none⟩

def contains (flags other : DisplayFlags) : Bool :=
  flags.bits &&& other.bits == other.bits

def union (flags other : DisplayFlags) : DisplayFlags :=
  ⟨flags.bits ||| other.bits⟩

end DisplayFlags

/-- Reading and writing the values of a type. -/
structure Parser where
  parse : String → ParseContext → Except ParseFailure Value
  canParse : ParseContext → Bool
  display : Value → DisplayFlags → String
  /-- The form used inside variable names. -/
  variableName : Value → String
  debug : Value → String

namespace Parser

/-- A parser from a function that reads, one that writes, and optionally other ways of writing for
variable names and for debugging and a list of the only contexts in which to read. -/
def ofFunctions (parse : Option (String → ParseContext → Except ParseFailure Value))
    (display : Value → String) (variableName debug : Option (Value → String))
    (contexts : Option (List ParseContext)) : Parser where
  parse := parse.getD fun _ _ => .error .noMatch
  canParse context := parse.isSome && (contexts.all fun allowed => allowed.contains context)
  display value _ := display value
  variableName := variableName.getD display
  debug := debug.getD display

end Parser

end HostTypes
