import HostTypes.Catalog.Basic
import HostTypes.Report.Notice

/-!
Parsing text as a value of a type. All entries whose type fits are tried in priority order; if
none of them reads the text, it is read as the source type of a converter into the wanted type.
-/

namespace HostTypes

/-- What came of reading a text: a value, the complaints of the parsers that were tried, and the
notices given on the way. -/
structure ParseResult where
  value? : Option Value := none
  diagnostics : List ParseDiagnostic := []
  notices : List Notice := []

namespace ParseResult

/-- A result after what another one has already collected. -/
def after (earlier later : ParseResult) : ParseResult where
  value? := later.value?
  diagnostics := earlier.diagnostics ++ later.diagnostics
  notices := earlier.notices ++ later.notices

end ParseResult

namespace Catalog

variable (catalog : Catalog)

def applicableParser? (target : TypeKey) (context : ParseContext) (entry : TypeEntry) :
    Option Parser :=
  entry.parser.filter fun parser =>
    parser.canParse context && catalog.hierarchy.isAssignable entry.native target

def readWith (text : String) (target : TypeKey) (context : ParseContext) :
    List TypeEntry → ParseResult
  | [] => {}
  | entry :: rest =>
    match catalog.applicableParser? target context entry with
    | none => readWith text target context rest
    | some parser =>
      match parser.parse text context with
      | .ok value => { value? := some value, notices := [.parsed text entry.codeName] }
      | .error .noMatch => readWith text target context rest
      | .error (.invalid reason) =>
        ParseResult.after { diagnostics := [⟨entry.codeName, reason⟩] }
          (readWith text target context rest)

/-- Reads a text by a parser whose type fits the target. -/
def parseDirect (text : String) (target : TypeKey) (context : ParseContext) : ParseResult :=
  catalog.readWith text target context catalog.entries

def mayRead (context : ParseContext) (converter : Converter) : Bool :=
  !(context == .command && converter.flags.noCommandArguments)

/-- Tries converters in order until the text can be read as the source of one that does not
decline. -/
def readThrough (text : String) (context : ParseContext) : List Converter → ParseResult
  | [] => {}
  | converter :: rest =>
    if mayRead context converter then
      let direct := catalog.parseDirect text converter.source context
      match direct.value?.bind converter.apply with
      | some value => { direct with value? := some value }
      -- A text may be read and then declined, so `direct` may have a value here.
      | none => direct.after (readThrough text context rest)
    else readThrough text context rest

def parse (text : String) (target : TypeKey) (context : ParseContext) : ParseResult :=
  let direct := catalog.parseDirect text target context
  if direct.value?.isSome then direct
  else direct.after (catalog.readThrough text context (catalog.graph.convertersInto target))

def parseError (text : String) (target : TypeKey) (result : ParseResult) : ParseError where
  text := text
  target :=
    match catalog.entryFor? target with
    | some entry => entry.displayName
    | none => catalog.hierarchy.name target
  diagnostics := result.diagnostics

def outcome (text : String) (target : TypeKey) (result : ParseResult) : Except ParseError Value :=
  match result.value? with
  | some value => .ok value
  | none => .error (catalog.parseError text target result)

end Catalog

end HostTypes
