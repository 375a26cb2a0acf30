import HostTypes.Number.FixedPoint
import HostTypes.Number.Numeral
import HostTypes.Parser
import HostTypes.Timespan.Phrase

/-!
The parsers of the built-in types. A value whose payload is of another kind than its type suggests
is written as nothing.
-/

namespace HostTypes

namespace Payload

def number? : Payload → Option Binary64
  | number value => some value
  | _ => none

def truth? : Payload → Option Bool
  | truth value => some value
  | _ => none

def text? : Payload → Option String
  | text content => some content
  | _ => none

def timespan? : Payload → Option Timespan
  | timespan span => some span
  | _ => none

end Payload

/-- The decimals of a number in a variable name. -/
def variableNameAccuracy : Nat := 8

/-- Reads a number without regard to blanks around it. A numeral that no number is close enough to
is invalid. -/
def readNumber (native : TypeKey) (text : String) : Except ParseFailure Value :=
  let trimmed := trimBlanks text.toList
  match Numeral.read? trimmed with
  | none => .error .noMatch
  | some numeral =>
    match numeral.value? with
    | some value =>
      if value.isFinite then .ok ⟨native, .number value⟩
      else .error (.invalid s!"'{String.ofList trimmed}' is too large to be a number")
    | none => .error (.invalid s!"'{String.ofList trimmed}' is too large to be a number")

def numberText (accuracy : Nat) (value : Value) : String :=
  (value.payload.number?.map (·.display accuracy)).getD ""

def numberParser (native : TypeKey) (accuracy : Nat) : Parser where
  parse text _ := readNumber native text
  canParse _ := true
  display value _ := numberText accuracy value
  variableName := numberText variableNameAccuracy
  debug := numberText accuracy

def truthOfWord? (text : String) : Option Bool :=
  let word := String.ofList (lowercase (trimBlanks text.toList))
  if ["true", "yes", "on"].contains word then some true
  else if ["false", "no", "off"].contains word then some false
  else none

def truthText (value : Value) : String :=
  match value.payload.truth? with
  | some true => "true"
  | some false => "false"
  | none => ""

def truthParser (native : TypeKey) : Parser where
  parse text _ :=
    match truthOfWord? text with
    | some value => .ok ⟨native, .truth value⟩
    | none => .error .noMatch
  canParse _ := true
  display value _ := truthText value
  variableName := truthText
  debug := truthText

def plainText (value : Value) : String :=
  value.payload.text?.getD ""

/-- Every text is a text, so that it would be read everywhere; only settings are. -/
def textParser (native : TypeKey) : Parser where
  parse text _ := .ok ⟨native, .text text⟩
  canParse context := context == .config
  display value _ := plainText value
  variableName := plainText
  debug value := "\"" ++ plainText value ++ "\""

def timespanText (accuracy : Nat) (value : Value) : String :=
  (value.payload.timespan?.map (Timespan.display accuracy)).getD ""

def timespanName (value : Value) : String :=
  (value.payload.timespan?.map fun span => "timespan:" ++ toString span.millis).getD ""

def timespanParser (native : TypeKey) (accuracy : Nat) : Parser where
  parse text _ :=
    match Timespan.read? text.toList with
    | some span => .ok ⟨native, .timespan span⟩
    | none => .error .noMatch
  canParse _ := true
  display value _ := timespanText accuracy value
  variableName := timespanName
  debug := timespanText accuracy

end HostTypes
