import HostTypes.Parser
import HostTypes.Text.Digit

/-!
Simple ways of reading text, for hosts that need no parser of their own.
-/

namespace HostTypes

/-- Reads an integer of sixty-four bits: digits with an optional sign. -/
def readInteger? (text : List Char) : Option Int64 :=
  let (negative, digits) :=
    match text with
    | '-' :: rest => (true, rest)
    | '+' :: rest => (false, rest)
    | rest => (false, rest)
  if digits.isEmpty then none
  else
    (asciiNumber? digits).bind fun magnitude =>
      let n : Int := if negative then -magnitude else magnitude
      if -twoTo 63 ≤ n && n < twoTo 63 then some (Int64.ofInt n) else none

inductive TextReader where
  /-- Takes every text as it is. -/
  | text
  /-- Takes every text, with the name of the context before it. -/
  | contextAndText
  | integer (greatest : Int)
  | afterMark (mark : String)
  | refuse (reason : String)
  | nothing
  deriving DecidableEq, Repr

namespace TextReader

def read (type : TypeKey) (text : String) (context : ParseContext) :
    TextReader → Except ParseFailure Value
  | .text => .ok ⟨type, .text text⟩
  | .contextAndText => .ok ⟨type, .text (context.name.capitalize ++ ":" ++ text)⟩
  | .integer greatest =>
    match readInteger? text.toList with
    | none => .error .noMatch
    | some n =>
      if greatest < n.toInt then .error (.invalid (text ++ " is too large"))
      else .ok ⟨type, .integer n⟩
  | .afterMark mark =>
    if mark.toList.isPrefixOf text.toList then
      match text.toList.drop mark.length with
      | [] => .error (.invalid ("nothing after " ++ mark))
      | rest => .ok ⟨type, .text (String.ofList rest)⟩
    else .error .noMatch
  | .refuse reason => .error (.invalid reason)
  | .nothing => .error .noMatch

end TextReader

end HostTypes
