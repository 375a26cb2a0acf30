import HostTypes.Pattern.CharSet

/-!
Patterns: what a text must look like, without the means to say how a text is to be found.
-/

namespace HostTypes

/-- The places that a word leaves in a text, told by whether a part of a word stands before and
after the place. -/
inductive WordEdge where
  | boundary
  | noBoundary
  | start
  | stop
  | startHalf
  | stopHalf
  deriving DecidableEq, Repr

namespace WordEdge

def holds : WordEdge → Bool → Bool → Bool
  | boundary, before, after => before != after
  | noBoundary, before, after => before == after
  | start, before, after => !before && after
  | stop, before, after => before && !after
  | startHalf, before, _ => !before
  | stopHalf, _, after => !after

end WordEdge

/-- Conditions on a place in a text. -/
inductive Anchor where
  | textStart
  | textEnd
  /-- With `returns`, a carriage return ends a line too, and one before a line feed belongs to it.
  -/
  | lineStart (returns : Bool)
  | lineEnd (returns : Bool)
  /-- An edge of words that consist of the given characters. -/
  | word (edge : WordEdge) (members : CharSet)
  deriving DecidableEq, Repr

inductive Pattern where
  | empty
  | char (set : CharSet)
  | anchor (anchor : Anchor)
  | concat (first second : Pattern)
  | either (first second : Pattern)
  /-- At least `least` times, and at most `most` times if that is given. -/
  | repeated (least : Nat) (most : Option Nat) (body : Pattern)
  deriving DecidableEq, Repr

namespace Pattern

def sequence : List Pattern → Pattern
  | [] => empty
  | [pattern] => pattern
  | pattern :: rest => concat pattern (sequence rest)

def choice : List Pattern → Pattern
  | [] => empty
  | [pattern] => pattern
  | pattern :: rest => either pattern (choice rest)

end Pattern

end HostTypes
