import HostTypes.Pattern.Reader

/-!
Matching. A pattern sends a set of places in a text to the set of places where a match that begins
at one of them can end. A text matches if some match begins somewhere in it.
-/

namespace HostTypes

def memberAt (text : List Char) (set : CharSet) (place : Nat) : Bool :=
  match text[place]? with
  | some c => set.contains c
  | none => false

def memberBefore (text : List Char) (set : CharSet) (place : Nat) : Bool :=
  decide (0 < place) && memberAt text set (place - 1)

namespace Anchor

def holds (text : List Char) (place : Nat) : Anchor → Bool
  | textStart => place == 0
  | textEnd => place == text.length
  | lineStart returns =>
    place == 0 || memberBefore text (.single '\n') place ||
      (returns && memberBefore text (.single '\r') place && !memberAt text (.single '\n') place)
  | lineEnd returns =>
    place == text.length ||
      (memberAt text (.single '\n') place &&
        !(returns && memberBefore text (.single '\r') place)) ||
      (returns && memberAt text (.single '\r') place)
  | word edge members => edge.holds (memberBefore text members place) (memberAt text members place)

end Anchor

/-- Adds the members of a list that another lacks. -/
def addMissing (held new : List Nat) : List Nat :=
  new.foldl (fun held place => if held.contains place then held else held ++ [place]) held

def applyTimes (step : List Nat → List Nat) : Nat → List Nat → List Nat
  | 0, places => places
  | count + 1, places => applyTimes step count (step places)

/-- The places that at most `count` steps lead to, the start included. It stops when a step adds
nothing. -/
def reachWithin (step : List Nat → List Nat) : Nat → List Nat → List Nat
  | 0, places => places
  | count + 1, places =>
    let next := addMissing places (step places)
    if next.length = places.length then places else reachWithin step count next

namespace Pattern

/-- The places where matches can end that begin at one of the given places. A text of `n` characters
has `n + 1` places, which bounds the steps of a repetition without an upper limit. -/
def ends (text : List Char) : Pattern → List Nat → List Nat
  | empty, places => places
  | char set, places => (places.filter (memberAt text set)).map (· + 1)
  | anchor condition, places => places.filter fun place => condition.holds text place
  | concat first second, places => second.ends text (first.ends text places)
  | either first second, places => addMissing (first.ends text places) (second.ends text places)
  | repeated least most body, places =>
    let step := body.ends text
    let more :=
      match most with
      | some most => most - least
      | none => text.length + 1
    reachWithin step more (applyTimes step least places)

def isMatch (pattern : Pattern) (text : String) : Bool :=
  !(pattern.ends text.toList (List.range (text.toList.length + 1))).isEmpty

/-- The pattern for a whole text without regard to case, made by putting the written pattern between
anchors. The two are read together, so what is written may close the group around it. -/
def anchored? (source : String) : Option Pattern :=
  read? ("(?i)^(?:" ++ source ++ ")$").toList

end Pattern

end HostTypes
