import HostTypes.Event.Getter
import HostTypes.Stock.Affixes

/-!
Simple conversions of values, and simple ways of extracting values from events whose payload is a
list of texts.
-/

namespace HostTypes

inductive ValueMapping where
  /-- Puts affixes around a text that starts with a given one. -/
  | affix (start : String) (affixes : Affixes)
  /-- Puts affixes around the plain text. -/
  | plainText (affixes : Affixes)
  | number (accuracy : Nat)
  /-- The place with fixed coordinates in the world that a text names. -/
  | place (x z : Int32)
  /-- Changes the type alone. -/
  | retag
  | same
  | nothing
  deriving DecidableEq, Repr

namespace ValueMapping

def apply (type : TypeKey) (value : Value) : ValueMapping → Option Value
  | .affix start affixes =>
    match value.payload with
    | .text content =>
      if start.toList.isPrefixOf content.toList then some ⟨type, .text (affixes.around content)⟩
      else none
    | _ => none
  | .plainText affixes => some ⟨type, .text (affixes.render value)⟩
  | .number accuracy =>
    match value.payload with
    | .number x => some ⟨type, .text (x.display accuracy)⟩
    | _ => none
  | .place x z =>
    match value.payload with
    | .text content => some ⟨type, .place ⟨content, x, z⟩⟩
    | _ => none
  | .retag => some ⟨type, value.payload⟩
  | .same => some value
  | .nothing => none

end ValueMapping

inductive EventPart where
  /-- The text at a position of a list, or a text that is the whole payload. -/
  | element (position : Nat) (affixes : Affixes)
  /-- Every text of a list. -/
  | every (affixes : Affixes)
  | fixed (extracted : Extracted)
  | nothing
  deriving DecidableEq, Repr

namespace EventPart

def extract (type : TypeKey) (event : Value) : EventPart → Option Extracted
  | .element position affixes =>
    match event.payload with
    | .texts content =>
      content[position]?.map fun text => .one ⟨type, .text (affixes.around text)⟩
    | .text content => some (.one ⟨type, .text (affixes.around content)⟩)
    | _ => none
  | .every affixes =>
    match event.payload with
    | .texts content =>
      some (.many (content.map fun text => ⟨type, .text (affixes.around text)⟩))
    | _ => none
  | .fixed extracted => some extracted
  | .nothing => none

end EventPart

end HostTypes
