import HostTypes.Hierarchy
import HostTypes.Timespan.Basic

/-!
Host values: a payload tagged with the exact runtime type. What a getter extracts from an event is
one value or a list of values.
-/

namespace HostTypes

/-- A named world and a column of blocks in it. -/
structure Place where
  world : String
  x : Int32
  z : Int32
  deriving DecidableEq, Repr

inductive Payload where
  | text (content : String)
  | number (value : Binary64)
  | truth (value : Bool)
  | timespan (span : Timespan)
  | integer (value : Int64)
  | count (value : UInt32)
  | texts (content : List String)
  | place (place : Place)
  | unit
  deriving DecidableEq, Repr

inductive PayloadKind where
  | text
  | number
  | truth
  | timespan
  | integer
  | count
  | texts
  | place
  | unit
  deriving DecidableEq, Repr

namespace Payload

def kind : Payload → PayloadKind
  | text _ => .text
  | number _ => .number
  | truth _ => .truth
  | timespan _ => .timespan
  | integer _ => .integer
  | count _ => .count
  | texts _ => .texts
  | place _ => .place
  | unit => .unit

end Payload

structure Value where
  type : TypeKey
  payload : Payload
  deriving DecidableEq, Repr

inductive Extracted where
  | one (value : Value)
  | many (values : List Value)
  deriving DecidableEq, Repr

namespace Extracted

def toList : Extracted → List Value
  | one value => [value]
  | many values => values

def size (extracted : Extracted) : Nat :=
  extracted.toList.length

def isEmpty (extracted : Extracted) : Bool :=
  extracted.toList.isEmpty

/-- Maps every value and drops those that have no image. Several values of which none remains are
nothing at all. -/
def filterMap (f : Value → Option Value) : Extracted → Option Extracted
  | one value => (f value).map one
  | many values =>
    let kept := values.filterMap f
    if kept.isEmpty then none else some (many kept)

def first? : Extracted → Option Extracted
  | one value => some (one value)
  | many values => values.head?.map one

end Extracted

end HostTypes
