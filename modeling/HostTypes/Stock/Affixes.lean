import HostTypes.Value

/-!
The plain text of payloads, and texts that are put around it.
-/

namespace HostTypes

/-- The text of a payload, whatever its type. Lists, places and the unit payload have none. -/
def Payload.plainText : Payload → String
  | text content => content
  | number x => x.display 2
  | truth b => if b then "true" else "false"
  | timespan span => span.toText
  | integer n => toString n.toInt
  | count n => toString n.toNat
  | texts _ | place _ | unit => ""

def Value.plainText (value : Value) : String :=
  value.payload.plainText

structure Affixes where
  before : String := ""
  after : String := ""
  deriving DecidableEq, Repr

namespace Affixes

def around (affixes : Affixes) (text : String) : String :=
  affixes.before ++ text ++ affixes.after

def render (affixes : Affixes) (value : Value) : String :=
  affixes.around value.plainText

end Affixes

end HostTypes
