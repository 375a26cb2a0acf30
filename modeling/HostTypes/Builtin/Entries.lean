import HostTypes.Builtin.Parsers
import HostTypes.Builtin.Types
import HostTypes.Catalog.Builder

/-!
The entries of the built-in types, and the converter from numbers to text.
-/

namespace HostTypes

namespace CatalogBuilder

def registerAll (builder : CatalogBuilder) :
    List TypeEntry → Except RegistryError Unit × CatalogBuilder × List Notice
  | [] => (.ok (), builder, [])
  | entry :: rest =>
    match (registerEntry entry).run.run builder with
    | (.error error, next) => (.error error, next, [])
    | (.ok notices, next) =>
      let (outcome, last, later) := next.registerAll rest
      (outcome, last, notices ++ later)

end CatalogBuilder

namespace BuiltinTypes

variable (types : BuiltinTypes)

def entries (accuracy : Nat) : List TypeEntry :=
  [{ codeName := "object"
     native := types.object
     name := some "object"
     patterns := ["objects?"] },
    { codeName := "number"
      native := types.number
      name := some "number"
      parser := some (numberParser types.number accuracy)
      serializer := some (.binary .number false)
      patterns := ["num(ber)?s?"] },
    { codeName := "boolean"
      native := types.truth
      name := some "boolean"
      parser := some (truthParser types.truth)
      serializer := some (.binary .truth false)
      patterns := ["booleans?"] },
    { codeName := "text"
      native := types.text
      name := some "text"
      parser := some (textParser types.text)
      serializer := some (.json .text false)
      patterns := ["(text|string)s?"] },
    { codeName := "timespan"
      native := types.timespan
      name := some "time span"
      parser := some (timespanParser types.timespan accuracy)
      serializer := some (.binary .timespan false)
      patterns := ["time ?spans?"] }]

def numberToText (accuracy : Nat) : Converter where
  source := types.number
  target := types.text
  apply value :=
    value.payload.number?.map fun number => ⟨types.text, .text (number.display accuracy)⟩

def register (builder : CatalogBuilder) :
    Except RegistryError Unit × CatalogBuilder × List Notice :=
  let accuracy := builder.display.numberAccuracy
  match builder.registerAll (types.entries accuracy) with
  | (.ok (), last, notices) =>
    (.ok (), last.registerConverter (types.numberToText accuracy), notices)
  | failed => failed

end BuiltinTypes

end HostTypes
