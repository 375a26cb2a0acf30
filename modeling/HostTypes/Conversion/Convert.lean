import HostTypes.Conversion.Graph
import HostTypes.Query

/-!
Converting values along the chains of a conversion graph. A value that is usable as the target
type is its own conversion.
-/

namespace HostTypes

namespace ConversionGraph

variable (graph : ConversionGraph)

def chain? (source target : TypeKey) : Query (Option (List Nat)) :=
  Cache.fetch Memory.chainsSlot (source, target) (pure (graph.search source target))

/-- Whether values of one type can be had as values of another, if no converter declines. -/
def converterExists (source target : TypeKey) : Query Bool := do
  if graph.hierarchy.isAssignable source target then return true
  else return (← graph.chain? source target).isSome

def checkResult (target : TypeKey) (result : Value) : Query (Option Value) := do
  if graph.hierarchy.isAssignable result.type target then return some result
  else
    notify (.unsuitableChain (graph.hierarchy.name target) (graph.hierarchy.name result.type))
    return none

def convert (value : Value) (target : TypeKey) : Query (Option Value) := do
  if graph.hierarchy.isAssignable value.type target then return some value
  else
    match (← graph.chain? value.type target).bind (graph.applyChain · value) with
    | some result => graph.checkResult target result
    | none => return none

def convertAll (target : TypeKey) : List Value → Query (List Value)
  | [] => return []
  | value :: rest => do
    let result ← graph.convert value target
    let results ← convertAll target rest
    return result.toList ++ results

/-- Converts what a getter has extracted. Several values of which none can be converted are nothing
at all. -/
def convertExtracted (target : TypeKey) : Extracted → Query (Option Extracted)
  | .one value => do return (← graph.convert value target).map .one
  | .many values => do
    let results ← graph.convertAll target values
    return if results.isEmpty then none else some (.many results)

end ConversionGraph

end HostTypes
