import HostTypes.Conversion.Convert
import HostTypes.Report.Error

/-!
Choosing the getter for a request. Getters of exactly the wanted type come first, then those of
its subtypes, then those whose values convert to it. Among the getters of the first of these
stages that has any, those for the most specific event types count, and they have to agree on the
event type and on the value type.
-/

namespace HostTypes

/-- The frozen getters, with the conversion graph that converts their values. -/
structure EventRegistry where
  hierarchy : Hierarchy
  graph : ConversionGraph
  getters : List EventGetter

def distinct : List TypeKey → List TypeKey
  | [] => []
  | key :: rest => key :: (distinct rest).filter (· != key)

namespace EventRegistry

variable (registry : EventRegistry)

def isApplicable (request : GetterRequest) (getter : EventGetter) : Bool :=
  getter.time == request.time && registry.hierarchy.isAssignable request.event getter.event

def sameType (request : GetterRequest) : List EventGetter :=
  registry.getters.filter fun getter =>
    registry.isApplicable request getter && getter.valueType == request.valueType

def subtypes (request : GetterRequest) : List EventGetter :=
  registry.getters.filter fun getter =>
    registry.isApplicable request getter &&
      registry.hierarchy.isStrictSubtype getter.valueType request.valueType

/-- Of some getters, the applicable ones whose values convert to the wanted type. -/
def convertibleAmong (request : GetterRequest) : List EventGetter → Query (List EventGetter)
  | [] => return []
  | getter :: rest => do
    if registry.isApplicable request getter then
      let converts ← registry.graph.converterExists getter.valueType request.valueType
      let others ← convertibleAmong request rest
      return if converts then getter :: others else others
    else convertibleAmong request rest

/-- Of some getters, those for whose event type there is no more specific one among them. -/
def mostSpecific (candidates : List EventGetter) : List EventGetter :=
  candidates.filter fun getter =>
    !candidates.any fun other => registry.hierarchy.isStrictSubtype other.event getter.event

def select? (convertTo : Option TypeKey) (candidates : List EventGetter) : Option Resolution :=
  match registry.mostSpecific candidates with
  | [] => none
  | first :: rest =>
    let events := distinct ((first :: rest).map EventGetter.event)
    let valueTypes := distinct ((first :: rest).map EventGetter.valueType)
    if 1 < events.length then some (.ambiguous events)
    else if 1 < valueTypes.length then some (.ambiguous valueTypes)
    else some (.found ⟨first, convertTo⟩)

def scan (request : GetterRequest) : Query Resolution := do
  match registry.select? none (registry.sameType request) with
  | some resolution => return resolution
  | none =>
    if request.exact then return .missing
    else
      match registry.select? none (registry.subtypes request) with
      | some resolution => return resolution
      | none =>
        let convertible ← registry.convertibleAmong request registry.getters
        return (registry.select? (some request.valueType) convertible).getD .missing

def resolution (request : GetterRequest) : Query Resolution :=
  Cache.fetch Memory.gettersSlot request (registry.scan request)

def ambiguityError (request : GetterRequest) (candidates : List TypeKey) : ResolveError where
  event := registry.hierarchy.name request.event
  value := registry.hierarchy.name request.valueType
  candidates := candidates.map registry.hierarchy.name

def resolve (request : GetterRequest) : Query (Except ResolveError (Option ResolvedGetter)) := do
  match ← registry.resolution request with
  | .found getter => return .ok (some getter)
  | .missing => return .ok none
  | .ambiguous candidates => return .error (registry.ambiguityError request candidates)

/-- Whether events of a type offer a value in the state before or after. -/
def hasTimeStates (event valueType : TypeKey) (exact : Bool) : Query Bool := do
  if !(← registry.resolution ⟨event, valueType, .before, exact⟩).isMissing then return true
  else return !(← registry.resolution ⟨event, valueType, .after, exact⟩).isMissing

/-- Whether events of some strict subtype offer a value, so that an event that comes about may
offer it although its declared type does not. -/
def hasGetterBelow (event valueType : TypeKey) (time : TimeVariant) : Bool :=
  registry.getters.any fun getter =>
    getter.time == time && registry.hierarchy.isStrictSubtype getter.event event &&
      registry.hierarchy.isAssignable getter.valueType valueType

def extract (resolved : ResolvedGetter) (event : Value) : Query (Option Extracted) :=
  match resolved.getter.extract event, resolved.convertTo with
  | none, _ => return none
  | some extracted, none => return some extracted
  | some extracted, some target => registry.graph.convertExtracted target extracted

end EventRegistry

end HostTypes
