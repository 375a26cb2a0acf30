import HostTypes.Catalog.Display
import HostTypes.Catalog.Storage
import HostTypes.Event.Resolve

/-!
What queries would answer without caches: the scans and searches of a frozen catalog and its getters,
and what is put together from them.
-/

namespace HostTypes

namespace ConversionGraph

variable (graph : ConversionGraph)

/-- Whether values of one type can be had as values of another, if no converter declines. -/
def converts (source target : TypeKey) : Bool :=
  graph.hierarchy.isAssignable source target || (graph.search source target).isSome

def result? (value : Value) (target : TypeKey) : Option Value :=
  if graph.hierarchy.isAssignable value.type target then some value
  else
    ((graph.search value.type target).bind (graph.applyChain · value)).filter fun result =>
      graph.hierarchy.isAssignable result.type target

variable {graph} in
theorem isAssignable_of_result? {value result : Value} {target : TypeKey}
    (converts : graph.result? value target = some result) :
    graph.hierarchy.isAssignable result.type target := by
  unfold result? at converts
  split at converts
  · rename_i usable
    cases converts
    exact usable
  · exact (Option.filter_eq_some_iff.1 converts).2

end ConversionGraph

def TypeEntry.encoded? (entry : TypeEntry) (value : Value) : Option StoredValue :=
  match entry.serializer with
  | none => none
  | some serializer =>
    match serializer.encode value with
    | .ok bytes => some ⟨entry.codeName, bytes⟩
    | .error _ => none

namespace Catalog

variable (catalog : Catalog)

/-- The number of the first entry that accepts a type and has a parser, else of the first that
accepts it. -/
def printer? (type : TypeKey) : Option Nat :=
  (catalog.printingNumber? type).or (catalog.closestNumber? type)

def closestEntry? (type : TypeKey) : Option TypeEntry :=
  catalog.entryAt (catalog.closestNumber? type)

def copy (value : Value) : Value :=
  match (catalog.closestEntry? value.type).bind TypeEntry.cloner with
  | some clone => clone value
  | none => value

def textOf (value : Value) (mode : DisplayMode) (flags : DisplayFlags) : String :=
  match catalog.entryAt (catalog.printer? value.type) with
  | none => unregisteredText (catalog.hierarchy.name value.type) mode
  | some entry => entry.displayValue value mode flags

/-- The entry that stores a value of another entry's type, and what the value is converted to on the
way there. -/
def storing? : Nat → TypeEntry → Value → Option (TypeEntry × Value)
  | hops, entry, value =>
    match entry.serializeAs with
    | none => some (entry, value)
    | some target =>
      match hops with
      | 0 => none
      | hops + 1 =>
        match catalog.graph.result? value target with
        | none => none
        | some converted =>
          match catalog.entryFor? target with
          | none => none
          | some next => storing? hops next converted

def storedForm? (value : Value) : Option StoredValue :=
  match catalog.closestEntry? value.type with
  | none => none
  | some entry =>
    match catalog.storing? catalog.entries.length entry value with
    | none => none
    | some (entry, value) => entry.encoded? value

end Catalog

namespace EventRegistry

variable (registry : EventRegistry)

def convertible (request : GetterRequest) : List EventGetter :=
  registry.getters.filter fun getter =>
    registry.isApplicable request getter &&
      registry.graph.converts getter.valueType request.valueType

def answer (request : GetterRequest) : Resolution :=
  match registry.select? none (registry.sameType request) with
  | some resolution => resolution
  | none =>
    if request.exact then .missing
    else
      match registry.select? none (registry.subtypes request) with
      | some resolution => resolution
      | none =>
        (registry.select? (some request.valueType) (registry.convertible request)).getD .missing

def outcome (request : GetterRequest) : Except ResolveError (Option ResolvedGetter) :=
  match registry.answer request with
  | .found getter => .ok (some getter)
  | .missing => .ok none
  | .ambiguous candidates => .error (registry.ambiguityError request candidates)

def differsInTime (event valueType : TypeKey) (exact : Bool) : Bool :=
  !(registry.answer ⟨event, valueType, .before, exact⟩).isMissing ||
    !(registry.answer ⟨event, valueType, .after, exact⟩).isMissing

def extracted? (resolved : ResolvedGetter) (event : Value) : Option Extracted :=
  match resolved.getter.extract event, resolved.convertTo with
  | none, _ => none
  | some extracted, none => some extracted
  | some extracted, some target => extracted.filterMap (registry.graph.result? · target)

end EventRegistry

end HostTypes
