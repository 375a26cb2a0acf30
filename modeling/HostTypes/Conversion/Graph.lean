import HostTypes.Value

/-!
The conversion graph: one-step converters between types in registration order, and the search for
the shortest chain of them that leads from one type to another.
-/

namespace HostTypes

structure ConverterFlags where
  /-- Only usable alone, never as part of a longer chain. -/
  noChaining : Bool := false
  /-- Not used to read command arguments. -/
  noCommandArguments : Bool := false
  deriving DecidableEq, Repr, Inhabited

/-- A converter from one type to another. It may decline a value. -/
structure Converter where
  source : TypeKey
  target : TypeKey
  flags : ConverterFlags := {}
  apply : Value → Option Value

structure ConversionGraph where
  hierarchy : Hierarchy
  converters : List Converter

namespace ConversionGraph

variable (graph : ConversionGraph)

def convertersInto (target : TypeKey) : List Converter :=
  graph.converters.filter fun converter => graph.hierarchy.isAssignable converter.target target

/-- A type that a search has reached, and the converters on the way there, by number. -/
structure Reached where
  type : TypeKey
  path : List Nat
  deriving DecidableEq, Repr

/-- Where a search stands: the types reached so far and those still to be expanded, in order. -/
structure SearchState where
  visited : List TypeKey
  queue : List Reached
  deriving DecidableEq, Repr

def canFollow (reached : Reached) (converter : Converter) : Bool :=
  graph.hierarchy.isAssignable reached.type converter.source &&
    !(converter.flags.noChaining && !reached.path.isEmpty)

/-- Tries the numbered converters as next steps in order: gives the chain as soon as one leads to
`goal`, else the state in which newly reached types are queued. -/
def expand (goal : TypeKey) (reached : Reached) :
    List (Converter × Nat) → SearchState → List Nat ⊕ SearchState
  | [], state => .inr state
  | (converter, number) :: rest, state =>
    if graph.canFollow reached converter then
      let path := reached.path ++ [number]
      if graph.hierarchy.isAssignable converter.target goal then .inl path
      -- Nothing may follow a converter for single use, so what it gives is not expanded.
      else if converter.flags.noChaining || state.visited.contains converter.target then
        expand goal reached rest state
      else
        expand goal reached rest
          ⟨converter.target :: state.visited, state.queue ++ [⟨converter.target, path⟩]⟩
    else expand goal reached rest state

/-- Expands queued types in order. `fuel` bounds their number. -/
def searchFrom (goal : TypeKey) : Nat → SearchState → Option (List Nat)
  | 0, _ => none
  | fuel + 1, state =>
    match state.queue with
    | [] => none
    | reached :: queue =>
      match graph.expand goal reached graph.converters.zipIdx { state with queue } with
      | .inl chain => some chain
      | .inr state => searchFrom goal fuel state

/-- The shortest chain of converters from one type to something usable as another; of several the
one whose converters were registered first. -/
def search (source goal : TypeKey) : Option (List Nat) :=
  -- Every converter queues at most one type.
  graph.searchFrom goal (graph.converters.length + 2) ⟨[source], [⟨source, []⟩]⟩

def applyChain : List Nat → Value → Option Value
  | [], value => some value
  | number :: rest, value =>
    match graph.converters[number]? with
    | none => none
    | some converter =>
      match converter.apply value with
      | none => none
      | some result => applyChain rest result

end ConversionGraph

end HostTypes
