import HostTypes.Catalog.Entry
import HostTypes.Report.Error

/-!
The priority order of a catalog. Constraints between entries are the edges of a graph: an entry
stands after those it names in `after`, before those it names in `before`, and a type stands after
all its subtypes. Entries are emitted as soon as nothing they have to follow is left; when nothing
can be emitted any more, the rest depends on a cycle.
-/

namespace HostTypes

namespace Catalog

def numberOf? (entries : List TypeEntry) (codeName : String) : Option Nat :=
  entries.findIdx? fun entry => entry.codeName == codeName

/-- The names in `after` and then those in `before` that no entry has, repetitions kept. -/
def missingNames (entries : List TypeEntry) (entry : TypeEntry) : List String :=
  (entry.after ++ entry.before).filter fun name => (numberOf? entries name).isNone

/-- Whether one entry has to stand before another: by name on either side, or as a subtype. -/
def mustPrecede (hierarchy : Hierarchy) (first second : TypeEntry) : Bool :=
  second.after.contains first.codeName || first.before.contains second.codeName ||
    hierarchy.isStrictSubtype first.native second.native

/-- The constraints between the numbered entries: for every entry the numbers of those that have to
stand before it, in registration order. -/
def predecessorTable (hierarchy : Hierarchy) (entries : List TypeEntry) : List (List Nat) :=
  entries.map fun second =>
    (List.range entries.length).filter fun number =>
      match entries[number]? with
      | some first => mustPrecede hierarchy first second
      | none => false

def predecessorsOf (table : List (List Nat)) (number : Nat) : List Nat :=
  table.getD number []

def hasEdge (table : List (List Nat)) (first second : Nat) : Bool :=
  (predecessorsOf table second).contains first

/-- Where the emission stands: for every entry the number of its predecessors that are not emitted,
and the emitted entries in order. -/
structure Emission where
  pending : List Nat
  order : List Nat
  deriving DecidableEq, Repr

namespace Emission

def start (table : List (List Nat)) : Emission :=
  ⟨table.map List.length, []⟩

def isReady (emission : Emission) (number : Nat) : Bool :=
  !emission.order.contains number && emission.pending[number]? == some 0

/-- Emits an entry: those that have to follow it wait for one entry less. -/
def emit (table : List (List Nat)) (emission : Emission) (number : Nat) : Emission where
  pending := emission.pending.mapIdx fun other count =>
    if hasEdge table number other then count - 1 else count
  order := emission.order ++ [number]

/-- One pass over all entries in registration order. An entry that an earlier one of the pass sets
free is emitted in the same pass. -/
def pass (table : List (List Nat)) (emission : Emission) : Emission :=
  (List.range table.length).foldl
    (fun emission number =>
      if emission.isReady number then emission.emit table number else emission)
    emission

/-- Passes until one emits nothing or all entries are emitted. `fuel` bounds their number. -/
def run (table : List (List Nat)) : Nat → Emission → Emission
  | 0, emission => emission
  | fuel + 1, emission =>
    let next := emission.pass table
    if next.order.length = emission.order.length || next.order.length = table.length then next
    else run table fuel next

end Emission

def emitAll (table : List (List Nat)) : Emission :=
  -- Every pass but the last emits an entry.
  Emission.run table (table.length + 1) (Emission.start table)

def reachableFrom (table : List (List Nat)) : Nat → List Nat → List Nat
  | 0, reached => reached
  | fuel + 1, reached =>
    let next := (List.range table.length).filter fun number =>
      reached.contains number || (predecessorsOf table number).any reached.contains
    reachableFrom table fuel next

def successorsOf (table : List (List Nat)) (number : Nat) : List Nat :=
  reachableFrom table table.length <|
    (List.range table.length).filter fun other => hasEdge table number other

/-- The entries grouped by mutual reachability. -/
def components (table : List (List Nat)) : List (List Nat) :=
  let reach := (List.range table.length).map (successorsOf table)
  let leadsTo first second := (reach.getD first []).contains second
  (List.range table.length).filterMap fun number =>
    let members := (List.range table.length).filter fun other =>
      number == other || leadsTo number other && leadsTo other number
    if members.head? = some number then some members else none

/-- Whether the entries of a component depend on a cycle: there are several, or the only one has to
stand before itself. -/
def isCyclic (table : List (List Nat)) : List Nat → Bool
  | [] => false
  | first :: rest => !rest.isEmpty || hasEdge table first first

/-- Of some components those that are cyclic, each with its members in registration order. -/
def cyclesAmong (table : List (List Nat)) (components : List (List Nat)) : List (List Nat) :=
  (components.filter (isCyclic table)).map fun members => members.mergeSort

def codeNameAt (entries : List TypeEntry) (number : Nat) : String :=
  match entries[number]? with
  | some entry => entry.codeName
  | none => ""

def cycleError (entries : List TypeEntry) (table : List (List Nat)) (order : List Nat) :
    RegistryError :=
  let isLeft number := !order.contains number
  .circularDependency
    (((List.range entries.length).filter isLeft).map fun number =>
      ⟨codeNameAt entries number,
        ((predecessorsOf table number).filter isLeft).map (codeNameAt entries)⟩)
    ((cyclesAmong table (components table)).map fun members => members.map (codeNameAt entries))

def resolveOrder (hierarchy : Hierarchy) (entries : List TypeEntry) :
    Except RegistryError (List Nat) :=
  let table := predecessorTable hierarchy entries
  let order := (emitAll table).order
  if order.length = entries.length then .ok order else .error (cycleError entries table order)

def unresolvedNames (entries : List TypeEntry) : List (String × List String) :=
  entries.filterMap fun entry =>
    let missing := missingNames entries entry
    if missing.isEmpty then none else some (entry.codeName, missing)

end Catalog

end HostTypes
