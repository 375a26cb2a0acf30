import HostTypes.Value

/-!
In-place changes of host values. A mutator says which changes it supports, and with which types of
delta, before any value is at hand, and later carries them out. `ChangeTable` is the mutator that
keeps its supported modes in a table.
-/

namespace HostTypes

inductive ChangeMode where
  | add
  | set
  | remove
  | removeAll
  | delete
  | reset
  deriving DecidableEq, Repr

namespace ChangeMode

def name : ChangeMode → String
  | add => "Add"
  | set => "Set"
  | remove => "Remove"
  | removeAll => "RemoveAll"
  | delete => "Delete"
  | reset => "Reset"

def named? (name : String) : Option ChangeMode :=
  [add, set, remove, removeAll, delete, reset].find? fun mode => mode.name == name

/-- Modes that never take a delta. -/
def isDeltaless : ChangeMode → Bool
  | delete | reset => true
  | _ => false

end ChangeMode

inductive ChangeError where
  | unsupported (mode : ChangeMode)
  | invalidDelta (reason : String)
  deriving DecidableEq, Repr

namespace ChangeError

def message : ChangeError → String
  | unsupported mode => s!"unsupported operation: {mode.name}"
  | invalidDelta reason => s!"invalid delta: {reason}"

end ChangeError

/-- What a host does to carry a change out: it is given the targets, the delta if there is one, and
the mode, and reports what it has done line by line. -/
abbrev ApplyChange :=
  List Value → Option (List Value) → ChangeMode → Except ChangeError (List String)

structure Mutator where
  /-- The delta types accepted for a mode, `none` for an unsupported mode. -/
  acceptedDeltas : ChangeMode → Option (List TypeKey)
  change : ApplyChange

namespace Mutator

/-- Whether a mode is supported with deltas of the given types: every one of them must be usable as
one of the accepted types, unless the mode takes no delta. -/
def accepts (mutator : Mutator) (hierarchy : Hierarchy) (mode : ChangeMode)
    (deltas : List TypeKey) : Bool :=
  match mutator.acceptedDeltas mode with
  | none => false
  | some accepted =>
    mode.isDeltaless || deltas.all fun delta => accepted.any (hierarchy.isAssignable delta ·)

end Mutator

/-- A table of supported modes with their delta types, and the action that carries changes out. -/
structure ChangeTable where
  rows : List (ChangeMode × List TypeKey) := []
  apply : ApplyChange

namespace ChangeTable

def ofAction (apply : ApplyChange) : ChangeTable :=
  { apply }

/-- Supports a mode with the given delta types, in place of those given for it before. -/
def accept (table : ChangeTable) (mode : ChangeMode) (deltas : List TypeKey) : ChangeTable :=
  { table with rows := table.rows.filter (fun row => row.1 != mode) ++ [(mode, deltas)] }

def acceptedDeltas (table : ChangeTable) (mode : ChangeMode) : Option (List TypeKey) :=
  (table.rows.find? fun row => row.1 == mode).map Prod.snd

def change (table : ChangeTable) : ApplyChange := fun targets delta mode =>
  match table.acceptedDeltas mode with
  | none => .error (.unsupported mode)
  | some _ => table.apply targets delta mode

def toMutator (table : ChangeTable) : Mutator :=
  ⟨table.acceptedDeltas, table.change⟩

end ChangeTable

end HostTypes
