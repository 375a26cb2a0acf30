import HostTypes.Change

/-!
What can go wrong, as causes, and the wording of each. Types appear in errors by name, as the
reader of a message knows no keys.
-/

namespace HostTypes

def commaList (texts : List String) : String :=
  String.intercalate ", " texts

/-- An entry that could not be ordered, with the unordered entries it has to follow. -/
structure UnresolvedEntry where
  codeName : String
  pendingAfter : List String
  deriving DecidableEq, Repr

def UnresolvedEntry.message (entry : UnresolvedEntry) : String :=
  s!"{entry.codeName} (after: {commaList entry.pendingAfter})"

inductive RegistryError where
  | duplicateName (codeName typeName existing : String)
  | duplicateType (codeName typeName existing : String)
  | invalidCodeName (codeName : String)
  | invalidPattern (codeName pattern : String)
  | circularDependency (unresolved : List UnresolvedEntry) (cycles : List (List String))
  deriving DecidableEq, Repr

namespace RegistryError

def message : RegistryError → String
  | duplicateName codeName typeName existing =>
    s!"can't register {typeName} with the code name '{codeName}' because that name is already " ++
      s!"used by {existing}"
  | duplicateType codeName typeName existing =>
    s!"can't register the type entry '{codeName}' because the type {typeName} is already " ++
      s!"registered as '{existing}'"
  | invalidCodeName codeName =>
    s!"'{codeName}' is not a valid code name " ++
      "(expected lowercase letters, digits and underscores)"
  | invalidPattern codeName pattern => s!"invalid user input pattern '{pattern}' for '{codeName}'"
  | circularDependency unresolved _ =>
    "type entries with circular dependencies detected: " ++
      commaList (unresolved.map UnresolvedEntry.message)

/-- The code names of the entries that a circular dependency leaves over. -/
def unresolvedNames : RegistryError → List String
  | circularDependency unresolved _ => unresolved.map UnresolvedEntry.codeName
  | _ => []

end RegistryError

inductive RegistrationIssue where
  | skipped (reason : String)
  | unresolvedDependency (codeName : String) (missing : List String)
  | serializeAsUnregistered (codeName target : String)
  | serializeAsNotSerializable (codeName target : String)
  deriving DecidableEq, Repr

namespace RegistrationIssue

def message : RegistrationIssue → String
  | skipped reason => s!"ignored a registration error due to configuration: {reason}"
  | unresolvedDependency codeName missing =>
    s!"{missing.length} dependency/ies could not be resolved for '{codeName}': {commaList missing}"
  | serializeAsUnregistered codeName target =>
    s!"'{codeName}'s 'serialize as' type {target} is not registered"
  | serializeAsNotSerializable codeName target =>
    s!"'{codeName}'s 'serialize as' type {target} is not serializable"

end RegistrationIssue

structure ParseDiagnostic where
  codeName : String
  reason : String
  deriving DecidableEq, Repr

structure ParseError where
  text : String
  target : String
  diagnostics : List ParseDiagnostic
  deriving DecidableEq, Repr

namespace ParseError

def message (error : ParseError) : String :=
  let complaints :=
    error.diagnostics.map fun complaint => s!"{complaint.codeName}: {complaint.reason}"
  s!"can't understand '{error.text}' as {error.target}" ++
    if complaints.isEmpty then "" else " (" ++ String.intercalate "; " complaints ++ ")"

end ParseError

inductive CodecError where
  | binary
  | json
  | unexpectedPayload (expected : PayloadKind)
  deriving DecidableEq, Repr

namespace CodecError

/-- The wording, given the host's names of the payload kinds. -/
def message (kindName : PayloadKind → String) : CodecError → String
  | binary => "bincode codec failed"
  | json => "json codec failed"
  | unexpectedPayload expected => s!"value payload is not a {kindName expected}"

end CodecError

structure ResolveError where
  event : String
  value : String
  candidates : List String
  deriving DecidableEq, Repr

namespace ResolveError

def message (error : ResolveError) : String :=
  s!"ambiguous {error.value} value in {error.event}: declared by unrelated types " ++
    commaList error.candidates

end ResolveError

inductive SetupError where
  | ambiguousEventValue (event value : String) (candidates : List String)
  | noEventValue (value : String) (events : List String)
  | unsupportedChange (value : String) (mode : ChangeMode)
  deriving DecidableEq, Repr

namespace SetupError

def message : SetupError → String
  | ambiguousEventValue event value candidates =>
    s!"there are multiple {value} in {event} event; declared by {commaList candidates}"
  | noEventValue value events => s!"there's no {value} in " ++ String.intercalate " or " events
  | unsupportedChange value mode => s!"{value} can't be changed with mode {mode.name}"

def ofResolveError (error : ResolveError) : SetupError :=
  ambiguousEventValue error.event error.value error.candidates

end SetupError

end HostTypes
