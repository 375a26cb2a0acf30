import HostTypes.Report.Error

/-!
Notices: what the library tells its host in passing, each with a level and a wording.
-/

namespace HostTypes

inductive NoticeLevel where
  | warning
  | debug
  deriving DecidableEq, Repr

inductive Notice where
  | ignoredRegistration (error : RegistryError)
  | unresolvedDependency (codeName : String) (missing : List String)
  | aliasIssue (issue : RegistrationIssue)
  | entryOrder (codeNames : List String)
  | unsuitableChain (wanted produced : String)
  | parsed (text codeName : String)
  | aliasLoop (codeName : String)
  | serializedOffPrimary (codeName : String)
  | serializeFailed (codeName : String) (error : CodecError)
  | deserializeFailed (codeName : String) (error : CodecError)
  | unknownCodeName (codeName : String)
  | ambiguousGetter (error : SetupError)
  deriving DecidableEq, Repr

namespace Notice

def level : Notice → NoticeLevel
  | entryOrder _ | unsuitableChain _ _ | parsed _ _ | unknownCodeName _ => .debug
  | _ => .warning

/-- The wording, given the host's names of the payload kinds. -/
def message (kindName : PayloadKind → String) : Notice → String
  | ignoredRegistration error =>
    s!"Ignored a registration error due to configuration: {error.message}"
  | unresolvedDependency codeName missing =>
    (RegistrationIssue.unresolvedDependency codeName missing).message
  | aliasIssue issue => issue.message
  | entryOrder codeNames => s!"Type entry order: {commaList codeNames}"
  | unsuitableChain wanted produced => s!"converter chain to {wanted} produced a {produced}"
  | parsed text codeName => s!"Parsed '{text}' as {codeName}"
  | aliasLoop codeName => s!"serialize-as loop starting at '{codeName}'"
  | serializedOffPrimary codeName =>
    s!"'{codeName}' values must be serialized on the primary context"
  | serializeFailed codeName error =>
    s!"Failed to serialize a '{codeName}' value: {error.message kindName}"
  | deserializeFailed codeName error =>
    s!"Failed to deserialize a '{codeName}' value: {error.message kindName}"
  | unknownCodeName codeName => s!"No type entry named '{codeName}', value lost"
  | ambiguousGetter error => error.message

end Notice

end HostTypes
