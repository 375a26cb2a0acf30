import HostTypes.Catalog.Basic
import HostTypes.Catalog.Order
import HostTypes.Report.Notice

/-!
The open catalog, in which modules register their types and converters, and its freezing. Freezing
puts the entries in priority order and checks that values stored as values of another type can be
stored.
-/

namespace HostTypes

structure CatalogBuilder where
  hierarchy : Hierarchy
  registration : RegistrationSettings := {}
  display : DisplaySettings := {}
  entries : List TypeEntry := []
  /-- The numbers of the entries by code name, those added last first. -/
  byCodeName : List (String × Nat) := []
  byNative : List (TypeKey × Nat) := []
  converters : List Converter := []
  issues : List RegistrationIssue := []

/-- Code names have lowercase letters, digits and underscores only, and at least one of them. -/
def isCodeName (name : String) : Bool :=
  !name.isEmpty && name.toList.all fun c => c.isLower || c.isDigit || c == '_'

namespace CatalogBuilder

def ofSettings (hierarchy : Hierarchy) (settings : Settings) : CatalogBuilder where
  hierarchy := hierarchy
  registration := settings.registration
  display := settings.display

variable (builder : CatalogBuilder)

def entryFor? (type : TypeKey) : Option TypeEntry :=
  (builder.byNative.lookup type).bind fun number => builder.entries[number]?

def entryNamed? (codeName : String) : Option TypeEntry :=
  (builder.byCodeName.lookup codeName).bind fun number => builder.entries[number]?

def parserFor? (type : TypeKey) : Option Parser :=
  (builder.entryFor? type).bind TypeEntry.parser

/-- The conflict of a new entry with a registered one: about the code name, else about the type. -/
def conflict? (entry : TypeEntry) : Option RegistryError :=
  match builder.entryNamed? entry.codeName with
  | some existing =>
    some (.duplicateName entry.codeName (builder.hierarchy.name entry.native)
      (builder.hierarchy.name existing.native))
  | none =>
    (builder.entryFor? entry.native).map fun existing =>
      .duplicateType entry.codeName (builder.hierarchy.name entry.native) existing.codeName

/-- The catalog with one more entry, to be found by its code name and by its type. -/
def append (entry : TypeEntry) : CatalogBuilder :=
  { builder with
    entries := builder.entries ++ [entry]
    byCodeName := (entry.codeName, builder.entries.length) :: builder.byCodeName
    byNative := (entry.native, builder.entries.length) :: builder.byNative }

/-- The catalog without a conflicting entry, which leaves an issue. -/
def skip (conflict : RegistryError) : CatalogBuilder :=
  { builder with issues := builder.issues ++ [.skipped conflict.message] }

def registerConverter (converter : Converter) : CatalogBuilder :=
  { builder with converters := builder.converters ++ [converter] }

end CatalogBuilder

/-- Registrations one after the other. -/
abbrev Registering := Attempt RegistryError CatalogBuilder Id

/-- Adds an entry. Where conflicts are soft, a conflicting entry is left out instead, with an
issue and a notice. -/
def registerEntry (entry : TypeEntry) : Registering (List Notice) := do
  let builder ← get
  if !isCodeName entry.codeName then throw (.invalidCodeName entry.codeName)
  match builder.conflict? entry with
  | some conflict =>
    if builder.registration.softConflicts then
      set (builder.skip conflict)
      return [.ignoredRegistration conflict]
    else throw conflict
  | none =>
    -- Only now, so the patterns of an entry that is left out are never looked at.
    match entry.compilePatterns with
    | .error pattern => throw (.invalidPattern entry.codeName pattern)
    | .ok compiled =>
      set (builder.append compiled)
      return []

/-- The catalog after an entry and the notices given, unless the entry is refused. -/
def CatalogBuilder.register (builder : CatalogBuilder) (entry : TypeEntry) :
    Except RegistryError (CatalogBuilder × List Notice) :=
  (outcomeOf (registerEntry entry) builder).map Prod.swap

def aliasIssue? (hierarchy : Hierarchy) (entries : List TypeEntry) (entry : TypeEntry) :
    Option RegistrationIssue :=
  match entry.serializeAs with
  | none => none
  | some target =>
    match entryForIn entries target with
    | none => some (.serializeAsUnregistered entry.codeName (hierarchy.name target))
    | some stored =>
      if stored.serializer.isNone then
        some (.serializeAsNotSerializable entry.codeName stored.codeName)
      else none

namespace CatalogBuilder

variable (builder : CatalogBuilder)

def dependencyIssues : List RegistrationIssue :=
  (Catalog.unresolvedNames builder.entries).map fun (codeName, missing) =>
    .unresolvedDependency codeName missing

def dependencyNotices : List Notice :=
  if builder.registration.warnUnresolved then
    (Catalog.unresolvedNames builder.entries).map fun (codeName, missing) =>
      .unresolvedDependency codeName missing
  else []

def arrange (order : List Nat) : List TypeEntry :=
  order.filterMap fun number => builder.entries[number]?

/-- Closes registration. -/
def freeze : Except RegistryError Catalog × List Notice :=
  let notices := builder.dependencyNotices
  match Catalog.resolveOrder builder.hierarchy builder.entries with
  -- Unresolved names are reported even if freezing fails.
  | .error error => (.error error, notices)
  | .ok order =>
    let entries := builder.arrange order
    let aliasIssues := entries.filterMap (aliasIssue? builder.hierarchy entries)
    let orderNotices :=
      if builder.registration.logOrder then [Notice.entryOrder (entries.map TypeEntry.codeName)]
      else []
    let catalog : Catalog :=
      { hierarchy := builder.hierarchy
        display := builder.display
        entries
        graph := ⟨builder.hierarchy, builder.converters⟩
        issues := builder.issues ++ builder.dependencyIssues ++ aliasIssues }
    (.ok catalog, notices ++ aliasIssues.map .aliasIssue ++ orderNotices)

end CatalogBuilder

end HostTypes
