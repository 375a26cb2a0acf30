import HostTypes.Builtin.Entries
import HostTypes.Event.Expression

/-!
A host over time: the hierarchy and the catalog it builds, those it has frozen, and its
expressions. Catalogs and sets of getters keep their caches as long as anything uses them, so the
host numbers both and holds the caches beside them.
-/

namespace HostTypes

/-- Frozen getters, with their number and that of the catalog whose conversion graph they use. -/
structure FrozenEvents where
  registry : EventRegistry
  number : Nat
  catalogNumber : Nat

structure Host where
  declared : Declarations := .empty
  hierarchy : Option Hierarchy := none
  builtins : Option BuiltinTypes := none
  builder : Option CatalogBuilder := none
  /-- The catalog frozen last, with its number. -/
  catalog : Option (Catalog × Nat) := none
  /-- The caches of all catalogs by number. -/
  memories : List Memory := []
  /-- The getters registered and not frozen, with the hierarchy of their types. -/
  openGetters : Option (Hierarchy × List EventGetter) := none
  events : Option FrozenEvents := none
  /-- The caches of all sets of getters by number. -/
  getterCaches : List (Cache GetterRequest Resolution) := []
  /-- Expressions by name, each with the getters it was made for. -/
  expressions : List (String × EventExpression × FrozenEvents) := []
  /-- The notices given and the changes reported, until they are taken. -/
  notices : List Notice := []
  changes : List String := []

namespace Host

def note (host : Host) (notices : List Notice) : Host :=
  { host with notices := host.notices ++ notices }

def memoryOf (host : Host) (number : Nat) : Memory :=
  host.memories.getD number {}

def getterCacheOf (host : Host) (number : Nat) : Cache GetterRequest Resolution :=
  host.getterCaches.getD number {}

/-- Runs a query with the entry caches of one catalog and the chain cache of another, and with the
cache of a set of getters if one is given. -/
def run {α : Type} (host : Host) (catalogNumber graphNumber : Nat) (getterNumber : Option Nat)
    (query : Query α) : α × Host :=
  let own := host.memoryOf catalogNumber
  let (value, after) := query.run
    { closest := own.closest
      printing := own.printing
      chains := (host.memoryOf graphNumber).chains
      getters := (getterNumber.map host.getterCacheOf).getD {} }
  let memories := host.memories.modify catalogNumber fun memory =>
    { memory with closest := after.closest, printing := after.printing }
  let memories := memories.modify graphNumber fun memory =>
    { memory with chains := after.chains }
  let getterCaches :=
    match getterNumber with
    | some number => host.getterCaches.set number after.getters
    | none => host.getterCaches
  (value, { host with memories, getterCaches, notices := host.notices ++ after.notices })

def ask {α : Type} (host : Host) (catalogNumber : Nat) (query : Query α) : α × Host :=
  host.run catalogNumber catalogNumber none query

/-- Runs a query about frozen getters, in which the current catalog may be asked too. -/
def askEvents {α : Type} (host : Host) (events : FrozenEvents) (query : Query α) : α × Host :=
  let catalogNumber := (host.catalog.map Prod.snd).getD events.catalogNumber
  host.run catalogNumber events.catalogNumber (some events.number) query

def build (host : Host) : Host :=
  { host with declared := .empty, hierarchy := some host.declared.build }

/-- Freezes the open catalog. If that fails the catalog frozen before stays the current one. -/
def freeze (host : Host) (builder : CatalogBuilder) : Except RegistryError Catalog × Host :=
  let (outcome, notices) := builder.freeze
  let host := { host with builder := none }.note notices
  match outcome with
  | .error error => (.error error, host)
  | .ok catalog =>
    (.ok catalog,
      { host with
        catalog := some (catalog, host.memories.length)
        memories := host.memories ++ [{}] })

/-- Freezes getters, which use the conversion graph of a catalog. -/
def freezeEvents (host : Host) (catalog : Catalog) (catalogNumber : Nat) (hierarchy : Hierarchy)
    (getters : List EventGetter) : Host :=
  { host with
    openGetters := none
    events := some
      { registry := ⟨hierarchy, catalog.graph, getters⟩
        number := host.getterCaches.length
        catalogNumber }
    getterCaches := host.getterCaches ++ [{}] }

def keepExpression (host : Host) (name : String) (expression : EventExpression)
    (events : FrozenEvents) : Host :=
  { host with
    expressions :=
      (name, expression, events) :: host.expressions.filter fun row => row.1 != name }

/-- The entries of the open catalog if there is one, else those of the frozen one. -/
def visibleEntries? (host : Host) : Option (List TypeEntry) :=
  match host.builder with
  | some builder => some builder.entries
  | none => host.catalog.map fun (catalog, _) => catalog.entries

def entryFor? (host : Host) (type : TypeKey) : Option TypeEntry :=
  match host.builder with
  | some builder => builder.entryFor? type
  | none => host.catalog.bind fun (catalog, _) => catalog.entryFor? type

def parserFor? (host : Host) (type : TypeKey) : Option Parser :=
  match host.builder with
  | some builder => builder.parserFor? type
  | none => host.catalog.bind fun (catalog, _) => catalog.parserFor? type

def entryNamed? (host : Host) (codeName : String) : Option TypeEntry :=
  match host.builder with
  | some builder => builder.entryNamed? codeName
  | none => host.catalog.bind fun (catalog, _) => catalog.entryNamed? codeName

end Host

end HostTypes
