import HostTypes.Proofs.Catalog.Conflicts
import HostTypes.Proofs.Catalog.Freezing

/-!
The issues of a frozen catalog. They are three reports one after the other: on the calls that left an
entry out (`issues_performAll`), on the entries as they were registered (`dependencyIssues_eq`), and on
the entries in their frozen order (`aliasIssue?_eq_some_iff`). Nothing is missing in a report and nothing
else is in it (`freeze_issues`).
-/

namespace HostTypes

/-! ## Reports -/

/-- A report on some items. In their order it has one message about each item that there is something
to say about, and none about the others. -/
inductive Reports {α β : Type} (about : α → β → Prop) : List α → List β → Prop
  | nil : Reports about [] []
  | silent {item : α} {items : List α} {messages : List β} (quiet : ∀ message, ¬ about item message)
      (rest : Reports about items messages) : Reports about (item :: items) messages
  | said {item : α} {items : List α} {message : β} {messages : List β}
      (one : ∀ other, about item other ↔ other = message) (rest : Reports about items messages) :
      Reports about (item :: items) (message :: messages)

theorem reports_filterMap {α β : Type} {f : α → Option β} {about : α → β → Prop} {items : List α}
    (agree : ∀ item ∈ items, ∀ message, f item = some message ↔ about item message) :
    Reports about items (items.filterMap f) := by
  induction items with
  | nil => exact .nil
  | cons item rest ih =>
      obtain ⟨first, others⟩ := List.forall_mem_cons.1 agree
      cases found : f item with
      | none =>
          rw [List.filterMap_cons_none found]
          refine .silent (fun message said => ?_) (ih others)
          rw [← first, found] at said
          cases said
      | some message =>
          rw [List.filterMap_cons_some found]
          refine .said (fun other => ?_) (ih others)
          rw [← first, found, Option.some.injEq, eq_comm]

/-! ## Entries that are left out -/

/-- The conflict of a new entry with one of those registered before. A type counts only where the code
name is new. -/
inductive Clash (hierarchy : Hierarchy) (registered : List TypeEntry) (entry : TypeEntry) :
    RegistryError → Prop
  | codeName {other : TypeEntry} (member : other ∈ registered)
      (same : other.codeName = entry.codeName) :
      Clash hierarchy registered entry (.duplicateName entry.codeName (hierarchy.name entry.native)
        (hierarchy.name other.native))
  | native {other : TypeEntry} (fresh : ∀ known ∈ registered, known.codeName ≠ entry.codeName)
      (member : other ∈ registered) (same : other.native = entry.native) :
      Clash hierarchy registered entry (.duplicateType entry.codeName (hierarchy.name entry.native)
        other.codeName)

namespace CatalogBuilder

variable {builder : CatalogBuilder}

theorem Indexed.conflict?_eq_some_iff (indexed : builder.Indexed) {entry : TypeEntry}
    {error : RegistryError} :
    builder.conflict? entry = some error ↔ Clash builder.hierarchy builder.entries entry error := by
  unfold conflict?
  cases named : builder.entryNamed? entry.codeName with
  | some existing =>
      obtain ⟨member, same⟩ := indexed.entryNamed?_eq_some_iff.1 named
      constructor
      · rintro ⟨⟩
        exact .codeName member same
      · rintro (⟨known, taken⟩ | ⟨fresh, _, _⟩)
        · rw [indexed.entryNamed?_eq_some_iff.2 ⟨known, taken⟩, Option.some.injEq] at named
          rw [named]
        · exact absurd same (fresh _ member)
  | none =>
      have fresh : ∀ known ∈ builder.entries, known.codeName ≠ entry.codeName := by
        intro known member same
        rw [indexed.entryNamed?_eq_some_iff.2 ⟨member, same⟩] at named
        cases named
      simp only [Option.map_eq_some_iff, indexed.entryFor?_eq_some_iff]
      constructor
      · rintro ⟨other, ⟨member, same⟩, rfl⟩
        exact .native fresh member same
      · rintro (⟨member, same⟩ | ⟨_, member, same⟩)
        · exact absurd same (fresh _ member)
        · exact ⟨_, ⟨member, same⟩, rfl⟩

/-- The issue that a call leaves behind. -/
def skipped? (builder : CatalogBuilder) : Registration → Option RegistrationIssue
  | .converter _ => none
  | .entry entry =>
    if isCodeName entry.codeName && builder.registration.softConflicts then
      (builder.conflict? entry).map fun conflict => .skipped conflict.message
    else none

theorem Indexed.skipped?_eq_some_iff (indexed : builder.Indexed) {call : Registration}
    {issue : RegistrationIssue} :
    builder.skipped? call = some issue ↔ builder.registration.softConflicts ∧
      ∃ entry error, call = .entry entry ∧ isCodeName entry.codeName ∧
        Clash builder.hierarchy builder.entries entry error ∧ issue = .skipped error.message := by
  cases call with
  | converter converter => simp [skipped?]
  | entry entry =>
      simp only [skipped?, Option.ite_none_right_eq_some, Bool.and_eq_true, Option.map_eq_some_iff,
        indexed.conflict?_eq_some_iff]
      constructor
      · rintro ⟨⟨named, soft⟩, error, clash, rfl⟩
        exact ⟨soft, entry, error, rfl, named, clash, rfl⟩
      · rintro ⟨soft, _, error, ⟨⟩, named, clash, rfl⟩
        exact ⟨⟨named, soft⟩, error, clash, rfl⟩

theorem issues_perform (builder : CatalogBuilder) (call : Registration) :
    (builder.perform call).issues = builder.issues ++ (builder.skipped? call).toList := by
  cases call with
  | converter converter => exact (List.append_nil _).symm
  | entry entry =>
      obtain ⟨outcome, next, called⟩ := builder.exists_registers entry
      rw [skipped?, called.perform_eq]
      cases called with
      | unnamed unnamed => simp [unnamed]
      | conflicting named found strict => simp [strict]
      | skipped named found soft => simp [skip, named, found, soft]
      | unreadable named free => simp [free]
      | added named free => simp [append, free]

theorem issues_performAll (builder : CatalogBuilder) (calls : List Registration) :
    (builder.performAll calls).issues =
      builder.issues ++ (List.range calls.length).filterMap fun number =>
        calls[number]?.bind (builder.performAll (calls.take number)).skipped? := by
  induction calls generalizing builder with
  | nil => exact (List.append_nil _).symm
  | cons call rest ih =>
      -- The later calls are numbered from one on, and the first one is made before each of them.
      have later : (List.range rest.length).filterMap
          ((fun number => (call :: rest)[number]?.bind
            (builder.performAll ((call :: rest).take number)).skipped?) ∘ Nat.succ) =
          (List.range rest.length).filterMap fun number =>
            rest[number]?.bind ((builder.perform call).performAll (rest.take number)).skipped? := rfl
      rw [performAll, List.foldl_cons, ← performAll, ih, issues_perform, List.append_assoc,
        List.length_cons, List.range_succ_eq_map, List.filterMap_cons, List.filterMap_map, later]
      have first : (call :: rest)[0]?.bind (builder.performAll ((call :: rest).take 0)).skipped? =
        builder.skipped? call := rfl
      rw [first]
      cases builder.skipped? call <;> rfl

end CatalogBuilder

/-! ## Names that no entry has -/

theorem Catalog.missingNames_eq (entries : List TypeEntry) (entry : TypeEntry) :
    missingNames entries entry =
      entry.after.filter (· ∉ entries.map TypeEntry.codeName) ++
        entry.before.filter (· ∉ entries.map TypeEntry.codeName) := by
  have unknown (name : String) :
      (numberOf? entries name).isNone = decide (name ∉ entries.map TypeEntry.codeName) := by
    rw [Bool.eq_iff_iff, Option.isNone_iff_eq_none, numberOf?, List.findIdx?_eq_none_iff]
    simp
  unfold missingNames
  simp only [unknown, List.filter_append]

theorem CatalogBuilder.dependencyIssues_eq (builder : CatalogBuilder) :
    builder.dependencyIssues = builder.entries.filterMap fun entry =>
      let missing := Catalog.missingNames builder.entries entry
      if missing.isEmpty then none else some (.unresolvedDependency entry.codeName missing) := by
  unfold dependencyIssues Catalog.unresolvedNames
  rw [List.map_filterMap]
  refine List.filterMap_congr fun entry _ => ?_
  dsimp only
  split <;> rfl

/-! ## Values stored as values of another type -/

/-- What is wrong with the type that the values of an entry are stored as. -/
inductive AliasFault (hierarchy : Hierarchy) (entries : List TypeEntry) (entry : TypeEntry) :
    RegistrationIssue → Prop
  | unregistered {target : TypeKey} (stored : entry.serializeAs = some target)
      (unknown : ∀ other ∈ entries, other.native ≠ target) :
      AliasFault hierarchy entries entry
        (.serializeAsUnregistered entry.codeName (hierarchy.name target))
  | unserializable {target : TypeKey} {other : TypeEntry}
      (stored : entry.serializeAs = some target) (member : other ∈ entries)
      (own : other.native = target) (bare : other.serializer = none) :
      AliasFault hierarchy entries entry
        (.serializeAsNotSerializable entry.codeName other.codeName)

theorem aliasIssue?_eq_some_iff {hierarchy : Hierarchy} {entries : List TypeEntry}
    (distinct : (entries.map TypeEntry.native).Nodup) {entry : TypeEntry}
    {issue : RegistrationIssue} :
    aliasIssue? hierarchy entries entry = some issue ↔
      AliasFault hierarchy entries entry issue := by
  have located {target : TypeKey} {other : TypeEntry} :
      entryForIn entries target = some other ↔ other ∈ entries ∧ other.native = target :=
    CatalogBuilder.find?_eq_some_iff_of_nodup distinct
  constructor
  · intro found
    unfold aliasIssue? at found
    split at found
    · cases found
    · rename_i target stored
      split at found
      · rename_i absent
        cases found
        refine .unregistered stored fun other member own => ?_
        rw [located.2 ⟨member, own⟩] at absent
        cases absent
      · rename_i other present
        obtain ⟨member, own⟩ := located.1 present
        split at found
        · rename_i bare
          cases found
          exact .unserializable stored member own (Option.isNone_iff_eq_none.1 bare)
        · cases found
  · rintro (⟨stored, unknown⟩ | ⟨stored, member, own, bare⟩)
    · have absent : entryForIn entries _ = none := Option.eq_none_iff_forall_ne_some.2
        fun other present => unknown other (located.1 present).1 (located.1 present).2
      simp only [aliasIssue?, stored, absent]
    · simp [aliasIssue?, stored, located.2 ⟨member, own⟩, bare]

/-! ## Freezing -/

namespace CatalogBuilder

theorem issues_of_freeze {builder : CatalogBuilder} {catalog : Catalog}
    (frozen : builder.freeze.1 = .ok catalog) :
    catalog.issues = builder.issues ++ builder.dependencyIssues ++
      catalog.entries.filterMap (aliasIssue? builder.hierarchy catalog.entries) := by
  obtain ⟨order, _, rfl⟩ := exists_arranged_of_freeze frozen
  rfl

/-- The open catalog with its notices of unknown names turned on or off. -/
def warning (builder : CatalogBuilder) (warn : Bool) : CatalogBuilder :=
  { builder with registration := { builder.registration with warnUnresolved := warn } }

theorem warning_perform (builder : CatalogBuilder) (warn : Bool) (call : Registration) :
    (builder.perform call).warning warn = (builder.warning warn).perform call := by
  cases call with
  | converter converter => rfl
  | entry entry => exact (perform_entry_comm (·.warning warn) rfl rfl (fun _ => rfl) rfl).symm

theorem warning_performAll (builder : CatalogBuilder) (warn : Bool) (calls : List Registration) :
    (builder.performAll calls).warning warn = (builder.warning warn).performAll calls :=
  (List.foldl_hom (·.warning warn) fun builder call => (warning_perform builder warn call).symm).symm

theorem freeze_warning (builder : CatalogBuilder) (warn : Bool) :
    (builder.warning warn).freeze.1 = builder.freeze.1 := by
  rw [freeze_eq_map_arranged, freeze_eq_map_arranged]
  rfl

end CatalogBuilder

/-! ## The statement -/

theorem freeze_issues (hierarchy : Hierarchy) (settings : Settings) (calls : List Registration)
    (catalog : Catalog)
    (frozen : ((CatalogBuilder.ofSettings hierarchy settings).performAll calls).freeze.1 =
      .ok catalog) :
    let start := CatalogBuilder.ofSettings hierarchy settings
    let registered := start.additions calls
    (∃ skipped unresolved aliases, catalog.issues = skipped ++ unresolved ++ aliases ∧
      Reports
        (fun number issue => settings.registration.softConflicts ∧
          ∃ entry error, calls[number]? = some (.entry entry) ∧ isCodeName entry.codeName ∧
            Clash hierarchy (start.additions (calls.take number)) entry error ∧
              issue = .skipped error.message)
        (List.range calls.length) skipped ∧
      Reports
        (fun entry issue =>
          let unknown (names : List String) := names.filter (· ∉ registered.map TypeEntry.codeName)
          let missing := unknown entry.after ++ unknown entry.before
          missing ≠ [] ∧ issue = .unresolvedDependency entry.codeName missing)
        registered unresolved ∧
      Reports (AliasFault hierarchy catalog.entries) catalog.entries aliases) ∧
    ∀ warn, ((CatalogBuilder.ofSettings hierarchy
      { settings with registration := { settings.registration with warnUnresolved := warn } }).performAll
        calls).freeze.1 = .ok catalog := by
  intro start registered
  have entries (made : List Registration) :
      (start.performAll made).entries = start.additions made :=
    CatalogBuilder.entries_performAll start made
  have kept (made : List Registration) : (start.performAll made).hierarchy = hierarchy :=
    CatalogBuilder.hierarchy_performAll start made
  have isFrozen : catalog.IsFrozen := ⟨hierarchy, settings, calls, frozen⟩
  have done : (start.performAll calls).freeze.1 = .ok catalog := frozen
  refine ⟨⟨_, _, _, CatalogBuilder.issues_of_freeze done, ?_, ?_, ?_⟩, fun warn => ?_⟩
  · rw [CatalogBuilder.issues_performAll]
    refine reports_filterMap fun number _ issue => ?_
    have indexed : (start.performAll (calls.take number)).Indexed :=
      (CatalogBuilder.indexed_ofSettings _ _).performAll _
    simp only [Option.bind_eq_some_iff, indexed.skipped?_eq_some_iff, entries, kept,
      CatalogBuilder.registration_performAll]
    constructor
    · rintro ⟨_, located, soft, entry, error, rfl, named, clash, rfl⟩
      exact ⟨soft, entry, error, located, named, clash, rfl⟩
    · rintro ⟨soft, entry, error, located, named, clash, rfl⟩
      exact ⟨_, located, soft, entry, error, rfl, named, clash, rfl⟩
  · rw [CatalogBuilder.dependencyIssues_eq, entries]
    refine reports_filterMap fun entry _ issue => ?_
    simp only [Catalog.missingNames_eq, Option.ite_none_left_eq_some, List.isEmpty_iff,
      Option.some.injEq]
    exact and_congr_right fun _ => eq_comm
  · rw [kept]
    exact reports_filterMap fun _ _ _ => aliasIssue?_eq_some_iff isFrozen.natives_nodup
  · have quiet := CatalogBuilder.freeze_warning (start.performAll calls) warn
    rw [CatalogBuilder.warning_performAll, done] at quiet
    exact quiet

/-- The code name of the entry that is left out counts as unknown. -/
def Catalog.clutteredCalls : List Registration :=
  [.entry { codeName := "object", native := ⟨0⟩ }, .entry { codeName := "thing", native := ⟨0⟩ },
    .entry { codeName := "named", native := ⟨1⟩, serializeAs := some ⟨2⟩ },
    .entry { codeName := "entity", native := ⟨3⟩, serializeAs := some ⟨0⟩, after := ["thing"]
             before := ["ghost", "object", "ghost"] }]

def Catalog.cluttered : Catalog where
  hierarchy := .diamond
  display := {}
  entries :=
    [{ codeName := "entity", native := ⟨3⟩, serializeAs := some ⟨0⟩, after := ["thing"]
       before := ["ghost", "object", "ghost"] },
      { codeName := "named", native := ⟨1⟩, serializeAs := some ⟨2⟩ },
      { codeName := "object", native := ⟨0⟩ }]
  graph := ⟨.diamond, []⟩
  issues :=
    [.skipped (RegistryError.duplicateType "thing" (Hierarchy.diamond.name ⟨0⟩) "object").message,
      .unresolvedDependency "entity" ["thing", "ghost", "ghost"],
      .serializeAsNotSerializable "entity" "object",
      .serializeAsUnregistered "named" (Hierarchy.diamond.name ⟨2⟩)]

def Settings.soft (warn : Bool) : Settings :=
  { registration := { softConflicts := true, warnUnresolved := warn } }

theorem Catalog.freeze_clutteredCalls :
    ((CatalogBuilder.ofSettings .diamond (.soft true)).performAll clutteredCalls).freeze.1 =
      .ok cluttered := by
  rfl

theorem freeze_issues_cluttered :
    let start (warn : Bool) := CatalogBuilder.ofSettings .diamond (.soft warn)
    ((start true).performAll Catalog.clutteredCalls).freeze.1 = .ok .cluttered ∧
      ((start false).performAll Catalog.clutteredCalls).freeze.1 = .ok .cluttered ∧
      ∃ skipped unresolved aliases,
        Catalog.cluttered.issues = skipped ++ unresolved ++ aliases ∧
        Reports (AliasFault .diamond Catalog.cluttered.entries) Catalog.cluttered.entries aliases := by
  intro start
  obtain ⟨⟨skipped, unresolved, aliases, same, _, _, faults⟩, quiet⟩ :=
    freeze_issues .diamond (.soft true) Catalog.clutteredCalls .cluttered
      Catalog.freeze_clutteredCalls
  exact ⟨Catalog.freeze_clutteredCalls, quiet false, skipped, unresolved, aliases, same, faults⟩

end HostTypes
