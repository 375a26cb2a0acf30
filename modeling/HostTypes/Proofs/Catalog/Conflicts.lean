import HostTypes.Proofs.Catalog.Registration

/-!
What registering does to an open catalog. A refused call changes nothing, a skipped one leaves an issue
behind, and any other adds its entry; whatever the calls, entries are told apart and found by their code
names and by their types. Whether conflicts are soft makes no difference to the catalog: without the
issues of skipped entries, both ways come to the same (`strict_performAll`).
-/

namespace HostTypes

theorem isCodeName_iff {name : String} :
    isCodeName name = true ↔ name ≠ "" ∧
      ∀ c ∈ name.toList, ('a' ≤ c ∧ c ≤ 'z') ∨ ('0' ≤ c ∧ c ≤ '9') ∨ c = '_' := by
  have lower (c : Char) : c.isLower = (decide ('a' ≤ c) && decide (c ≤ 'z')) := rfl
  have digit (c : Char) : c.isDigit = (decide ('0' ≤ c) && decide (c ≤ '9')) := rfl
  simp only [isCodeName, Bool.and_eq_true, Bool.not_eq_true', String.isEmpty_eq_false_iff,
    List.all_eq_true, Bool.or_eq_true, lower, digit, decide_eq_true_eq, beq_iff_eq, or_assoc]

def RegistryError.isConflict : RegistryError → Bool
  | duplicateName _ _ _ | duplicateType _ _ _ => true
  | _ => false

def RegistrationIssue.isSkipped : RegistrationIssue → Bool
  | skipped _ => true
  | _ => false

def Catalog.withoutSkipped (catalog : Catalog) : Catalog :=
  { catalog with issues := catalog.issues.filter fun issue => !issue.isSkipped }

namespace CatalogBuilder

variable {builder : CatalogBuilder}

/-! ## One call -/

theorem isConflict_of_conflict? {entry : TypeEntry} {conflict : RegistryError}
    (found : builder.conflict? entry = some conflict) : conflict.isConflict := by
  unfold conflict? at found
  split at found
  · cases found
    rfl
  · obtain ⟨_, _, rfl⟩ := Option.map_eq_some_iff.1 found
    rfl

/-- The causes of a refusal, in the order in which they are looked for. -/
theorem register_eq_error_iff {entry : TypeEntry} {error : RegistryError} :
    builder.register entry = .error error ↔
      (¬ isCodeName entry.codeName ∧ error = .invalidCodeName entry.codeName) ∨
      (isCodeName entry.codeName ∧ ¬ builder.registration.softConflicts ∧
        builder.conflict? entry = some error) ∨
      (isCodeName entry.codeName ∧ builder.conflict? entry = none ∧
        ∃ pattern, entry.compilePatterns = .error pattern ∧
          error = .invalidPattern entry.codeName pattern) := by
  obtain ⟨outcome, next, called⟩ := builder.exists_registers entry
  rw [called.register_eq]
  cases called with
  | unnamed unnamed => simpa [Except.map, unnamed] using eq_comm
  | conflicting named found strict => simp [Except.map, named, found, strict]
  | skipped named found soft => simp [Except.map, named, found, soft]
  | unreadable named free compiles => simpa [Except.map, named, free, compiles] using eq_comm
  | added named free readable =>
      have compiles := compilePatterns_eq_ok_iff.2 ⟨readable, rfl⟩
      simp [Except.map, named, free, compiles]

/-- A refused entry leaves the catalog as it is. -/
theorem perform_of_error {entry : TypeEntry} {error : RegistryError}
    (refused : builder.register entry = .error error) : builder.perform (.entry entry) = builder := by
  obtain ⟨outcome, next, called⟩ := builder.exists_registers entry
  rw [called.register_eq] at refused
  rw [called.perform_eq]
  cases called with
  | unnamed | conflicting | unreadable => rfl
  | skipped | added => cases refused

/-- An entry that is not refused is left out if it conflicts with another one, and else added. -/
theorem perform_of_ok (indexed : builder.Indexed) {entry : TypeEntry} {next : CatalogBuilder}
    {notices : List Notice} (done : builder.register entry = .ok (next, notices)) :
    builder.perform (.entry entry) = next ∧
      (builder.Conflicts entry → ∃ conflict, next = builder.skip conflict) ∧
      (¬ builder.Conflicts entry → next = builder.append entry.ready) := by
  have free : builder.conflict? entry = none ↔ ¬ builder.Conflicts entry :=
    indexed.conflict?_eq_none_iff
  obtain ⟨outcome, after, called⟩ := builder.exists_registers entry
  rw [called.register_eq] at done
  rw [called.perform_eq]
  cases called with
  | unnamed | conflicting | unreadable => cases done
  | skipped named found soft =>
      cases done
      refine ⟨rfl, fun _ => ⟨_, rfl⟩, fun apart => ?_⟩
      rw [free.2 apart] at found
      cases found
  | added named none readable =>
      cases done
      exact ⟨rfl, fun conflicts => absurd conflicts (free.1 none), fun _ => rfl⟩

theorem exists_register_eq_ok_iff (indexed : builder.Indexed) {entry : TypeEntry} :
    (∃ result, builder.register entry = .ok result) ↔ isCodeName entry.codeName ∧
      (builder.Conflicts entry → builder.registration.softConflicts) ∧
        (¬ builder.Conflicts entry → entry.Readable) := by
  have conflicts : builder.Conflicts entry ↔ builder.conflict? entry ≠ none := by
    rw [ne_eq, indexed.conflict?_eq_none_iff, not_not]
  rw [conflicts]
  obtain ⟨outcome, next, called⟩ := builder.exists_registers entry
  rw [called.register_eq]
  cases called with
  | unnamed unnamed => simp [Except.map, unnamed]
  | conflicting named found strict => simp [Except.map, named, found, strict]
  | skipped named found soft => simp [Except.map, named, found, soft]
  | unreadable named free compiles =>
      have unreadable : ¬ entry.Readable := by
        intro readable
        rw [compilePatterns_eq_ok_iff.2 ⟨readable, rfl⟩] at compiles
        cases compiles
      simp [Except.map, named, free, unreadable]
  | added named free readable => simp [Except.map, named, free, readable]

/-! ## Soft and strict catalogs -/

/-- A catalog that refuses the entries it would skip. -/
def strict (builder : CatalogBuilder) : CatalogBuilder :=
  { builder with
    registration := { builder.registration with softConflicts := false }
    issues := builder.issues.filter fun issue => !issue.isSkipped }

theorem strict_skip (conflict : RegistryError) : (builder.skip conflict).strict = builder.strict := by
  simp [strict, skip, List.filter_append, RegistrationIssue.isSkipped]

/-- Of the refusals by the strict catalog, the soft one has all that are not about conflicts. -/
theorem register_eq_error_iff_strict (soft : builder.registration.softConflicts)
    {entry : TypeEntry} {error : RegistryError} :
    builder.register entry = .error error ↔
      builder.strict.register entry = .error error ∧ ¬ error.isConflict := by
  have same : builder.strict.conflict? entry = builder.conflict? entry := rfl
  rw [register_eq_error_iff, register_eq_error_iff, same]
  constructor
  · rintro (⟨unnamed, rfl⟩ | ⟨_, hard, _⟩ | ⟨named, free, pattern, unread, rfl⟩)
    · exact ⟨.inl ⟨unnamed, rfl⟩, nofun⟩
    · exact absurd soft hard
    · exact ⟨.inr (.inr ⟨named, free, pattern, unread, rfl⟩), nofun⟩
  · rintro ⟨unnamed | ⟨_, _, found⟩ | unread, other⟩
    · exact .inl unnamed
    · exact absurd (isConflict_of_conflict? found) other
    · exact .inr (.inr unread)

theorem strict_perform (builder : CatalogBuilder) (call : Registration) :
    (builder.perform call).strict = builder.strict.perform call := by
  cases call with
  | converter converter => rfl
  | entry entry =>
      obtain ⟨outcome, next, called⟩ := builder.exists_registers entry
      rw [called.perform_eq]
      symm
      cases called with
      | unnamed unnamed => exact Registers.perform_eq (.unnamed unnamed)
      | conflicting named found _ =>
          exact Registers.perform_eq (.conflicting named found Bool.false_ne_true)
      | skipped named found _ =>
          rw [strict_skip]
          exact Registers.perform_eq (.conflicting named found Bool.false_ne_true)
      | unreadable named free compiles =>
          exact Registers.perform_eq (.unreadable named free compiles)
      | added named free readable => exact Registers.perform_eq (.added named free readable)

theorem strict_performAll (builder : CatalogBuilder) (calls : List Registration) :
    (builder.performAll calls).strict = builder.strict.performAll calls :=
  (List.foldl_hom strict fun builder call => (strict_perform builder call).symm).symm

theorem arranged_strict (builder : CatalogBuilder) (order : List Nat) :
    builder.strict.arranged order = (builder.arranged order).withoutSkipped := by
  have dependencies : builder.dependencyIssues.filter (!·.isSkipped) = builder.dependencyIssues := by
    refine List.filter_eq_self.2 fun issue member => ?_
    obtain ⟨_, _, rfl⟩ := List.mem_map.1 member
    rfl
  have aliases (entries : List TypeEntry) :
      (entries.filterMap (aliasIssue? builder.hierarchy entries)).filter (!·.isSkipped) =
        entries.filterMap (aliasIssue? builder.hierarchy entries) := by
    refine List.filter_eq_self.2 fun issue member => ?_
    obtain ⟨entry, _, found⟩ := List.mem_filterMap.1 member
    unfold aliasIssue? at found
    grind [RegistrationIssue.isSkipped]
  unfold arranged Catalog.withoutSkipped
  rw [List.filter_append, List.filter_append, dependencies, aliases]
  rfl

theorem freeze_strict (builder : CatalogBuilder) :
    builder.strict.freeze.1 = builder.freeze.1.map Catalog.withoutSkipped := by
  have same : Catalog.resolveOrder builder.strict.hierarchy builder.strict.entries =
    Catalog.resolveOrder builder.hierarchy builder.entries := rfl
  rw [freeze_eq_map_arranged, freeze_eq_map_arranged, same]
  cases Catalog.resolveOrder builder.hierarchy builder.entries with
  | error error => rfl
  | ok order => exact congrArg Except.ok (arranged_strict builder order)

/-- What neither a new entry nor a converter nor an issue changes stays as it is. -/
theorem kept_performAll {α : Type} {field : CatalogBuilder → α}
    (entries : ∀ builder entry, field (append builder entry) = field builder)
    (converters : ∀ builder converter, field (registerConverter builder converter) = field builder)
    (issues : ∀ builder issues, field { builder with issues } = field builder)
    (builder : CatalogBuilder) (calls : List Registration) :
    field (builder.performAll calls) = field builder := by
  induction calls generalizing builder with
  | nil => rfl
  | cons call rest ih =>
      refine (ih (builder.perform call)).trans ?_
      cases call with
      | converter converter => exact converters builder converter
      | entry entry =>
          rcases builder.perform_entry entry with same | ⟨issue, same⟩ | ⟨_, _, same⟩ <;> rw [same]
          · exact issues builder _
          · exact entries builder _

theorem registration_performAll (builder : CatalogBuilder) (calls : List Registration) :
    (builder.performAll calls).registration = builder.registration :=
  kept_performAll (fun _ _ => rfl) (fun _ _ => rfl) (fun _ _ => rfl) builder calls

theorem hierarchy_performAll (builder : CatalogBuilder) (calls : List Registration) :
    (builder.performAll calls).hierarchy = builder.hierarchy :=
  kept_performAll (fun _ _ => rfl) (fun _ _ => rfl) (fun _ _ => rfl) builder calls

end CatalogBuilder

/-! ## The statement -/

theorem registration_consistent (hierarchy : Hierarchy) (settings : Settings)
    (calls : List Registration) :
    let start (soft : Bool) := CatalogBuilder.ofSettings hierarchy
      { settings with registration := { settings.registration with softConflicts := soft } }
    let run (soft : Bool) := (start soft).performAll calls
    (∀ soft,
      let builder := run soft
      (∀ entry ∈ builder.entries, entry.codeName ≠ "" ∧ ∀ c ∈ entry.codeName.toList,
        ('a' ≤ c ∧ c ≤ 'z') ∨ ('0' ≤ c ∧ c ≤ '9') ∨ c = '_') ∧
      (builder.entries.map TypeEntry.codeName).Nodup ∧
      (builder.entries.map TypeEntry.native).Nodup ∧
      (∀ codeName entry, builder.entryNamed? codeName = some entry ↔
        entry ∈ builder.entries ∧ entry.codeName = codeName) ∧
      (∀ type entry, builder.entryFor? type = some entry ↔
        entry ∈ builder.entries ∧ entry.native = type) ∧
      ∀ entry,
        let outcome := builder.register entry
        let after := builder.perform (.entry entry)
        ((∃ result, outcome = .ok result) ↔ isCodeName entry.codeName ∧
          (builder.Conflicts entry → soft) ∧ (¬ builder.Conflicts entry → entry.Readable)) ∧
        (∀ error, outcome = .error error → after = builder) ∧
        ∀ next notices, outcome = .ok (next, notices) → after = next ∧
          (builder.Conflicts entry → ∃ reason,
            next = { builder with issues := builder.issues ++ [.skipped reason] }) ∧
          (¬ builder.Conflicts entry → next = builder.append entry.ready)) ∧
    run false = (run true).strict ∧
    (run false).freeze.1 = (run true).freeze.1.map Catalog.withoutSkipped ∧
    ∀ entry error, (run true).register entry = .error error ↔
      (run false).register entry = .error error ∧ ¬ error.isConflict := by
  intro start run
  have indexed (soft : Bool) : (run soft).Indexed :=
    (CatalogBuilder.indexed_ofSettings _ _).performAll calls
  have same : run false = (run true).strict :=
    (CatalogBuilder.strict_performAll (start true) calls).symm
  have mode (soft : Bool) : (run soft).registration.softConflicts = soft :=
    congrArg RegistrationSettings.softConflicts (CatalogBuilder.registration_performAll _ calls)
  refine ⟨fun soft => ?_, same, ?_, fun entry error => ?_⟩
  · have sound := indexed soft
    refine ⟨fun entry member => isCodeName_iff.1 (sound.named entry member), sound.codeNames.nodup,
      sound.natives.nodup, fun _ _ => sound.entryNamed?_eq_some_iff,
      fun _ _ => sound.entryFor?_eq_some_iff, fun entry => ⟨?_, ?_, ?_⟩⟩
    · rw [CatalogBuilder.exists_register_eq_ok_iff sound, mode]
    · exact fun error => CatalogBuilder.perform_of_error
    · intro next notices done
      obtain ⟨after, skips, adds⟩ := CatalogBuilder.perform_of_ok sound done
      refine ⟨after, fun conflicts => ?_, adds⟩
      obtain ⟨conflict, left⟩ := skips conflicts
      exact ⟨conflict.message, left⟩
  · rw [same]
    exact CatalogBuilder.freeze_strict (run true)
  · rw [same]
    exact CatalogBuilder.register_eq_error_iff_strict (mode true)

end HostTypes
