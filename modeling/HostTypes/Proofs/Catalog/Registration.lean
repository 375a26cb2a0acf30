import HostTypes.Proofs.Catalog.PriorityOrder

/-!
Catalogs that come about by registration. There are five things that may come of a call for an entry
(`Registers`), and everything about registering is derived from them. The entries of an open catalog
are numbered by code name and by type without a gap or a repetition (`Indexed.performAll`), so a
frozen catalog has one entry for a type at most, and none for a strict subtype of an earlier one's type.
-/

namespace HostTypes

/-! ## Tables of numbers -/

/-- A table gives the number of every key in a list, and of no other key. -/
def Indexes {κ : Type} [BEq κ] (table : List (κ × Nat)) (keys : List κ) : Prop :=
  ∀ key number, table.lookup key = some number ↔ keys[number]? = some key

section

variable {κ : Type} [BEq κ] {table : List (κ × Nat)} {keys : List κ}

theorem indexes_nil : Indexes ([] : List (κ × Nat)) [] := by
  intro key number
  simp

theorem Indexes.nodup (indexes : Indexes table keys) : keys.Nodup := by
  rw [List.nodup_iff_getElem?_ne_getElem?]
  intro first second before bound same
  have located := List.getElem?_eq_getElem bound
  have late := (indexes keys[second] second).2 located
  have early := (indexes keys[second] first).2 (same.trans located)
  rw [early, Option.some.injEq] at late
  omega

theorem Indexes.concat [LawfulBEq κ] (indexes : Indexes table keys) {key : κ}
    (fresh : key ∉ keys) : Indexes ((key, keys.length) :: table) (keys ++ [key]) := by
  intro asked number
  by_cases same : asked = key
  · subst same
    have absent : keys[number]? ≠ some asked := fun located => fresh (List.mem_of_getElem? located)
    rw [List.lookup_cons_self, Option.some.injEq, List.getElem?_append]
    grind
  · have other : ((key, keys.length) :: table).lookup asked = table.lookup asked := by
      rw [List.lookup_cons, beq_false_of_ne same]
    rw [other, indexes asked number, List.getElem?_append]
    grind

end

/-! ## Registering -/

/-- An entry with those of its patterns compiled that can be read. -/
def TypeEntry.ready (entry : TypeEntry) : TypeEntry :=
  { entry with compiled := entry.patterns.filterMap Pattern.anchored? }

def TypeEntry.Readable (entry : TypeEntry) : Prop :=
  ∀ source ∈ entry.patterns, (Pattern.anchored? source).isSome

theorem mapM_eq_ok_iff {α β ε : Type} {f : α → Except ε β} {g : α → Option β}
    (agree : ∀ x y, f x = .ok y ↔ g x = some y) {xs : List α} {ys : List β} :
    xs.mapM f = .ok ys ↔ (∀ x ∈ xs, (g x).isSome) ∧ xs.filterMap g = ys := by
  induction xs generalizing ys with
  | nil => simp [pure, Except.pure]
  | cons x rest ih =>
      rw [List.mapM_cons, List.forall_mem_cons]
      cases first : f x with
      | error error =>
          have refused : g x = none :=
            Option.eq_none_iff_forall_ne_some.2 fun y found => by simp [(agree x y).2 found] at first
          simp [bind, Except.bind, refused]
      | ok y =>
          have found := (agree x y).1 first
          rw [List.filterMap_cons_some found, found]
          cases others : rest.mapM f with
          | error error =>
              have incomplete : ¬ ∀ x ∈ rest, (g x).isSome := by
                intro complete
                rw [ih.2 ⟨complete, rfl⟩] at others
                cases others
              simp [bind, Except.bind, incomplete]
          | ok later =>
              obtain ⟨complete, rfl⟩ := ih.1 others
              simpa [bind, Except.bind, pure, Except.pure] using fun _ => complete

theorem bind_eq_ok_iff {α β ε : Type} {x : Except ε α} {f : α → Except ε β} {y : β} :
    x >>= f = .ok y ↔ ∃ a, x = .ok a ∧ f a = .ok y := by
  cases x <;> simp [bind, Except.bind]

theorem compilePatterns_eq_ok_iff {entry compiled : TypeEntry} :
    entry.compilePatterns = .ok compiled ↔ entry.Readable ∧ compiled = entry.ready := by
  obtain ⟨read, agree, compiles⟩ : ∃ read : String → Except String Pattern,
      (∀ source pattern, read source = .ok pattern ↔ Pattern.anchored? source = some pattern) ∧
        entry.compilePatterns =
          entry.patterns.mapM read >>= fun patterns => pure { entry with compiled := patterns } := by
    refine ⟨_, fun source pattern => ?_, rfl⟩
    cases Pattern.anchored? source <;> simp
  rw [compiles, bind_eq_ok_iff]
  constructor
  · rintro ⟨patterns, done, ready⟩
    obtain ⟨readable, rfl⟩ := (mapM_eq_ok_iff agree).1 done
    exact ⟨readable, (Except.ok.inj ready).symm⟩
  · rintro ⟨readable, rfl⟩
    exact ⟨_, (mapM_eq_ok_iff agree).2 ⟨readable, rfl⟩, rfl⟩

inductive Registration where
  | entry (entry : TypeEntry)
  | converter (converter : Converter)

namespace CatalogBuilder

/-- The catalog that a call leaves, refused or not. -/
def perform (builder : CatalogBuilder) : Registration → CatalogBuilder
  | .entry entry => ((registerEntry entry).run.run builder).2
  | .converter converter => builder.registerConverter converter

def performAll (builder : CatalogBuilder) (calls : List Registration) : CatalogBuilder :=
  calls.foldl perform builder

/-- What may come of a call for an entry, and the catalog that it then leaves. -/
inductive Registers (builder : CatalogBuilder) (entry : TypeEntry) :
    Except RegistryError (List Notice) → CatalogBuilder → Prop where
  | unnamed (unnamed : ¬ isCodeName entry.codeName) :
      Registers builder entry (.error (.invalidCodeName entry.codeName)) builder
  | conflicting {conflict : RegistryError} (named : isCodeName entry.codeName)
      (found : builder.conflict? entry = some conflict)
      (strict : ¬ builder.registration.softConflicts) :
      Registers builder entry (.error conflict) builder
  | skipped {conflict : RegistryError} (named : isCodeName entry.codeName)
      (found : builder.conflict? entry = some conflict)
      (soft : builder.registration.softConflicts) :
      Registers builder entry (.ok [.ignoredRegistration conflict]) (builder.skip conflict)
  | unreadable {pattern : String} (named : isCodeName entry.codeName)
      (free : builder.conflict? entry = none) (compiles : entry.compilePatterns = .error pattern) :
      Registers builder entry (.error (.invalidPattern entry.codeName pattern)) builder
  | added (named : isCodeName entry.codeName) (free : builder.conflict? entry = none)
      (readable : entry.Readable) :
      Registers builder entry (.ok []) (builder.append entry.ready)

section

variable {builder next : CatalogBuilder} {entry : TypeEntry}
  {outcome : Except RegistryError (List Notice)}

theorem exists_registers (builder : CatalogBuilder) (entry : TypeEntry) :
    ∃ outcome next, builder.Registers entry outcome next := by
  by_cases named : isCodeName entry.codeName
  · cases found : builder.conflict? entry with
    | some conflict =>
        by_cases soft : builder.registration.softConflicts
        · exact ⟨_, _, .skipped named found soft⟩
        · exact ⟨_, _, .conflicting named found soft⟩
    | none =>
        cases compiles : entry.compilePatterns with
        | error pattern => exact ⟨_, _, .unreadable named found compiles⟩
        | ok compiled => exact ⟨_, _, .added named found (compilePatterns_eq_ok_iff.1 compiles).1⟩
  · exact ⟨_, _, .unnamed named⟩

theorem Registers.run_eq (called : builder.Registers entry outcome next) :
    (registerEntry entry).run.run builder = (outcome, next) := by
  rw [registerEntry, run_get_bind]
  cases called with
  | unnamed unnamed =>
      simp only [unnamed]
      rfl
  | conflicting named found strict =>
      simp only [named, found, strict]
      rfl
  | skipped named found soft =>
      simp only [named, found, soft]
      rfl
  | unreadable named free compiles =>
      simp only [named, free, compiles]
      rfl
  | added named free readable =>
      have compiles := compilePatterns_eq_ok_iff.2 ⟨readable, rfl⟩
      simp only [named, free, compiles]
      rfl

theorem Registers.perform_eq (called : builder.Registers entry outcome next) :
    builder.perform (.entry entry) = next :=
  congrArg Prod.snd called.run_eq

theorem Registers.register_eq (called : builder.Registers entry outcome next) :
    builder.register entry = outcome.map fun notices => (next, notices) := by
  rw [register, outcomeOf, called.run_eq]
  cases outcome <;> rfl

/-- A change of the catalog that conflicts do not depend on may as well be made after a call. -/
theorem perform_entry_comm (change : CatalogBuilder → CatalogBuilder)
    (finds : (change builder).conflict? entry = builder.conflict? entry)
    (mode : (change builder).registration.softConflicts = builder.registration.softConflicts)
    (skips : ∀ conflict, (change builder).skip conflict = change (builder.skip conflict))
    (adds : (change builder).append entry.ready = change (builder.append entry.ready)) :
    (change builder).perform (.entry entry) = change (builder.perform (.entry entry)) := by
  obtain ⟨outcome, next, called⟩ := builder.exists_registers entry
  rw [called.perform_eq]
  cases called with
  | unnamed unnamed => exact Registers.perform_eq (.unnamed unnamed)
  | conflicting named found strict =>
      exact Registers.perform_eq (.conflicting named (finds.trans found) (mode ▸ strict))
  | skipped named found soft =>
      rw [← skips]
      exact Registers.perform_eq (.skipped named (finds.trans found) (mode.trans soft))
  | unreadable named free compiles =>
      exact Registers.perform_eq (.unreadable named (finds.trans free) compiles)
  | added named free readable =>
      rw [← adds]
      exact Registers.perform_eq (.added named (finds.trans free) readable)

end

variable {builder : CatalogBuilder}

theorem perform_entry (builder : CatalogBuilder) (entry : TypeEntry) :
    builder.perform (.entry entry) = builder ∨
      (∃ issue, builder.perform (.entry entry) =
        { builder with issues := builder.issues ++ [issue] }) ∨
      (isCodeName entry.codeName ∧ builder.conflict? entry = none ∧
        builder.perform (.entry entry) = builder.append entry.ready) := by
  obtain ⟨_, _, called⟩ := builder.exists_registers entry
  rw [called.perform_eq]
  cases called with
  | unnamed | conflicting | unreadable => exact .inl rfl
  | skipped => exact .inr (.inl ⟨_, rfl⟩)
  | added named free => exact .inr (.inr ⟨named, free, rfl⟩)

/-- All entries have proper code names and are found by them and by their types. -/
structure Indexed (builder : CatalogBuilder) : Prop where
  named : ∀ entry ∈ builder.entries, isCodeName entry.codeName
  codeNames : Indexes builder.byCodeName (builder.entries.map TypeEntry.codeName)
  natives : Indexes builder.byNative (builder.entries.map TypeEntry.native)

theorem lookup_bind_eq_some_iff {κ : Type} [BEq κ] {table : List (κ × Nat)}
    {entries : List TypeEntry} {keyOf : TypeEntry → κ} (indexes : Indexes table (entries.map keyOf))
    {key : κ} {entry : TypeEntry} :
    ((table.lookup key).bind fun number => entries[number]?) = some entry ↔
      entry ∈ entries ∧ keyOf entry = key := by
  simp only [Option.bind_eq_some_iff, indexes key, List.getElem?_map, Option.map_eq_some_iff,
    List.mem_iff_getElem?]
  constructor
  · rintro ⟨number, ⟨other, located, same⟩, found⟩
    rw [located, Option.some.injEq] at found
    subst found
    exact ⟨⟨number, located⟩, same⟩
  · rintro ⟨⟨number, located⟩, same⟩
    exact ⟨number, ⟨entry, located, same⟩, located⟩

theorem find?_eq_some_iff_of_nodup {κ : Type} [BEq κ] [LawfulBEq κ] {entries : List TypeEntry}
    {keyOf : TypeEntry → κ} (nodup : (entries.map keyOf).Nodup) {key : κ} {entry : TypeEntry} :
    (entries.find? fun other => keyOf other == key) = some entry ↔
      entry ∈ entries ∧ keyOf entry = key := by
  constructor
  · intro found
    exact ⟨List.mem_of_find?_eq_some found, by simpa using List.find?_some found⟩
  · rintro ⟨member, rfl⟩
    cases found : entries.find? fun other => keyOf other == keyOf entry with
    | none => simpa using List.find?_eq_none.1 found entry member
    | some other =>
        have same : keyOf other = keyOf entry := by simpa using List.find?_some found
        rw [List.inj_on_of_nodup_map nodup (List.mem_of_find?_eq_some found) member same]

theorem Indexed.entryNamed?_eq_some_iff (indexed : builder.Indexed) {codeName : String}
    {entry : TypeEntry} :
    builder.entryNamed? codeName = some entry ↔
      entry ∈ builder.entries ∧ entry.codeName = codeName :=
  lookup_bind_eq_some_iff indexed.codeNames

theorem Indexed.entryFor?_eq_some_iff (indexed : builder.Indexed) {type : TypeKey}
    {entry : TypeEntry} :
    builder.entryFor? type = some entry ↔ entry ∈ builder.entries ∧ entry.native = type :=
  lookup_bind_eq_some_iff indexed.natives

/-- Whether an entry has the code name or the type of a registered one. -/
def Conflicts (builder : CatalogBuilder) (entry : TypeEntry) : Prop :=
  ∃ other ∈ builder.entries, other.codeName = entry.codeName ∨ other.native = entry.native

theorem Indexed.conflict?_eq_none_iff (indexed : builder.Indexed) {entry : TypeEntry} :
    builder.conflict? entry = none ↔ ¬ builder.Conflicts entry := by
  have unnamed : builder.entryNamed? entry.codeName = none ↔
      ∀ other ∈ builder.entries, other.codeName ≠ entry.codeName := by
    simp only [Option.eq_none_iff_forall_ne_some, ne_eq, indexed.entryNamed?_eq_some_iff, not_and]
  have untyped : builder.entryFor? entry.native = none ↔
      ∀ other ∈ builder.entries, other.native ≠ entry.native := by
    simp only [Option.eq_none_iff_forall_ne_some, ne_eq, indexed.entryFor?_eq_some_iff, not_and]
  unfold conflict? Conflicts
  cases named : builder.entryNamed? entry.codeName with
  | some existing =>
      obtain ⟨member, same⟩ := indexed.entryNamed?_eq_some_iff.1 named
      simp only [reduceCtorEq, false_iff, not_not]
      exact ⟨existing, member, .inl same⟩
  | none =>
      simp only [Option.map_eq_none_iff, untyped, not_exists, not_and, not_or]
      exact forall₂_congr fun other member =>
        (and_iff_right (unnamed.1 named other member)).symm

theorem Indexed.append {entry : TypeEntry} (indexed : builder.Indexed)
    (named : isCodeName entry.codeName) (free : ¬ builder.Conflicts entry) :
    (builder.append entry.ready).Indexed := by
  constructor
  · intro other member
    rcases List.mem_append.1 member with old | new
    · exact indexed.named other old
    · rw [List.mem_singleton.1 new]
      exact named
  · have fresh : entry.codeName ∉ builder.entries.map TypeEntry.codeName := by
      intro taken
      obtain ⟨other, member, same⟩ := List.mem_map.1 taken
      exact free ⟨other, member, .inl same⟩
    simpa [CatalogBuilder.append, TypeEntry.ready] using indexed.codeNames.concat fresh
  · have fresh : entry.native ∉ builder.entries.map TypeEntry.native := by
      intro taken
      obtain ⟨other, member, same⟩ := List.mem_map.1 taken
      exact free ⟨other, member, .inr same⟩
    simpa [CatalogBuilder.append, TypeEntry.ready] using indexed.natives.concat fresh

theorem Indexed.perform (indexed : builder.Indexed) (call : Registration) :
    (builder.perform call).Indexed := by
  cases call with
  | converter converter => exact ⟨indexed.named, indexed.codeNames, indexed.natives⟩
  | entry entry =>
      rcases builder.perform_entry entry with refused | ⟨_, skipped⟩ | ⟨named, free, added⟩
      · rwa [refused]
      · rw [skipped]
        exact ⟨indexed.named, indexed.codeNames, indexed.natives⟩
      · rw [added]
        exact indexed.append named (indexed.conflict?_eq_none_iff.1 free)

theorem indexed_ofSettings (hierarchy : Hierarchy) (settings : Settings) :
    (ofSettings hierarchy settings).Indexed where
  named := fun _ member => nomatch member
  codeNames := indexes_nil
  natives := indexes_nil

theorem Indexed.performAll (indexed : builder.Indexed) (calls : List Registration) :
    (builder.performAll calls).Indexed := by
  induction calls generalizing builder with
  | nil => exact indexed
  | cons call rest ih => exact ih (indexed.perform call)

end CatalogBuilder

namespace Catalog

def IsFrozen (catalog : Catalog) : Prop :=
  ∃ hierarchy settings calls,
    ((CatalogBuilder.ofSettings hierarchy settings).performAll calls).freeze.1 = .ok catalog

variable {catalog : Catalog}

theorem IsFrozen.exists_builder (frozen : catalog.IsFrozen) :
    ∃ builder : CatalogBuilder, builder.Indexed ∧ builder.freeze.1 = .ok catalog := by
  obtain ⟨hierarchy, settings, calls, done⟩ := frozen
  exact ⟨_, (CatalogBuilder.indexed_ofSettings hierarchy settings).performAll calls, done⟩

theorem IsFrozen.codeNames_nodup (frozen : catalog.IsFrozen) :
    (catalog.entries.map TypeEntry.codeName).Nodup := by
  obtain ⟨builder, indexed, done⟩ := frozen.exists_builder
  exact ((CatalogBuilder.entries_perm_of_freeze done).map _).nodup_iff.2 indexed.codeNames.nodup

theorem IsFrozen.natives_nodup (frozen : catalog.IsFrozen) :
    (catalog.entries.map TypeEntry.native).Nodup := by
  obtain ⟨builder, indexed, done⟩ := frozen.exists_builder
  exact ((CatalogBuilder.entries_perm_of_freeze done).map _).nodup_iff.2 indexed.natives.nodup

theorem IsFrozen.entryNamed?_eq_some_iff (frozen : catalog.IsFrozen) {codeName : String}
    {entry : TypeEntry} :
    catalog.entryNamed? codeName = some entry ↔
      entry ∈ catalog.entries ∧ entry.codeName = codeName :=
  CatalogBuilder.find?_eq_some_iff_of_nodup frozen.codeNames_nodup

theorem IsFrozen.entryFor?_eq_some_iff (frozen : catalog.IsFrozen) {type : TypeKey}
    {entry : TypeEntry} :
    catalog.entryFor? type = some entry ↔ entry ∈ catalog.entries ∧ entry.native = type :=
  CatalogBuilder.find?_eq_some_iff_of_nodup frozen.natives_nodup

theorem IsFrozen.sorted (frozen : catalog.IsFrozen) :
    catalog.entries.Pairwise fun earlier later =>
      ¬ catalog.hierarchy.isStrictSubtype later.native earlier.native := by
  obtain ⟨builder, indexed, done⟩ := frozen.exists_builder
  exact CatalogBuilder.entries_sorted_of_freeze indexed.codeNames.nodup done

theorem IsFrozen.hierarchy_graph (frozen : catalog.IsFrozen) :
    catalog.graph.hierarchy = catalog.hierarchy := by
  obtain ⟨builder, _, done⟩ := frozen.exists_builder
  obtain ⟨_, _, hierarchy, _, graph⟩ := CatalogBuilder.freeze_ok done
  rw [graph, hierarchy]

def diamond : Catalog where
  hierarchy := .diamond
  display := {}
  entries :=
    [{ codeName := "entity", native := ⟨3⟩ }, { codeName := "named", native := ⟨1⟩ },
      { codeName := "located", native := ⟨2⟩ },
      { codeName := "object", native := ⟨0⟩
        parser := some (.ofFunctions none (fun _ => "an object") none none none) }]
  graph := ⟨.diamond, []⟩
  issues := []

theorem diamond_isFrozen : diamond.IsFrozen := by
  refine ⟨.diamond, {}, ([3, 1, 2, 0].filterMap (diamond.entries[·]?)).map .entry, ?_⟩
  rfl

end Catalog

end HostTypes
