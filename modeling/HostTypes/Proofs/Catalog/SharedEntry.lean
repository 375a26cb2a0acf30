import HostTypes.Proofs.Catalog.ClosestEntry
import HostTypes.Proofs.Hierarchy.CommonSupertype

/-!
The entry for several types. One of their common supertypes is fixed before any entry is looked at, and
the closest entry to that type is given. If it is the least common supertype, no entry that accepts
the types is missed or passed over (`finds_of_hasLeast`). Where there is no least one, an entry for
another of them may be, and on some catalog it is (`exists_not_finds`).
-/

namespace HostTypes

namespace Catalog

variable {catalog : Catalog} {types : List TypeKey} {entry : TypeEntry}

/-- Of the entries that accept all listed types, one with none strictly more specific. -/
structure IsClosestToAll (catalog : Catalog) (types : List TypeKey) (entry : TypeEntry) : Prop where
  registered : entry ∈ catalog.entries
  accepts : catalog.hierarchy.IsCommonSupertype types entry.native
  least : ∀ other ∈ catalog.entries, catalog.hierarchy.IsCommonSupertype types other.native →
    ¬ catalog.hierarchy.isStrictSubtype other.native entry.native

/-- Whether a look-up gives an entry if any accepts all listed types, and only a closest one. -/
structure Finds (catalog : Catalog) (types : List TypeKey) (found : Option TypeEntry) : Prop where
  total : (∃ entry ∈ catalog.entries, catalog.hierarchy.IsCommonSupertype types entry.native) →
    ∃ entry, found = some entry
  closest : ∀ entry, found = some entry → catalog.IsClosestToAll types entry

def sharedBy? (catalog : Catalog) (types : List TypeKey) : Option TypeEntry :=
  (catalog.hierarchy.commonSupertype? types).bind fun common =>
    catalog.entries.find? (catalog.accepts common)

theorem sharedBy?_eq_none_iff :
    catalog.sharedBy? types = none ↔
      ∀ common, catalog.hierarchy.commonSupertype? types = some common →
        ∀ entry ∈ catalog.entries, ¬ catalog.hierarchy.isAssignable common entry.native := by
  simp only [sharedBy?, Option.bind_eq_none_iff, find?_accepts_eq_none_iff]

theorem exists_common_of_sharedBy? (frozen : catalog.IsFrozen)
    (found : catalog.sharedBy? types = some entry) :
    ∃ common, catalog.hierarchy.commonSupertype? types = some common ∧
      catalog.IsMostSpecific common (fun _ => True) entry := by
  obtain ⟨common, chosen, located⟩ := Option.bind_eq_some_iff.1 found
  exact ⟨common, chosen, closest_specific frozen located⟩

theorem accepts_of_sharedBy? (frozen : catalog.IsFrozen)
    (found : catalog.sharedBy? types = some entry) :
    catalog.hierarchy.IsCommonSupertype types entry.native := by
  obtain ⟨common, chosen, specific⟩ := exists_common_of_sharedBy? frozen found
  obtain ⟨_, shared, _⟩ := Hierarchy.commonSupertype?_eq_some_iff.1 chosen
  exact fun type listed => Hierarchy.isAssignable_trans (shared type listed) specific.accepts

/-! ## With a least common supertype -/

theorem finds_of_hasLeast (frozen : catalog.IsFrozen) (nonempty : types ≠ [])
    (hasLeast : catalog.hierarchy.HasLeast types) :
    catalog.Finds types (catalog.sharedBy? types) := by
  constructor
  · rintro ⟨entry, registered, accepts⟩
    obtain ⟨least, isLeast⟩ := hasLeast ⟨entry.native, accepts⟩
    by_contra missed
    have none := Option.eq_none_iff_forall_ne_some.2 (not_exists.1 missed)
    exact sharedBy?_eq_none_iff.1 none least (isLeast.eq_commonSupertype? nonempty) entry
      registered (isLeast.below entry.native accepts)
  · intro entry found
    have accepts := accepts_of_sharedBy? frozen found
    obtain ⟨common, chosen, specific⟩ := exists_common_of_sharedBy? frozen found
    obtain ⟨least, isLeast⟩ := hasLeast ⟨entry.native, accepts⟩
    obtain rfl : least = common :=
      Option.some.inj ((isLeast.eq_commonSupertype? nonempty).symm.trans chosen)
    exact ⟨specific.registered, accepts, fun other registered shared =>
      specific.least other registered (isLeast.below other.native shared) trivial⟩

/-! ## Without one -/

def lone (hierarchy : Hierarchy) (native : TypeKey) : Catalog where
  hierarchy := hierarchy
  display := {}
  entries := [{ codeName := "lone", native }]
  graph := ⟨hierarchy, []⟩
  issues := []

theorem lone_isFrozen (hierarchy : Hierarchy) (native : TypeKey) :
    (lone hierarchy native).IsFrozen := by
  let entry : TypeEntry := { codeName := "lone", native }
  let builder := (CatalogBuilder.ofSettings hierarchy {}).append entry
  have named : isCodeName "lone" := by decide
  have performed : (CatalogBuilder.ofSettings hierarchy {}).performAll [.entry entry] = builder :=
    CatalogBuilder.Registers.perform_eq (.added named rfl nofun)
  have unnamed : ∀ other ∈ builder.entries, other.before = [] ∧ other.after = [] := by
    intro other member
    obtain rfl : other = entry := List.mem_singleton.1 member
    exact ⟨rfl, rfl⟩
  obtain ⟨catalog, done⟩ := CatalogBuilder.freeze_of_unnamed
    (show (builder.entries.map TypeEntry.codeName).Nodup from List.nodup_singleton _) unnamed
  obtain ⟨order, resolved, rfl⟩ := CatalogBuilder.exists_arranged_of_freeze done
  obtain rfl : order = [0] := List.perm_singleton.1 (perm_range_of_resolveOrder resolved)
  exact ⟨hierarchy, {}, [.entry entry], performed ▸ done⟩

theorem exists_not_finds {hierarchy : Hierarchy} (nonempty : types ≠ [])
    (without : ¬ hierarchy.HasLeast types) :
    ∃ other, ¬ (lone hierarchy other).Finds types ((lone hierarchy other).sharedBy? types) := by
  obtain ⟨common, other, chosen, shared, apart⟩ :=
    Hierarchy.exists_not_above_of_not_hasLeast without nonempty
  -- The single entry accepts the types, but not the common supertype that is taken.
  refine ⟨other, fun finds => ?_⟩
  obtain ⟨entry, located⟩ := finds.total ⟨_, List.mem_singleton.2 rfl, shared⟩
  have missed : (lone hierarchy other).sharedBy? types = none := by
    refine sharedBy?_eq_none_iff.2 fun again same entry registered => ?_
    obtain rfl : common = again := Option.some.inj (chosen.symm.trans same)
    obtain rfl := List.mem_singleton.1 registered
    exact apart
  rw [missed] at located
  cases located

/-- A catalog with no getters beside it. -/
def alone (catalog : Catalog) : Environment :=
  ⟨catalog, ⟨catalog.hierarchy, catalog.graph, []⟩, rfl⟩

end Catalog

theorem Environment.closestToAll?_eq (env : Environment) (questions : List Environment.Question)
    (types : List TypeKey) :
    ((env.catalog.closestToAll? types).run (env.memoryAfter questions)).1 =
      env.catalog.sharedBy? types := by
  have answer := (env.computes_closestToAll types _ (env.faithful_memoryAfter questions)).1
  rw [answer, Catalog.sharedBy?]
  exact congrArg _ (funext fun common => Catalog.entryAt_closestNumber? common)

/-! ## The statement -/

theorem closestToAll_specific (env : Environment) (frozen : env.catalog.IsFrozen)
    (questions : List Environment.Question) (types : List TypeKey) (nonempty : types ≠ []) :
    let catalog := env.catalog
    let hierarchy := catalog.hierarchy
    let found := ((catalog.closestToAll? types).run (env.memoryAfter questions)).1
    (hierarchy.HasLeast types → catalog.Finds types found) ∧
    ((∀ sub one two, hierarchy.IsDirectSupertype sub one → hierarchy.IsDirectSupertype sub two →
      one = two) → hierarchy.HasLeast types) ∧
    (¬ hierarchy.HasLeast types →
      ∃ other : Environment, other.catalog.IsFrozen ∧ other.catalog.hierarchy = hierarchy ∧
        ∀ later, ¬ other.catalog.Finds types
          ((other.catalog.closestToAll? types).run (other.memoryAfter later)).1) ∧
    (found = none ↔ ∀ common, hierarchy.commonSupertype? types = some common →
      ∀ entry ∈ catalog.entries, ¬ hierarchy.isAssignable common entry.native) ∧
    ∀ entry, found = some entry → hierarchy.IsCommonSupertype types entry.native ∧
      ∃ common, hierarchy.commonSupertype? types = some common ∧
        catalog.IsMostSpecific common (fun _ => True) entry := by
  intro catalog hierarchy found
  have foundIs : found = catalog.sharedBy? types := env.closestToAll?_eq questions types
  rw [foundIs]
  refine ⟨Catalog.finds_of_hasLeast frozen nonempty,
    fun single => Hierarchy.hasLeast_of_single single nonempty, fun without => ?_,
    Catalog.sharedBy?_eq_none_iff, fun entry located => ?_⟩
  · obtain ⟨other, fails⟩ := Catalog.exists_not_finds nonempty without
    refine ⟨(Catalog.lone hierarchy other).alone, Catalog.lone_isFrozen hierarchy other, rfl,
      fun later => ?_⟩
    rw [Environment.closestToAll?_eq]
    exact fails
  · exact ⟨Catalog.accepts_of_sharedBy? frozen located,
      Catalog.exists_common_of_sharedBy? frozen located⟩

/-- Names have no entry, but places and objects do. -/
def Catalog.located : Catalog where
  hierarchy := .crossed
  display := {}
  entries := [{ codeName := "located", native := ⟨2⟩ }, { codeName := "object", native := ⟨0⟩ }]
  graph := ⟨.crossed, []⟩
  issues := []

theorem Catalog.located_isFrozen : located.IsFrozen :=
  ⟨.crossed, {}, located.entries.map .entry, rfl⟩

theorem closestToAll_specific_located :
    let catalog := Catalog.located
    let env := catalog.alone
    let found (types : List TypeKey) : Option TypeEntry :=
      ((catalog.closestToAll? types).run (env.memoryAfter [.closest ⟨3⟩])).1
    catalog.IsFrozen ∧ catalog.hierarchy.HasLeast [⟨3⟩, ⟨2⟩] ∧
      (found [⟨3⟩, ⟨2⟩]).map TypeEntry.codeName = some "located" ∧
      catalog.Finds [⟨3⟩, ⟨2⟩] (found [⟨3⟩, ⟨2⟩]) ∧
      ∃ entry, found [⟨3⟩, ⟨4⟩] = some entry ∧ entry.codeName = "object" ∧
        catalog.hierarchy.IsCommonSupertype [⟨3⟩, ⟨4⟩] entry.native ∧
        catalog.hierarchy.commonSupertype? [⟨3⟩, ⟨4⟩] = some ⟨1⟩ := by
  intro catalog env found
  have hasLeast : catalog.hierarchy.HasLeast [⟨3⟩, ⟨2⟩] := fun _ =>
    ⟨⟨2⟩, by decide, fun other common => common ⟨2⟩ (by simp)⟩
  obtain ⟨finds, _⟩ :=
    closestToAll_specific env Catalog.located_isFrozen [.closest ⟨3⟩] [⟨3⟩, ⟨2⟩] (by decide)
  obtain ⟨_, _, _, _, accepts⟩ :=
    closestToAll_specific env Catalog.located_isFrozen [.closest ⟨3⟩] [⟨3⟩, ⟨4⟩] (by decide)
  exact ⟨Catalog.located_isFrozen, hasLeast, rfl, finds hasLeast, _, rfl, rfl, (accepts _ rfl).1,
    by decide⟩

/-- Players and villagers are all located. The entry that they are given is the one for objects, and
without that one there is none. -/
theorem closestToAll_passesOver_located :
    let types : List TypeKey := [⟨3⟩, ⟨4⟩]
    let catalog := Catalog.located
    let alone := Catalog.lone .crossed ⟨2⟩
    (∀ type ∈ types, Hierarchy.crossed.contains type) ∧
      catalog.IsFrozen ∧ catalog.hierarchy = .crossed ∧
      ((catalog.closestToAll? types).run {}).1.map TypeEntry.codeName = some "object" ∧
      ¬ catalog.Finds types ((catalog.closestToAll? types).run {}).1 ∧
      alone.IsFrozen ∧ ((alone.closestToAll? types).run {}).1 = none ∧
      ¬ alone.Finds types ((alone.closestToAll? types).run {}).1 := by
  intro types catalog alone
  refine ⟨by decide, Catalog.located_isFrozen, rfl, rfl, fun finds => ?_,
    Catalog.lone_isFrozen .crossed ⟨2⟩, rfl, fun finds => ?_⟩
  · have closest := (finds.closest _ rfl).least _ List.mem_cons_self (by decide)
    exact closest (by decide)
  · obtain ⟨entry, found⟩ := finds.total ⟨_, List.mem_cons_self, by decide⟩
    cases found

end HostTypes
