import HostTypes.Catalog.Builder
import HostTypes.Proofs.Catalog.Emission
import HostTypes.Proofs.Hierarchy.Reachability

/-!
The priority order of a catalog. `Precedes` states the constraints between entries without the table
that the emission works on. The table holds these constraints (`hasEdge_predecessorTable_iff`), so
the entries can be ordered exactly if the constraints have no cycle. In a frozen catalog no entry is
for a strict subtype of an earlier one's type (`entries_sorted_of_freeze`).
-/

namespace HostTypes

namespace Catalog

variable {hierarchy : Hierarchy} {entries : List TypeEntry}

/-! ## Constraints -/

/-- Whether the entry with one number has to stand before that with another. Names that no entry has
are no constraints. -/
inductive Precedes (hierarchy : Hierarchy) (entries : List TypeEntry) : Nat → Nat → Prop
  | after {first second : Nat} {entry : TypeEntry} {name : String}
      (located : entries[second]? = some entry) (named : name ∈ entry.after)
      (registered : numberOf? entries name = some first) : Precedes hierarchy entries first second
  | before {first second : Nat} {entry : TypeEntry} {name : String}
      (located : entries[first]? = some entry) (named : name ∈ entry.before)
      (registered : numberOf? entries name = some second) : Precedes hierarchy entries first second
  | subtype {first second : Nat} {sub sup : TypeEntry} (lower : entries[first]? = some sub)
      (upper : entries[second]? = some sup)
      (strict : hierarchy.isStrictSubtype sub.native sup.native) :
      Precedes hierarchy entries first second

theorem numberOf?_eq_some_iff (distinct : (entries.map TypeEntry.codeName).Nodup) {name : String}
    {number : Nat} :
    numberOf? entries name = some number ↔
      ∃ entry, entries[number]? = some entry ∧ entry.codeName = name := by
  unfold numberOf?
  rw [List.findIdx?_eq_some_iff_getElem]
  constructor
  · rintro ⟨bound, same, _⟩
    exact ⟨entries[number], List.getElem?_eq_getElem bound, by simpa using same⟩
  · rintro ⟨entry, located, rfl⟩
    obtain ⟨bound, rfl⟩ := List.getElem?_eq_some_iff.1 located
    refine ⟨bound, by simp, fun earlier before same => ?_⟩
    have twice : (entries.map TypeEntry.codeName)[earlier]? =
        (entries.map TypeEntry.codeName)[number]? := by
      simpa [bound, before.trans bound] using same
    have once := (List.getElem?_inj (by simpa using before.trans bound) distinct).1 twice
    omega

theorem precedes_iff (distinct : (entries.map TypeEntry.codeName).Nodup) {first second : Nat} :
    Precedes hierarchy entries first second ↔
      ∃ earlier later, entries[first]? = some earlier ∧ entries[second]? = some later ∧
        mustPrecede hierarchy earlier later = true := by
  simp only [mustPrecede, Bool.or_eq_true, List.contains_iff_mem]
  constructor
  · rintro (⟨located, named, registered⟩ | ⟨located, named, registered⟩ | ⟨lower, upper, strict⟩)
    · obtain ⟨other, place, rfl⟩ := (numberOf?_eq_some_iff distinct).1 registered
      exact ⟨other, _, place, located, .inl (.inl named)⟩
    · obtain ⟨other, place, rfl⟩ := (numberOf?_eq_some_iff distinct).1 registered
      exact ⟨_, other, located, place, .inl (.inr named)⟩
    · exact ⟨_, _, lower, upper, .inr strict⟩
  · rintro ⟨earlier, later, one, two, (named | named) | strict⟩
    · exact .after two named ((numberOf?_eq_some_iff distinct).2 ⟨earlier, one, rfl⟩)
    · exact .before one named ((numberOf?_eq_some_iff distinct).2 ⟨later, two, rfl⟩)
    · exact .subtype one two strict

theorem Precedes.bounded (distinct : (entries.map TypeEntry.codeName).Nodup) {first second : Nat}
    (precedes : Precedes hierarchy entries first second) :
    first < entries.length ∧ second < entries.length := by
  obtain ⟨_, _, one, two, _⟩ := (precedes_iff distinct).1 precedes
  exact ⟨(List.getElem?_eq_some_iff.1 one).1, (List.getElem?_eq_some_iff.1 two).1⟩

theorem length_predecessorTable (hierarchy : Hierarchy) (entries : List TypeEntry) :
    (predecessorTable hierarchy entries).length = entries.length :=
  List.length_map _

theorem predecessorTable_valid (hierarchy : Hierarchy) (entries : List TypeEntry) :
    IsConstraintTable (predecessorTable hierarchy entries) := by
  constructor
  · intro row member
    obtain ⟨second, _, rfl⟩ := List.mem_map.1 member
    exact List.nodup_range.filter _
  · intro row member number inside
    obtain ⟨second, _, rfl⟩ := List.mem_map.1 member
    rw [length_predecessorTable]
    exact List.mem_range.1 (List.mem_filter.1 inside).1

theorem hasEdge_predecessorTable_iff (distinct : (entries.map TypeEntry.codeName).Nodup)
    {first second : Nat} :
    hasEdge (predecessorTable hierarchy entries) first second = true ↔
      Precedes hierarchy entries first second := by
  rw [precedes_iff distinct, hasEdge_iff]
  simp only [predecessorTable, List.getElem?_map, Option.map_eq_some_iff]
  constructor
  · rintro ⟨row, ⟨later, place, rfl⟩, member⟩
    obtain ⟨_, accepted⟩ := List.mem_filter.1 member
    split at accepted
    · exact ⟨_, later, ‹_›, place, accepted⟩
    · cases accepted
  · rintro ⟨earlier, later, one, two, constrained⟩
    have bound := (List.getElem?_eq_some_iff.1 one).1
    exact ⟨_, ⟨later, two, rfl⟩, List.mem_filter.2 ⟨List.mem_range.2 bound, by simpa [one]⟩⟩

theorem edge_predecessorTable (distinct : (entries.map TypeEntry.codeName).Nodup) :
    Edge (predecessorTable hierarchy entries) = Precedes hierarchy entries :=
  funext₂ fun _ _ => propext (hasEdge_predecessorTable_iff distinct)

/-! ## The order -/

theorem resolveOrder_eq_ok_iff {order : List Nat} :
    resolveOrder hierarchy entries = .ok order ↔
      (emitAll (predecessorTable hierarchy entries)).order = order ∧
        order.length = entries.length := by
  simp only [resolveOrder]
  split
  · rename_i all
    rw [Except.ok.injEq]
    exact ⟨fun same => ⟨same, same ▸ all⟩, And.left⟩
  · rename_i incomplete
    simp only [reduceCtorEq, false_iff, not_and]
    exact fun same all => incomplete (same ▸ all)

theorem resolveOrder_ok_iff_acyclic (distinct : (entries.map TypeEntry.codeName).Nodup) :
    (∃ order, resolveOrder hierarchy entries = .ok order) ↔
      Acyclic (Precedes hierarchy entries) := by
  rw [← edge_predecessorTable distinct,
    ← length_emitAll_eq_iff (predecessorTable_valid hierarchy entries), length_predecessorTable]
  simp [resolveOrder_eq_ok_iff]

theorem perm_range_of_resolveOrder {order : List Nat}
    (resolved : resolveOrder hierarchy entries = .ok order) :
    order.Perm (List.range entries.length) := by
  obtain ⟨rfl, all⟩ := resolveOrder_eq_ok_iff.1 resolved
  have valid := predecessorTable_valid hierarchy entries
  rw [← length_predecessorTable hierarchy entries] at all ⊢
  exact ((Emission.emitAll_settled valid).1.tracks valid).perm_range all

theorem idxOf_lt_of_resolveOrder (distinct : (entries.map TypeEntry.codeName).Nodup)
    {order : List Nat} (resolved : resolveOrder hierarchy entries = .ok order) {first second : Nat}
    (precedes : Precedes hierarchy entries first second) :
    order.idxOf first < order.idxOf second := by
  have complete := perm_range_of_resolveOrder resolved
  obtain ⟨rfl, all⟩ := resolveOrder_eq_ok_iff.1 resolved
  have valid := predecessorTable_valid hierarchy entries
  have edge := (hasEdge_predecessorTable_iff distinct).2 precedes
  have bound := (hasEdge_bounded valid edge).2
  rw [length_predecessorTable] at bound
  exact ((Emission.emitAll_settled valid).1.tracks valid).idxOf_lt edge
    (complete.mem_iff.2 (List.mem_range.2 bound))

theorem acyclic_precedes_of_unnamed (hierarchy : Hierarchy)
    (unnamed : ∀ entry ∈ entries, entry.before = [] ∧ entry.after = []) :
    Acyclic (Precedes hierarchy entries) := by
  -- What is left is subtyping, which leads to types declared earlier.
  refine acyclic_of_rank
    (fun number =>
      OrderDual.toDual (entries[number]?.elim 0 fun entry : TypeEntry => entry.native.index))
    fun first second precedes => ?_
  rcases precedes with ⟨located, named, _⟩ | ⟨located, named, _⟩ | ⟨lower, upper, strict⟩
  · simp [(unnamed _ (List.mem_of_getElem? located)).2] at named
  · simp [(unnamed _ (List.mem_of_getElem? located)).1] at named
  · rw [lower, upper]
    exact Hierarchy.index_lt_of_isStrictSubtype strict

end Catalog

/-! ## Freezing -/

namespace CatalogBuilder

variable {builder : CatalogBuilder}

/-- The catalog with the entries of an open one in a given order. -/
def arranged (builder : CatalogBuilder) (order : List Nat) : Catalog where
  hierarchy := builder.hierarchy
  display := builder.display
  entries := builder.arrange order
  graph := ⟨builder.hierarchy, builder.converters⟩
  issues := builder.issues ++ builder.dependencyIssues ++
    (builder.arrange order).filterMap (aliasIssue? builder.hierarchy (builder.arrange order))

theorem freeze_eq_map_arranged (builder : CatalogBuilder) :
    builder.freeze.1 =
      (Catalog.resolveOrder builder.hierarchy builder.entries).map builder.arranged := by
  unfold freeze
  cases Catalog.resolveOrder builder.hierarchy builder.entries <;> rfl

theorem exists_arranged_of_freeze {catalog : Catalog} (frozen : builder.freeze.1 = .ok catalog) :
    ∃ order, Catalog.resolveOrder builder.hierarchy builder.entries = .ok order ∧
      builder.arranged order = catalog := by
  rw [freeze_eq_map_arranged] at frozen
  cases resolved : Catalog.resolveOrder builder.hierarchy builder.entries with
  | error error => simp [resolved, Except.map] at frozen
  | ok order => exact ⟨order, rfl, by simpa [resolved, Except.map] using frozen⟩

theorem freeze_ok {catalog : Catalog} (frozen : builder.freeze.1 = .ok catalog) :
    ∃ order, Catalog.resolveOrder builder.hierarchy builder.entries = .ok order ∧
      catalog.hierarchy = builder.hierarchy ∧ catalog.entries = builder.arrange order ∧
      catalog.graph = ⟨builder.hierarchy, builder.converters⟩ := by
  obtain ⟨order, resolved, rfl⟩ := exists_arranged_of_freeze frozen
  exact ⟨order, resolved, rfl, rfl, rfl⟩

theorem freeze_of_resolveOrder {order : List Nat}
    (resolved : Catalog.resolveOrder builder.hierarchy builder.entries = .ok order) :
    ∃ catalog, builder.freeze.1 = .ok catalog := by
  simp [freeze, resolved]

theorem filterMap_getElem?_range {α : Type} (items : List α) :
    (List.range items.length).filterMap (items[·]?) = items := by
  induction items with
  | nil => rfl
  | cons item rest ih => simpa [List.range_succ_eq_map, List.filterMap_map, Function.comp_def]

theorem arrange_perm {order : List Nat}
    (complete : order.Perm (List.range builder.entries.length)) :
    (builder.arrange order).Perm builder.entries := by
  have arranged := complete.filterMap (builder.entries[·]?)
  rwa [filterMap_getElem?_range] at arranged

theorem entries_perm_of_freeze {catalog : Catalog} (frozen : builder.freeze.1 = .ok catalog) :
    catalog.entries.Perm builder.entries := by
  obtain ⟨order, resolved, _, entries, _⟩ := freeze_ok frozen
  rw [entries]
  exact arrange_perm (Catalog.perm_range_of_resolveOrder resolved)

theorem entries_sorted_of_freeze {catalog : Catalog}
    (distinct : (builder.entries.map TypeEntry.codeName).Nodup)
    (frozen : builder.freeze.1 = .ok catalog) :
    catalog.entries.Pairwise fun earlier later =>
      ¬ catalog.hierarchy.isStrictSubtype later.native earlier.native := by
  obtain ⟨order, resolved, hierarchy, entries, _⟩ := freeze_ok frozen
  have nodup : order.Nodup :=
    (Catalog.perm_range_of_resolveOrder resolved).nodup_iff.2 List.nodup_range
  rw [entries, hierarchy, arrange, List.pairwise_filterMap, List.pairwise_iff_getElem]
  intro i j _ _ before earlier first later second strict
  have precedes := Catalog.Precedes.subtype second first strict
  have places := Catalog.idxOf_lt_of_resolveOrder distinct resolved precedes
  rw [nodup.idxOf_getElem, nodup.idxOf_getElem] at places
  omega

theorem place_lt_of_freeze {catalog : Catalog}
    (distinct : (builder.entries.map TypeEntry.codeName).Nodup)
    (frozen : builder.freeze.1 = .ok catalog) {i j : Nat} {sub sup : TypeEntry}
    (lower : catalog.entries[i]? = some sub) (upper : catalog.entries[j]? = some sup)
    (strict : catalog.hierarchy.isStrictSubtype sub.native sup.native) : i < j := by
  have sorted := entries_sorted_of_freeze distinct frozen
  obtain ⟨lowerBound, rfl⟩ := List.getElem?_eq_some_iff.1 lower
  obtain ⟨upperBound, rfl⟩ := List.getElem?_eq_some_iff.1 upper
  rcases Nat.lt_trichotomy i j with before | rfl | after
  · exact before
  · exact absurd (Hierarchy.index_lt_of_isStrictSubtype strict) (Nat.lt_irrefl _)
  · exact absurd strict (List.pairwise_iff_getElem.1 sorted j i upperBound lowerBound after)

theorem freeze_of_unnamed (distinct : (builder.entries.map TypeEntry.codeName).Nodup)
    (unnamed : ∀ entry ∈ builder.entries, entry.before = [] ∧ entry.after = []) :
    ∃ catalog, builder.freeze.1 = .ok catalog := by
  obtain ⟨order, resolved⟩ := (Catalog.resolveOrder_ok_iff_acyclic distinct).2
    (Catalog.acyclic_precedes_of_unnamed builder.hierarchy unnamed)
  exact freeze_of_resolveOrder resolved

end CatalogBuilder

/-! ## The statement -/

theorem resolveOrder_topological (hierarchy : Hierarchy) (entries : List TypeEntry)
    (distinct : (entries.map TypeEntry.codeName).Nodup) :
    ((∃ order, Catalog.resolveOrder hierarchy entries = .ok order) ↔
      Catalog.Acyclic (Catalog.Precedes hierarchy entries)) ∧
    (∀ order, Catalog.resolveOrder hierarchy entries = .ok order →
      order.Perm (List.range entries.length) ∧
      ∀ first second, Catalog.Precedes hierarchy entries first second →
        order.idxOf first < order.idxOf second) ∧
    (∀ builder : CatalogBuilder, builder.hierarchy = hierarchy → builder.entries = entries →
      (∀ entry ∈ entries, entry.before = [] ∧ entry.after = []) →
      ∃ catalog, builder.freeze.1 = .ok catalog ∧ catalog.entries.Perm entries ∧
        ∀ (i j : Nat) (sub sup : TypeEntry), catalog.entries[i]? = some sub →
          catalog.entries[j]? = some sup →
          hierarchy.isStrictSubtype sub.native sup.native → i < j) := by
  refine ⟨Catalog.resolveOrder_ok_iff_acyclic distinct, fun order resolved => ?_, ?_⟩
  · exact ⟨Catalog.perm_range_of_resolveOrder resolved,
      fun _ _ precedes => Catalog.idxOf_lt_of_resolveOrder distinct resolved precedes⟩
  · rintro builder rfl rfl unnamed
    obtain ⟨catalog, frozen⟩ := CatalogBuilder.freeze_of_unnamed distinct unnamed
    refine ⟨catalog, frozen, CatalogBuilder.entries_perm_of_freeze frozen, ?_⟩
    obtain ⟨_, _, hierarchy, _, _⟩ := CatalogBuilder.freeze_ok frozen
    intro i j sub sup lower upper strict
    exact CatalogBuilder.place_lt_of_freeze distinct frozen lower upper (hierarchy ▸ strict)

def diamondEntries : List TypeEntry :=
  [{ codeName := "object", native := ⟨0⟩ }, { codeName := "named", native := ⟨1⟩ },
    { codeName := "located", native := ⟨2⟩ }, { codeName := "entity", native := ⟨3⟩ }]

/-- The same with `located` before `named`, and a name that no entry has. -/
def locatedFirst : List TypeEntry :=
  [{ codeName := "object", native := ⟨0⟩ },
    { codeName := "named", native := ⟨1⟩, after := ["ghost", "located"] },
    { codeName := "located", native := ⟨2⟩, before := ["named"] },
    { codeName := "entity", native := ⟨3⟩ }]

theorem resolveOrder_topological_diamond :
    (locatedFirst.map TypeEntry.codeName).Nodup ∧
      Catalog.resolveOrder .diamond locatedFirst = .ok [3, 2, 1, 0] ∧
      Catalog.Acyclic (Catalog.Precedes .diamond locatedFirst) ∧
      ∃ catalog,
        ({ hierarchy := .diamond, entries := diamondEntries } : CatalogBuilder).freeze.1 =
          .ok catalog := by
  have resolved : Catalog.resolveOrder .diamond locatedFirst = .ok [3, 2, 1, 0] := by rfl
  have named := resolveOrder_topological .diamond locatedFirst (by decide)
  have unnamed := resolveOrder_topological .diamond diamondEntries (by decide)
  obtain ⟨catalog, frozen, _⟩ := unnamed.2.2 { hierarchy := .diamond, entries := diamondEntries }
    rfl rfl (by simp [diamondEntries])
  exact ⟨by decide, resolved, named.1.1 ⟨_, resolved⟩, catalog, frozen⟩

end HostTypes
