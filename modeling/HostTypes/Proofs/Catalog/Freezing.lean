import HostTypes.Proofs.Catalog.Registration

/-!
What freezing leaves of an open catalog. The entries that registration let in (`entries_performAll`)
change places and nothing else (`entries_perm_of_freeze`), and as each has a code name and a type of its
own, they are found as before, by scanning as well as through tables of the new numbers
(`freeze_keeps`).
-/

namespace HostTypes

/-! ## Tables of the new numbers -/

/-- The numbers of some keys by key, those added last first. -/
def numbered {κ : Type} (keys : List κ) : List (κ × Nat) :=
  keys.zipIdx.reverse

theorem indexes_numbered {κ : Type} [BEq κ] [LawfulBEq κ] {keys : List κ} (nodup : keys.Nodup) :
    Indexes (numbered keys) keys := by
  induction keys using List.reverseRecOn with
  | nil => exact indexes_nil
  | append_singleton keys key ih =>
      have apart := List.nodup_append.1 nodup
      have fresh : key ∉ keys := fun member => apart.2.2 key member key (by simp) rfl
      have table : numbered (keys ++ [key]) = (key, keys.length) :: numbered keys := by
        simp [numbered, List.zipIdx_append]
      -- From here on it is one more registration of a new key.
      rw [table]
      exact (ih apart.1).concat fresh

namespace CatalogBuilder

/-! ## What calls add -/

/-- The entry that a call adds, if it is neither refused nor skipped with a notice. -/
def addition? (builder : CatalogBuilder) : Registration → Option TypeEntry
  | .converter _ => none
  | .entry entry =>
    match builder.register entry with
    | .ok (_, []) => some entry.ready
    | _ => none

def additions (builder : CatalogBuilder) : List Registration → List TypeEntry
  | [] => []
  | call :: rest =>
    (builder.addition? call).toList ++ (builder.perform call).additions rest

def addedConverter? : Registration → Option Converter
  | .entry _ => none
  | .converter converter => some converter

theorem entries_perform (builder : CatalogBuilder) (call : Registration) :
    (builder.perform call).entries = builder.entries ++ (builder.addition? call).toList := by
  cases call with
  | converter converter => exact (List.append_nil _).symm
  | entry entry =>
      obtain ⟨outcome, next, called⟩ := builder.exists_registers entry
      rw [addition?, called.register_eq, called.perform_eq]
      cases called with
      | unnamed | conflicting | skipped | unreadable => exact (List.append_nil _).symm
      | added => rfl

theorem entries_performAll (builder : CatalogBuilder) (calls : List Registration) :
    (builder.performAll calls).entries = builder.entries ++ builder.additions calls := by
  induction calls generalizing builder with
  | nil => exact (List.append_nil _).symm
  | cons call rest ih =>
      rw [performAll, List.foldl_cons, ← performAll, ih, entries_perform, List.append_assoc]
      rfl

theorem converters_perform (builder : CatalogBuilder) (call : Registration) :
    (builder.perform call).converters = builder.converters ++ (addedConverter? call).toList := by
  cases call with
  | converter converter => rfl
  | entry entry =>
      rw [addedConverter?, Option.toList_none, List.append_nil]
      rcases builder.perform_entry entry with same | ⟨_, same⟩ | ⟨_, _, same⟩ <;> rw [same]
      rfl

theorem converters_performAll (builder : CatalogBuilder) (calls : List Registration) :
    (builder.performAll calls).converters =
      builder.converters ++ calls.filterMap addedConverter? := by
  induction calls generalizing builder with
  | nil => simp [performAll]
  | cons call rest ih =>
      rw [performAll, List.foldl_cons, ← performAll, ih, converters_perform, List.append_assoc]
      cases call <;> rfl

end CatalogBuilder

/-! ## The statement -/

theorem freeze_keeps (hierarchy : Hierarchy) (settings : Settings) (calls : List Registration)
    (catalog : Catalog)
    (frozen : ((CatalogBuilder.ofSettings hierarchy settings).performAll calls).freeze.1 =
      .ok catalog) :
    let builder := (CatalogBuilder.ofSettings hierarchy settings).performAll calls
    builder.entries = (CatalogBuilder.ofSettings hierarchy settings).additions calls ∧
    catalog.entries.Perm builder.entries ∧ catalog.entries.Nodup ∧
    catalog.entries.length = builder.entries.length ∧
    catalog.entryFor? = builder.entryFor? ∧ catalog.parserFor? = builder.parserFor? ∧
    catalog.entryNamed? = builder.entryNamed? ∧
    (∀ type, ((numbered (catalog.entries.map TypeEntry.native)).lookup type).bind
      (catalog.entries[·]?) = builder.entryFor? type) ∧
    (∀ codeName, ((numbered (catalog.entries.map TypeEntry.codeName)).lookup codeName).bind
      (catalog.entries[·]?) = builder.entryNamed? codeName) ∧
    builder.converters = calls.filterMap CatalogBuilder.addedConverter? ∧
    catalog.graph.converters = builder.converters := by
  intro builder
  have same : catalog.entries.Perm builder.entries := CatalogBuilder.entries_perm_of_freeze frozen
  have indexed : builder.Indexed := (CatalogBuilder.indexed_ofSettings _ _).performAll calls
  have isFrozen : catalog.IsFrozen := ⟨hierarchy, settings, calls, frozen⟩
  have entryFor : catalog.entryFor? = builder.entryFor? := by
    funext type
    ext entry
    rw [isFrozen.entryFor?_eq_some_iff, indexed.entryFor?_eq_some_iff, same.mem_iff]
  have entryNamed : catalog.entryNamed? = builder.entryNamed? := by
    funext codeName
    ext entry
    rw [isFrozen.entryNamed?_eq_some_iff, indexed.entryNamed?_eq_some_iff, same.mem_iff]
  have parserFor : catalog.parserFor? = builder.parserFor? := by
    funext type
    exact congrArg (·.bind TypeEntry.parser) (congrFun entryFor type)
  obtain ⟨_, _, _, _, graph⟩ := CatalogBuilder.freeze_ok frozen
  refine ⟨CatalogBuilder.entries_performAll _ calls, same, isFrozen.natives_nodup.of_map,
    same.length_eq, entryFor, parserFor, entryNamed, fun type => ?_, fun codeName => ?_,
    CatalogBuilder.converters_performAll _ calls, congrArg ConversionGraph.converters graph⟩
  · ext entry
    rw [CatalogBuilder.lookup_bind_eq_some_iff (indexes_numbered isFrozen.natives_nodup),
      indexed.entryFor?_eq_some_iff, same.mem_iff]
  · ext entry
    rw [CatalogBuilder.lookup_bind_eq_some_iff (indexes_numbered isFrozen.codeNames_nodup),
      indexed.entryNamed?_eq_some_iff, same.mem_iff]

/-- The catalog that the calls below come to. -/
def Catalog.mixed : Catalog where
  hierarchy := .diamond
  display := {}
  entries := [{ codeName := "entity", native := ⟨3⟩ }, { codeName := "object", native := ⟨0⟩ }]
  graph :=
    ⟨.diamond,
      [{ source := ⟨0⟩, target := ⟨2⟩, apply := fun value => some ⟨⟨2⟩, value.payload⟩ },
        { source := ⟨2⟩, target := ⟨3⟩, apply := fun _ => none }]⟩
  issues := []

/-- The supertype comes first, and its code name is refused when it comes again. -/
def Catalog.mixedCalls : List Registration :=
  [.entry { codeName := "object", native := ⟨0⟩ },
    .converter { source := ⟨0⟩, target := ⟨2⟩, apply := fun value => some ⟨⟨2⟩, value.payload⟩ },
    .entry { codeName := "object", native := ⟨1⟩ },
    .entry { codeName := "entity", native := ⟨3⟩ },
    .converter { source := ⟨2⟩, target := ⟨3⟩, apply := fun _ => none }]

theorem Catalog.freeze_mixedCalls :
    ((CatalogBuilder.ofSettings .diamond {}).performAll mixedCalls).freeze.1 = .ok mixed := by
  rfl

theorem freeze_keeps_mixed :
    let builder := (CatalogBuilder.ofSettings .diamond {}).performAll Catalog.mixedCalls
    let catalog := Catalog.mixed
    builder.freeze.1 = .ok catalog ∧
      builder.entries.map TypeEntry.codeName = ["object", "entity"] ∧
      catalog.entryFor? ⟨0⟩ = builder.entryFor? ⟨0⟩ ∧ (catalog.entryFor? ⟨0⟩).isSome ∧
      catalog.entryFor? ⟨1⟩ = builder.entryFor? ⟨1⟩ ∧ (catalog.entryFor? ⟨1⟩).isNone ∧
      catalog.entryNamed? "entity" = builder.entryNamed? "entity" ∧
      catalog.entries.length = builder.entries.length ∧
      catalog.graph.converters = builder.converters := by
  intro builder catalog
  obtain ⟨_, _, _, size, entryFor, _, entryNamed, _, _, _, converters⟩ :=
    freeze_keeps .diamond {} Catalog.mixedCalls catalog Catalog.freeze_mixedCalls
  exact ⟨Catalog.freeze_mixedCalls, rfl, congrFun entryFor _, rfl, congrFun entryFor _, rfl,
    congrFun entryNamed _, size, converters⟩

end HostTypes
