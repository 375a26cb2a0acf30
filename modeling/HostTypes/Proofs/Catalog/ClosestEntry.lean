import HostTypes.Proofs.Catalog.Registration
import HostTypes.Proofs.Query.Questions

/-!
The entry for a type in a frozen catalog. The look-ups take the first entry that fits; as no entry
is for a strict subtype of an earlier one's type, the first is a most specific one
(`find?_isMostSpecific`). This holds of the closest entry and of the one that prints values, whatever
has been asked before (`closest_isMostSpecific`).
-/

namespace HostTypes

namespace Catalog

variable {catalog : Catalog}

/-- Of the entries of some kind that accept a type, one with none strictly more specific. -/
structure IsMostSpecific (catalog : Catalog) (type : TypeKey) (kind : TypeEntry → Prop)
    (entry : TypeEntry) : Prop where
  registered : entry ∈ catalog.entries
  accepts : catalog.hierarchy.isAssignable type entry.native
  ofKind : kind entry
  least : ∀ other ∈ catalog.entries, catalog.hierarchy.isAssignable type other.native →
    kind other → ¬ catalog.hierarchy.isStrictSubtype other.native entry.native

theorem find?_least {entries : List TypeEntry} {hierarchy : Hierarchy} {fits : TypeEntry → Bool}
    (sorted : entries.Pairwise fun earlier later =>
      ¬ hierarchy.isStrictSubtype later.native earlier.native)
    {entry : TypeEntry} (found : entries.find? fits = some entry) :
    ∀ other ∈ entries, fits other →
      ¬ hierarchy.isStrictSubtype other.native entry.native := by
  obtain ⟨_, earlier, later, rfl, unfit⟩ := List.find?_eq_some_iff_append.1 found
  obtain ⟨_, after, _⟩ := List.pairwise_append.1 sorted
  intro other member fit strict
  rcases List.mem_append.1 member with before | rest
  · have refused := unfit other before
    simp [fit] at refused
  · rcases List.mem_cons.1 rest with rfl | last
    · exact Nat.lt_irrefl _ (Hierarchy.index_lt_of_isStrictSubtype strict)
    · exact (List.pairwise_cons.1 after).1 other last strict

theorem find?_isMostSpecific (frozen : catalog.IsFrozen) {type : TypeKey} {fits : TypeEntry → Bool}
    {kind : TypeEntry → Prop}
    (meaning : ∀ entry, fits entry = true ↔
      kind entry ∧ catalog.hierarchy.isAssignable type entry.native)
    {entry : TypeEntry} (found : catalog.entries.find? fits = some entry) :
    catalog.IsMostSpecific type kind entry := by
  obtain ⟨ofKind, accepts⟩ := (meaning entry).1 (List.find?_some found)
  exact ⟨List.mem_of_find?_eq_some found, accepts, ofKind, fun other member usable other_kind =>
    find?_least frozen.sorted found other member ((meaning other).2 ⟨other_kind, usable⟩)⟩

theorem IsMostSpecific.eq_own (frozen : catalog.IsFrozen) {type : TypeKey} {kind : TypeEntry → Prop}
    {entry own : TypeEntry} (specific : catalog.IsMostSpecific type kind entry)
    (registered : own ∈ catalog.entries) (ownKind : kind own) (same : own.native = type) :
    entry = own := by
  have declared := Hierarchy.contains_of_isAssignable specific.accepts
  have usable : catalog.hierarchy.isAssignable type own.native := by
    rw [same]
    exact Hierarchy.isAssignable_refl declared
  have equal : own.native = entry.native := by
    by_contra different
    exact specific.least own registered usable ownKind
      (Hierarchy.isStrictSubtype_iff.2 ⟨different, same ▸ specific.accepts⟩)
  exact List.inj_on_of_nodup_map frozen.natives_nodup specific.registered registered equal.symm

theorem entryAt_findIdx? (fits : TypeEntry → Bool) :
    catalog.entryAt (catalog.entries.findIdx? fits) = catalog.entries.find? fits :=
  List.find?_eq_bind_findIdx?_getElem?.symm

theorem entryAt_closestNumber? (type : TypeKey) :
    catalog.entryAt (catalog.closestNumber? type) =
      catalog.entries.find? (catalog.accepts type) :=
  entryAt_findIdx? _

def firstPrinting? (catalog : Catalog) (type : TypeKey) : Option TypeEntry :=
  catalog.entries.find? fun entry => entry.parser.isSome && catalog.accepts type entry

theorem entryAt_printer? (type : TypeKey) :
    catalog.entryAt (catalog.printer? type) =
      (catalog.firstPrinting? type).or (catalog.entries.find? (catalog.accepts type)) := by
  rw [← entryAt_closestNumber?, firstPrinting?, ← entryAt_findIdx?, printer?, printingNumber?]
  cases located : catalog.entries.findIdx? _ with
  | none => rfl
  | some number =>
      have bound := (List.findIdx?_eq_some_iff_getElem.1 located).1
      simp [entryAt, bound]

theorem find?_accepts_eq_none_iff (type : TypeKey) :
    catalog.entries.find? (catalog.accepts type) = none ↔
      ∀ entry ∈ catalog.entries, ¬ catalog.hierarchy.isAssignable type entry.native := by
  simp only [List.find?_eq_none, accepts]

theorem firstPrinting?_eq_none_iff (type : TypeKey) :
    catalog.firstPrinting? type = none ↔ ¬ ∃ entry ∈ catalog.entries,
      catalog.hierarchy.isAssignable type entry.native ∧ entry.parser.isSome := by
  simp only [firstPrinting?, List.find?_eq_none, accepts, Bool.and_eq_true, not_exists, not_and]
  exact ⟨fun none entry member usable prints => none entry member prints usable,
    fun none entry member prints usable => none entry member usable prints⟩

theorem closest_specific (frozen : catalog.IsFrozen) {type : TypeKey} {entry : TypeEntry}
    (found : catalog.entries.find? (catalog.accepts type) = some entry) :
    catalog.IsMostSpecific type (fun _ => True) entry :=
  find?_isMostSpecific frozen (fun _ => by simp [accepts]) found

theorem printing_specific (frozen : catalog.IsFrozen) {type : TypeKey} {entry : TypeEntry}
    (found : catalog.firstPrinting? type = some entry) :
    catalog.IsMostSpecific type (fun entry => entry.parser.isSome) entry :=
  find?_isMostSpecific frozen (fun _ => by simp [accepts]) found

end Catalog

/-! ## The statement -/

theorem closest_isMostSpecific (env : Environment) (frozen : env.catalog.IsFrozen)
    (questions : List Environment.Question) (type : TypeKey) :
    let catalog := env.catalog
    let memory := env.memoryAfter questions
    let closest := ((catalog.closest? type).run memory).1
    let printing := ((catalog.printing? type).run memory).1
    (closest = none ↔
      ∀ entry ∈ catalog.entries, ¬ catalog.hierarchy.isAssignable type entry.native) ∧
    (∀ entry, closest = some entry →
      catalog.IsMostSpecific type (fun _ => True) entry ∧
      ∀ own ∈ catalog.entries, own.native = type → entry = own) ∧
    closest = (catalog.supertypeEntries type).head? ∧
    ((∃ entry ∈ catalog.entries,
        catalog.hierarchy.isAssignable type entry.native ∧ entry.parser.isSome) →
      ∃ entry, printing = some entry ∧
        catalog.IsMostSpecific type (fun entry => entry.parser.isSome) entry) ∧
    ((¬ ∃ entry ∈ catalog.entries,
        catalog.hierarchy.isAssignable type entry.native ∧ entry.parser.isSome) →
      printing = closest) ∧
    ∀ value mode flags, value.type = type →
      ((catalog.displayValue value mode flags).run memory).1 =
        match printing with
        | none => unregisteredText (catalog.hierarchy.name type) mode
        | some entry => entry.displayValue value mode flags := by
  intro catalog memory closest printing
  have faithful := env.faithful_memoryAfter questions
  have closestIs : closest = catalog.entries.find? (catalog.accepts type) :=
    (env.computes_closest type _ faithful).1.trans (Catalog.entryAt_closestNumber? type)
  have printingIs : printing = (catalog.firstPrinting? type).or closest := by
    rw [closestIs]
    exact (env.computes_printing type _ faithful).1.trans (Catalog.entryAt_printer? type)
  refine ⟨?_, ?_, ?_, ?_, ?_, ?_⟩
  · rw [closestIs]
    exact Catalog.find?_accepts_eq_none_iff type
  · intro entry found
    have specific := Catalog.closest_specific frozen (closestIs ▸ found)
    exact ⟨specific, fun own registered same => specific.eq_own frozen registered trivial same⟩
  · rw [closestIs, Catalog.supertypeEntries, List.head?_filter]
  · intro prints
    have found : catalog.firstPrinting? type ≠ none :=
      fun none => (Catalog.firstPrinting?_eq_none_iff type).1 none prints
    obtain ⟨entry, located⟩ := Option.ne_none_iff_exists'.1 found
    refine ⟨entry, ?_, Catalog.printing_specific frozen located⟩
    rw [printingIs, located, Option.some_or]
  · intro silent
    rw [printingIs, (Catalog.firstPrinting?_eq_none_iff type).2 silent, Option.none_or]
  · rintro value mode flags rfl
    have text := (env.computes_displayValue value mode flags _ faithful).1
    have same := (env.computes_printing value.type _ faithful).1
    rw [← same] at text
    exact text

def Environment.diamond : Environment :=
  ⟨.diamond, ⟨.diamond, Catalog.diamond.graph, []⟩, rfl⟩

theorem closest_isMostSpecific_diamond :
    let env := Environment.diamond
    let memory := env.memoryAfter [.display ⟨⟨3⟩, .unit⟩ .message .none]
    env.catalog.IsFrozen ∧
      (((env.catalog.closest? ⟨3⟩).run memory).1.map TypeEntry.codeName = some "entity" ∧
        ((env.catalog.printing? ⟨3⟩).run memory).1.map TypeEntry.codeName = some "object") ∧
      ((env.catalog.closest? ⟨3⟩).run memory).1 = (env.catalog.supertypeEntries ⟨3⟩).head? ∧
      ∃ entry, ((env.catalog.printing? ⟨3⟩).run memory).1 = some entry ∧
        env.catalog.IsMostSpecific ⟨3⟩ (fun entry => entry.parser.isSome) entry := by
  have specific := closest_isMostSpecific .diamond Catalog.diamond_isFrozen
    [.display ⟨⟨3⟩, .unit⟩ .message .none] ⟨3⟩
  obtain ⟨_, _, first, printing, _⟩ := specific
  refine ⟨Catalog.diamond_isFrozen, ⟨by rfl, by rfl⟩, first, printing ?_⟩
  exact ⟨_, List.mem_of_getElem? (i := 3) rfl, by decide, rfl⟩

end HostTypes
