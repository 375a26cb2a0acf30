import HostTypes.Proofs.Catalog.RoundTrip

/-!
Values that are stored as those of another type. Freezing looks one step ahead: without a reported
issue every such type has an entry with a serializer (`exists_storedAs`). So following them from entry
to entry comes to an end or runs into a loop, of entries that all have serializers, and nothing else
goes wrong on the way (`follow_ends_iff`, `serialize_refused_iff`).
-/

namespace HostTypes

namespace Catalog

variable {catalog : Catalog}

/-! ## From entry to entry -/

/-- The values of one entry are stored as those of another. -/
def StoredAs (catalog : Catalog) (entry next : TypeEntry) : Prop :=
  ∃ target, entry.serializeAs = some target ∧ catalog.entryFor? target = some next

/-- Following an entry's alias never ends. -/
def Loops (catalog : Catalog) (entry : TypeEntry) : Prop :=
  ∃ looped, Relation.ReflTransGen catalog.StoredAs entry looped ∧
    Relation.TransGen catalog.StoredAs looped looped

theorem StoredAs.unique {entry one two : TypeEntry} (first : catalog.StoredAs entry one)
    (second : catalog.StoredAs entry two) : one = two := by
  obtain ⟨target, named, located⟩ := first
  obtain ⟨other, again, found⟩ := second
  obtain rfl : target = other := Option.some.inj (named.symm.trans again)
  exact Option.some.inj (located.symm.trans found)

theorem StoredAs.registered {entry next : TypeEntry} (step : catalog.StoredAs entry next) :
    next ∈ catalog.entries := by
  obtain ⟨_, _, located⟩ := step
  exact List.mem_of_find?_eq_some located

theorem registered_of_reaches {entry other : TypeEntry} (registered : entry ∈ catalog.entries)
    (reaches : Relation.ReflTransGen catalog.StoredAs entry other) : other ∈ catalog.entries := by
  cases reaches with
  | refl => exact registered
  | tail _ last => exact last.registered

theorem Loops.step {entry next : TypeEntry} (loops : catalog.Loops entry)
    (step : catalog.StoredAs entry next) : catalog.Loops next := by
  obtain ⟨looped, reaches, cycle⟩ := loops
  -- On the loop already, the step is the first one of the loop.
  have goes : ∃ first, catalog.StoredAs entry first ∧
      Relation.ReflTransGen catalog.StoredAs first looped := by
    rcases Relation.ReflTransGen.cases_head_iff.1 reaches with rfl | onward
    · exact Relation.TransGen.head'_iff.1 cycle
    · exact onward
  obtain ⟨first, begins, rest⟩ := goes
  exact ⟨looped, begins.unique step ▸ rest, cycle⟩

theorem Loops.reaches {entry other : TypeEntry} (loops : catalog.Loops entry)
    (reaches : Relation.ReflTransGen catalog.StoredAs entry other) : catalog.Loops other := by
  induction reaches with
  | refl => exact loops
  | tail _ step ih => exact ih.step step

theorem Loops.exists_storedAs {entry : TypeEntry} (loops : catalog.Loops entry) :
    ∃ next, catalog.StoredAs entry next := by
  obtain ⟨looped, reaches, cycle⟩ := loops
  rcases Relation.ReflTransGen.cases_head_iff.1 reaches with rfl | ⟨next, step, _⟩
  · obtain ⟨next, step, _⟩ := Relation.TransGen.head'_iff.1 cycle
    exact ⟨next, step⟩
  · exact ⟨next, step⟩

theorem not_loops_of_final {entry : TypeEntry} (final : entry.serializeAs = none) :
    ¬ catalog.Loops entry := by
  intro loops
  obtain ⟨next, target, named, _⟩ := loops.exists_storedAs
  rw [final] at named
  cases named

/-- A walk with at least as many steps as there are keys on it comes to some key twice. -/
theorem exists_recurrence {α β : Type} {step : α → α → Prop} {key : α → β} {keys : List β} {start : α}
    {rest : List α} (chain : (start :: rest).IsChain step)
    (known : ∀ member, Relation.ReflTransGen step start member → key member ∈ keys)
    (long : keys.length ≤ rest.length) :
    ∃ here there, Relation.ReflTransGen step start here ∧ Relation.TransGen step here there ∧
      key there = key here := by
  -- Otherwise the keys on the walk are pairwise different, and more than there are.
  by_contra never
  have ordered : (start :: rest).Pairwise (Relation.TransGen step) :=
    List.isChain_iff_pairwise.1 (chain.imp fun _ _ => .single)
  have reached : ∀ member ∈ start :: rest, Relation.ReflTransGen step start member := by
    intro member inside
    rcases List.mem_cons.1 inside with rfl | later
    · exact .refl
    · exact ((List.pairwise_cons.1 ordered).1 member later).to_reflTransGen
  have nodup : ((start :: rest).map key).Nodup :=
    List.pairwise_map.2 <| ordered.imp_of_mem fun inside _ path same =>
      never ⟨_, _, reached _ inside, path, same.symm⟩
  have within : (start :: rest).map key ⊆ keys := by
    intro place member
    obtain ⟨visited, inside, rfl⟩ := List.mem_map.1 member
    exact known visited (reached visited inside)
  have short := (nodup.subperm within).length_le
  rw [List.length_map, List.length_cons] at short
  omega

theorem loops_of_chain {entry : TypeEntry} {rest : List TypeEntry}
    (registered : entry ∈ catalog.entries) (chain : (entry :: rest).IsChain catalog.StoredAs)
    (long : catalog.entries.length ≤ rest.length) : catalog.Loops entry := by
  obtain ⟨here, there, reaches, cycle, rfl⟩ :=
    exists_recurrence chain (fun _ => registered_of_reaches registered) long
  exact ⟨_, reaches, cycle⟩

/-! ## Issues -/

/-- Freezing has found nothing wrong with the types that values are stored as. -/
structure AliasesAccepted (catalog : Catalog) : Prop where
  registered : ∀ codeName target, .serializeAsUnregistered codeName target ∉ catalog.issues
  serializable : ∀ codeName target, .serializeAsNotSerializable codeName target ∉ catalog.issues

theorem IsFrozen.mem_issues (frozen : catalog.IsFrozen) {entry : TypeEntry}
    {issue : RegistrationIssue} (registered : entry ∈ catalog.entries)
    (found : aliasIssue? catalog.hierarchy catalog.entries entry = some issue) :
    issue ∈ catalog.issues := by
  obtain ⟨builder, _, done⟩ := frozen.exists_builder
  obtain ⟨order, _, rfl⟩ := CatalogBuilder.exists_arranged_of_freeze done
  exact List.mem_append_right _ (List.mem_filterMap.2 ⟨entry, registered, found⟩)

theorem exists_storedAs (frozen : catalog.IsFrozen) (accepted : catalog.AliasesAccepted)
    {entry : TypeEntry} (registered : entry ∈ catalog.entries) {target : TypeKey}
    (named : entry.serializeAs = some target) :
    ∃ next, catalog.entryFor? target = some next ∧ next.serializer.isSome := by
  cases located : catalog.entryFor? target with
  | none =>
      refine absurd (frozen.mem_issues registered ?_)
        (accepted.registered entry.codeName (catalog.hierarchy.name target))
      rw [entryFor?] at located
      simp [aliasIssue?, named, located]
  | some next =>
      refine ⟨next, rfl, ?_⟩
      by_contra missing
      refine absurd (frozen.mem_issues registered ?_)
        (accepted.serializable entry.codeName next.codeName)
      rw [entryFor?] at located
      simpa [aliasIssue?, named, located] using missing

theorem StoredAs.serializable (frozen : catalog.IsFrozen) (accepted : catalog.AliasesAccepted)
    {entry next : TypeEntry} (registered : entry ∈ catalog.entries)
    (step : catalog.StoredAs entry next) : next.serializer.isSome := by
  obtain ⟨target, named, located⟩ := step
  obtain ⟨found, again, serializable⟩ := exists_storedAs frozen accepted registered named
  obtain rfl : next = found := Option.some.inj (located.symm.trans again)
  exact serializable

theorem serializable_of_follow (frozen : catalog.IsFrozen) (accepted : catalog.AliasesAccepted)
    {entry other : TypeEntry} (registered : entry ∈ catalog.entries)
    (follow : Relation.TransGen catalog.StoredAs entry other) :
    other ∈ catalog.entries ∧ other.serializer.isSome := by
  obtain ⟨before, reaches, last⟩ := Relation.TransGen.tail'_iff.1 follow
  exact ⟨last.registered,
    last.serializable frozen accepted (registered_of_reaches registered reaches)⟩

theorem ends_or_exists_chain (frozen : catalog.IsFrozen) (accepted : catalog.AliasesAccepted)
    (hops : Nat) {entry : TypeEntry} (registered : entry ∈ catalog.entries) :
    (∃ last, Relation.ReflTransGen catalog.StoredAs entry last ∧ last.serializeAs = none) ∨
      ∃ rest : List TypeEntry, rest.length = hops ∧ (entry :: rest).IsChain catalog.StoredAs := by
  induction hops generalizing entry with
  | zero => exact .inr ⟨[], rfl, .singleton _⟩
  | succ hops ih =>
      cases named : entry.serializeAs with
      | none => exact .inl ⟨entry, .refl, named⟩
      | some target =>
          obtain ⟨next, located, _⟩ := exists_storedAs frozen accepted registered named
          have step : catalog.StoredAs entry next := ⟨target, named, located⟩
          rcases ih step.registered with ⟨last, reaches, final⟩ | ⟨rest, length, chain⟩
          · exact .inl ⟨last, reaches.head step, final⟩
          · exact .inr ⟨next :: rest, by simp [length], .cons_cons step chain⟩

theorem follow_ends_iff (frozen : catalog.IsFrozen) (accepted : catalog.AliasesAccepted)
    {entry : TypeEntry} (registered : entry ∈ catalog.entries) :
    (∃ last, Relation.ReflTransGen catalog.StoredAs entry last ∧ last.serializeAs = none) ↔
      ¬ catalog.Loops entry := by
  constructor
  · rintro ⟨last, reaches, final⟩ loops
    exact not_loops_of_final final (loops.reaches reaches)
  · intro free
    rcases ends_or_exists_chain frozen accepted catalog.entries.length registered with
      ends | ⟨rest, length, chain⟩
    · exact ends
    · exact absurd (loops_of_chain registered chain length.ge) free

/-! ## Refused values -/

/-- On its way to be stored a value has come to an entry whose type it cannot be converted to. -/
def Declines (catalog : Catalog) (start : TypeEntry × Value) : Prop :=
  ∃ place target, Relation.ReflTransGen catalog.Forwards start place ∧
    place.1.serializeAs = some target ∧ catalog.graph.result? place.2 target = none

theorem Forwards.storedAs {here there : TypeEntry × Value} (forwards : catalog.Forwards here there) :
    catalog.StoredAs here.1 there.1 := by
  obtain ⟨target, named, _, located⟩ := forwards
  exact ⟨target, named, located⟩

theorem Forwards.unique {here one two : TypeEntry × Value} (first : catalog.Forwards here one)
    (second : catalog.Forwards here two) : one = two := by
  refine Prod.ext (first.storedAs.unique second.storedAs) ?_
  obtain ⟨target, named, converts, _⟩ := first
  obtain ⟨other, again, result, _⟩ := second
  obtain rfl : target = other := Option.some.inj (named.symm.trans again)
  exact Option.some.inj (converts.symm.trans result)

theorem reaches_storedAs {here there : TypeEntry × Value}
    (reaches : Relation.ReflTransGen catalog.Forwards here there) :
    Relation.ReflTransGen catalog.StoredAs here.1 there.1 :=
  reaches.lift Prod.fst fun _ _ => Forwards.storedAs

theorem total_of_reaches {here one two : TypeEntry × Value}
    (first : Relation.ReflTransGen catalog.Forwards here one)
    (second : Relation.ReflTransGen catalog.Forwards here two) :
    Relation.ReflTransGen catalog.Forwards one two ∨
      Relation.ReflTransGen catalog.Forwards two one :=
  Relation.ReflTransGen.total_of_right_unique (fun _ _ _ => Forwards.unique) first second

theorem eq_of_final {here one two : TypeEntry × Value}
    (first : Relation.ReflTransGen catalog.Forwards here one) (final : one.1.serializeAs = none)
    (second : Relation.ReflTransGen catalog.Forwards here two) (other : two.1.serializeAs = none) :
    one = two := by
  rcases total_of_reaches first second with onward | back
  · exact (eq_of_reaches final onward).symm
  · exact eq_of_reaches other back

theorem not_declines_of_final {here there : TypeEntry × Value}
    (reaches : Relation.ReflTransGen catalog.Forwards here there) (final : there.1.serializeAs = none) :
    ¬ catalog.Declines here := by
  rintro ⟨place, target, stops, named, refused⟩
  have different : place ≠ there := by
    rintro rfl
    rw [final] at named
    cases named
  rcases total_of_reaches reaches stops with onward | back
  · exact different (eq_of_reaches final onward)
  · rcases Relation.ReflTransGen.cases_head_iff.1 back with same | ⟨_, ⟨other, again, converts, _⟩, _⟩
    · exact different same
    · obtain rfl : target = other := Option.some.inj (named.symm.trans again)
      rw [refused] at converts
      cases converts

theorem storing?_refused (frozen : catalog.IsFrozen) (accepted : catalog.AliasesAccepted)
    {hops : Nat} {entry : TypeEntry} {value : Value} (registered : entry ∈ catalog.entries)
    (refused : catalog.storing? hops entry value = none) :
    catalog.Declines (entry, value) ∨
      ∃ rest : List TypeEntry, rest.length = hops ∧ (entry :: rest).IsChain catalog.StoredAs := by
  induction hops generalizing entry value with
  | zero => exact .inr ⟨[], rfl, .singleton _⟩
  | succ hops ih =>
      unfold storing? at refused
      split at refused
      · cases refused
      · rename_i target named
        obtain ⟨next, located, _⟩ := exists_storedAs frozen accepted registered named
        rw [located] at refused
        cases converts : catalog.graph.result? value target with
        | none => exact .inl ⟨(entry, value), target, .refl, named, converts⟩
        | some converted =>
            have step : catalog.Forwards (entry, value) (next, converted) :=
              ⟨target, named, converts, located⟩
            simp only [converts] at refused
            rcases ih step.storedAs.registered refused with
              ⟨place, other, reaches, declined⟩ | ⟨rest, length, chain⟩
            · exact .inl ⟨place, other, reaches.head step, declined⟩
            · exact .inr ⟨next :: rest, by simp [length], .cons_cons step.storedAs chain⟩

theorem storing?_eq_none_iff (frozen : catalog.IsFrozen) (accepted : catalog.AliasesAccepted)
    {entry : TypeEntry} (registered : entry ∈ catalog.entries) (value : Value) :
    catalog.storing? catalog.entries.length entry value = none ↔
      catalog.Declines (entry, value) ∨ catalog.Loops entry := by
  constructor
  · intro refused
    rcases storing?_refused frozen accepted registered refused with declines | ⟨rest, length, chain⟩
    · exact .inl declines
    · exact .inr (loops_of_chain registered chain length.ge)
  · intro stuck
    cases stored : catalog.storing? catalog.entries.length entry value with
    | none => rfl
    | some place =>
        obtain ⟨reaches, final⟩ := reaches_of_storing? stored
        rcases stuck with declines | loops
        · exact absurd declines (not_declines_of_final reaches final)
        · exact absurd (loops.reaches (reaches_storedAs reaches)) (not_loops_of_final final)

/-- Why a value has no stored form although an entry accepts it. -/
inductive Refuses (catalog : Catalog) (first : TypeEntry) (value : Value) : Prop
  | noSerializer (final : first.serializeAs = none) (missing : first.serializer = none)
  | declined (declines : catalog.Declines (first, value))
  | loop (loops : catalog.Loops first)
  | encoding {last : TypeEntry} {converted : Value} {serializer : Serializer} {error : CodecError}
      (reaches : Relation.ReflTransGen catalog.Forwards (first, value) (last, converted))
      (final : last.serializeAs = none) (serializes : last.serializer = some serializer)
      (failed : serializer.encode converted = .error error)

theorem registered_of_closestEntry? {type : TypeKey} {entry : TypeEntry}
    (closest : catalog.closestEntry? type = some entry) : entry ∈ catalog.entries :=
  List.mem_of_find?_eq_some ((entryAt_closestNumber? type).symm.trans closest)

theorem refuses_of_encoded? (frozen : catalog.IsFrozen) (accepted : catalog.AliasesAccepted)
    {first last : TypeEntry} {value converted : Value} (registered : first ∈ catalog.entries)
    (reaches : Relation.ReflTransGen catalog.Forwards (first, value) (last, converted))
    (final : last.serializeAs = none) (failed : last.encoded? converted = none) :
    catalog.Refuses first value := by
  unfold TypeEntry.encoded? at failed
  cases serializes : last.serializer with
  | none =>
      -- What is reached along an alias has a serializer, so the walk has not left its first entry.
      rcases Relation.reflTransGen_iff_eq_or_transGen.1 (reaches_storedAs reaches) with same | follow
      · obtain rfl : last = first := same
        exact .noSerializer final serializes
      · have serializable := (serializable_of_follow frozen accepted registered follow).2
        rw [serializes] at serializable
        cases serializable
  | some serializer =>
      cases encodes : serializer.encode converted with
      | ok bytes => simp [serializes, encodes] at failed
      | error error => exact .encoding reaches final serializes encodes

theorem storedForm?_eq_none_iff (frozen : catalog.IsFrozen) (accepted : catalog.AliasesAccepted)
    (value : Value) : catalog.storedForm? value = none ↔
      ∀ first, catalog.closestEntry? value.type = some first → catalog.Refuses first value := by
  rw [Option.eq_none_iff_forall_ne_some]
  simp only [ne_eq, storedForm?_eq_some_iff, not_exists, not_and]
  constructor
  · intro refused first closest
    have registered := registered_of_closestEntry? closest
    cases stored : catalog.storing? catalog.entries.length first value with
    | none =>
        rcases (storing?_eq_none_iff frozen accepted registered value).1 stored with
          declines | loops
        · exact .declined declines
        · exact .loop loops
    | some place =>
        obtain ⟨reaches, final⟩ := reaches_of_storing? stored
        refine refuses_of_encoded? frozen accepted registered reaches final ?_
        exact Option.eq_none_iff_forall_ne_some.2 fun bytes =>
          refused bytes first place.1 place.2 closest stored
  · intro refuses bytes first last converted closest stored encoded
    have registered := registered_of_closestEntry? closest
    obtain ⟨reaches, final⟩ := reaches_of_storing? stored
    obtain ⟨serializer, serializes, _, encodes⟩ := TypeEntry.encoded?_eq_some_iff.1 encoded
    rcases refuses first closest with ⟨own, missing⟩ | declines | loops |
      ⟨other, finalOther, again, failed⟩
    · obtain ⟨rfl, rfl⟩ := Prod.mk.inj (eq_of_reaches own reaches)
      rw [serializes] at missing
      cases missing
    · exact not_declines_of_final reaches final declines
    · exact not_loops_of_final final (loops.reaches (reaches_storedAs reaches))
    · obtain ⟨rfl, rfl⟩ := Prod.mk.inj (eq_of_final reaches final other finalOther)
      obtain rfl : serializer = _ := Option.some.inj (serializes.symm.trans again)
      rw [encodes] at failed
      cases failed

end Catalog

/-! ## The statement -/

/-- Following an alias ends at an entry that stores its own values, or never does. Of the reasons why
storing a value fails, none is an alias that leads to no entry or to one without a serializer. -/
theorem aliases_end_or_loop (env : Environment) (frozen : env.catalog.IsFrozen)
    (accepted : env.catalog.AliasesAccepted) :
    let catalog := env.catalog
    (∀ entry ∈ catalog.entries, entry.serializeAs.isSome →
      (∀ next, Relation.TransGen catalog.StoredAs entry next →
        next ∈ catalog.entries ∧ next.serializer.isSome) ∧
      ((∃ last ∈ catalog.entries, Relation.TransGen catalog.StoredAs entry last ∧
          last.serializer.isSome ∧ last.serializeAs = none) ↔ ¬ catalog.Loops entry)) ∧
    ∀ (questions : List Environment.Question) (value : Value) (onPrimary : Bool),
      let memory := env.memoryAfter questions
      ((catalog.serialize value onPrimary).run memory).1 = none ↔
        ∀ first, ((catalog.closest? value.type).run memory).1 = some first →
          catalog.Refuses first value := by
  intro catalog
  refine ⟨fun entry registered aliased => ⟨fun next follow =>
    Catalog.serializable_of_follow frozen accepted registered follow, ?_⟩, ?_⟩
  · rw [← Catalog.follow_ends_iff frozen accepted registered]
    constructor
    · rintro ⟨last, _, follow, _, final⟩
      exact ⟨last, follow.to_reflTransGen, final⟩
    · rintro ⟨last, reaches, final⟩
      rcases Relation.reflTransGen_iff_eq_or_transGen.1 reaches with rfl | follow
      · rw [final] at aliased
        cases aliased
      · obtain ⟨inside, serializable⟩ :=
          Catalog.serializable_of_follow frozen accepted registered follow
        exact ⟨last, inside, follow, serializable, final⟩
  · intro questions value onPrimary memory
    have faithful := env.faithful_memoryAfter questions
    rw [(env.computes_serialize value onPrimary memory faithful).1,
      (env.computes_closest value.type memory faithful).1]
    exact Catalog.storedForm?_eq_none_iff frozen accepted value

theorem aliases_end_or_loop_relay :
    Catalog.relay.IsFrozen ∧ Catalog.relay.AliasesAccepted ∧
      (∃ entry ∈ Catalog.relay.entries, entry.serializeAs = some ⟨1⟩ ∧
        ¬ Catalog.relay.Loops entry) ∧
      ∃ first, Catalog.relay.closestEntry? ⟨2⟩ = some first ∧
        ¬ Catalog.relay.Refuses first ⟨⟨2⟩, .truth true⟩ := by
  have accepted : Catalog.relay.AliasesAccepted := ⟨nofun, nofun⟩
  obtain ⟨follows, refused⟩ := aliases_end_or_loop .relay Catalog.relay_isFrozen accepted
  have stored : ((Catalog.relay.serialize ⟨⟨2⟩, .truth true⟩ true).run {}).1 ≠ none := by
    rw [show ((Catalog.relay.serialize ⟨⟨2⟩, .truth true⟩ true).run {}).1 =
      some ⟨"named", [1]⟩ from rfl]
    exact Option.some_ne_none _
  refine ⟨Catalog.relay_isFrozen, accepted, ⟨_, List.mem_cons_self, rfl, ?_⟩, _, rfl, ?_⟩
  · exact (follows _ List.mem_cons_self rfl).2.1
      ⟨_, List.mem_cons_of_mem _ List.mem_cons_self, .single ⟨⟨1⟩, rfl, rfl⟩, rfl, rfl⟩
  · intro refuses
    refine stored ((refused [] ⟨⟨2⟩, .truth true⟩ true).2 fun first closest => ?_)
    obtain rfl : _ = first := Option.some.inj closest
    exact refuses

/-- An entry whose values are stored as its own. -/
def TypeEntry.mirrored : TypeEntry where
  codeName := "named"
  native := ⟨1⟩
  serializer := some (.binary .truth false)
  serializeAs := some ⟨1⟩

def Catalog.mirror : Catalog where
  hierarchy := .diamond
  display := {}
  entries := [.mirrored]
  graph := ⟨.diamond, []⟩
  issues := []

theorem aliases_loop_mirror :
    Catalog.mirror.IsFrozen ∧ Catalog.mirror.AliasesAccepted ∧
      TypeEntry.mirrored ∈ Catalog.mirror.entries ∧
      (¬ ∃ last, Relation.ReflTransGen Catalog.mirror.StoredAs .mirrored last ∧
        last.serializeAs = none) ∧
      ((Catalog.mirror.serialize ⟨⟨1⟩, .truth true⟩ true).run {}).1 = none ∧
      ((Catalog.mirror.serialize ⟨⟨1⟩, .truth true⟩ true).run {}).2.notices =
        [.aliasLoop "named"] := by
  refine ⟨⟨.diamond, {}, [.entry .mirrored], rfl⟩, ⟨nofun, nofun⟩, List.mem_cons_self, ?_, rfl, rfl⟩
  rintro ⟨last, reaches, final⟩
  have again : Catalog.mirror.StoredAs .mirrored .mirrored := ⟨⟨1⟩, rfl, rfl⟩
  exact Catalog.not_loops_of_final final (Catalog.Loops.reaches ⟨_, .refl, .single again⟩ reaches)

end HostTypes
