import HostTypes.Proofs.Catalog.ClosestEntry

/-!
Storing and loading. A value is stored by the entry at the end of the way that leads from its closest
entry along the types that values are stored as, and the code name of the stored form leads back to
that entry. So what the serializer of this entry decodes as it was encoded is loaded as it was stored
(`deserialize_serialize`).
-/

namespace HostTypes

theorem TypeEntry.encoded?_eq_some_iff {entry : TypeEntry} {value : Value} {stored : StoredValue} :
    entry.encoded? value = some stored ↔
      ∃ serializer, entry.serializer = some serializer ∧ entry.codeName = stored.codeName ∧
        serializer.encode value = .ok stored.bytes := by
  obtain ⟨codeName, bytes⟩ := stored
  unfold encoded?
  cases entry.serializer with
  | none => simp
  | some serializer =>
      cases encoded : serializer.encode value with
      | error error => simp [encoded]
      | ok written => simp [encoded]

/-- Whatever is encoded has the same payload when it is decoded as a value of the type. -/
def Serializer.Restores (serializer : Serializer) (native : TypeKey) : Prop :=
  ∀ value bytes, serializer.encode value = .ok bytes →
    serializer.decode native bytes = .ok ⟨native, value.payload⟩

/-- Hands the bytes of a stored form to a serializer. If it fails, there is a notice. -/
def Serializer.load (serializer : Serializer) (native : TypeKey) (stored : StoredValue) :
    Query (Option Value) := do
  match serializer.decode native stored.bytes with
  | .ok value => return some value
  | .error error =>
    notify (.deserializeFailed stored.codeName error)
    return none

namespace Catalog

variable {catalog : Catalog}

/-- One step of the way on which a value is stored: it is converted to the type that the values of an
entry are stored as, and passed on to the entry of that type. -/
def Forwards (catalog : Catalog) : TypeEntry × Value → TypeEntry × Value → Prop
  | (entry, value), (next, converted) =>
    ∃ target, entry.serializeAs = some target ∧ catalog.graph.result? value target = some converted ∧
      catalog.entryFor? target = some next

/-- A walk that succeeds is over, or takes a step and goes on from there. -/
theorem storing?_cases {hops : Nat} {entry : TypeEntry} {value : Value} {place : TypeEntry × Value}
    (stored : catalog.storing? hops entry value = some place) :
    (entry.serializeAs = none ∧ place = (entry, value)) ∨
      ∃ fewer next, hops = fewer + 1 ∧ catalog.Forwards (entry, value) next ∧
        catalog.storing? fewer next.1 next.2 = some place := by
  unfold storing? at stored
  split at stored
  · rename_i final
    exact .inl ⟨final, (Option.some.inj stored).symm⟩
  · rename_i target named
    split at stored
    · cases stored
    · rename_i fewer
      split at stored
      · cases stored
      · rename_i converted converts
        split at stored
        · cases stored
        · rename_i next located
          exact .inr ⟨fewer, (next, converted), rfl, ⟨target, named, converts, located⟩, stored⟩

theorem reaches_of_storing? {hops : Nat} {entry : TypeEntry} {value : Value}
    {place : TypeEntry × Value} (stored : catalog.storing? hops entry value = some place) :
    Relation.ReflTransGen catalog.Forwards (entry, value) place ∧ place.1.serializeAs = none := by
  induction hops generalizing entry value with
  | zero =>
      rcases storing?_cases stored with ⟨final, rfl⟩ | ⟨_, _, impossible, _⟩
      · exact ⟨.refl, final⟩
      · cases impossible
  | succ hops ih =>
      rcases storing?_cases stored with ⟨final, rfl⟩ | ⟨fewer, next, same, forwards, rest⟩
      · exact ⟨.refl, final⟩
      · cases same
        obtain ⟨reaches, final⟩ := ih rest
        exact ⟨reaches.head forwards, final⟩

/-- The walk has come to an entry that can take the value. -/
def Holds (catalog : Catalog) (place : TypeEntry × Value) : Prop :=
  place.1 ∈ catalog.entries ∧ catalog.hierarchy.isAssignable place.2.type place.1.native

theorem Forwards.holds (frozen : catalog.IsFrozen) {here there : TypeEntry × Value}
    (forwards : catalog.Forwards here there) : catalog.Holds there := by
  obtain ⟨entry, value⟩ := here
  obtain ⟨next, converted⟩ := there
  obtain ⟨target, _, converts, located⟩ := forwards
  have native : next.native = target := by
    simpa using List.find?_some located
  refine ⟨List.mem_of_find?_eq_some located, ?_⟩
  rw [native, ← frozen.hierarchy_graph]
  exact ConversionGraph.isAssignable_of_result? converts

theorem holds_of_reaches (frozen : catalog.IsFrozen) {here there : TypeEntry × Value}
    (holds : catalog.Holds here) (reaches : Relation.ReflTransGen catalog.Forwards here there) :
    catalog.Holds there := by
  cases reaches with
  | refl => exact holds
  | tail _ last => exact last.holds frozen

/-- An entry that stores its own values ends the walk at once. -/
theorem eq_of_reaches {here there : TypeEntry × Value} (final : here.1.serializeAs = none)
    (reaches : Relation.ReflTransGen catalog.Forwards here there) : there = here := by
  rcases Relation.ReflTransGen.cases_head_iff.1 reaches with same | ⟨next, first, _⟩
  · exact same.symm
  · obtain ⟨target, named, _⟩ := first
    rw [final] at named
    cases named

theorem storedForm?_eq_some_iff {value : Value} {stored : StoredValue} :
    catalog.storedForm? value = some stored ↔
      ∃ first last result, catalog.closestEntry? value.type = some first ∧
        catalog.storing? catalog.entries.length first value = some (last, result) ∧
        last.encoded? result = some stored := by
  unfold storedForm?
  cases catalog.closestEntry? value.type with
  | none => simp
  | some first =>
      cases walk : catalog.storing? catalog.entries.length first value with
      | none => simp [walk]
      | some place =>
          obtain ⟨last, result⟩ := place
          simp [walk]

theorem entryNamed?_codeName (frozen : catalog.IsFrozen) {entry : TypeEntry}
    (registered : entry ∈ catalog.entries) : catalog.entryNamed? entry.codeName = some entry :=
  frozen.entryNamed?_eq_some_iff.2 ⟨registered, rfl⟩

theorem deserialize_eq_load {stored : StoredValue} {entry : TypeEntry} {serializer : Serializer}
    (named : catalog.entryNamed? stored.codeName = some entry)
    (serializes : entry.serializer = some serializer) :
    catalog.deserialize stored = serializer.load entry.native stored := by
  unfold deserialize
  simp only [named, serializes]
  rfl

/-- How a stored form comes about. The closest entry of the value leads to the one whose serializer
encodes what has become of the value on the way. -/
structure Stores (catalog : Catalog) (value : Value) (stored : StoredValue) (first entry : TypeEntry)
    (serializer : Serializer) (encoded : Value) : Prop where
  closest : catalog.closestEntry? value.type = some first
  specific : catalog.IsMostSpecific value.type (fun _ => True) first
  reaches : Relation.ReflTransGen catalog.Forwards (first, value) (entry, encoded)
  final : entry.serializeAs = none
  registered : entry ∈ catalog.entries
  usable : catalog.hierarchy.isAssignable encoded.type entry.native
  named : catalog.entryNamed? stored.codeName = some entry
  serializes : entry.serializer = some serializer
  encodes : serializer.encode encoded = .ok stored.bytes

theorem exists_stores (frozen : catalog.IsFrozen) {value : Value} {stored : StoredValue}
    (plain : catalog.storedForm? value = some stored) :
    ∃ first entry serializer encoded,
      catalog.Stores value stored first entry serializer encoded := by
  obtain ⟨first, entry, encoded, closest, walk, written⟩ := storedForm?_eq_some_iff.1 plain
  obtain ⟨reaches, final⟩ := reaches_of_storing? walk
  obtain ⟨serializer, serializes, codeName, encodes⟩ := TypeEntry.encoded?_eq_some_iff.1 written
  have specific := closest_specific frozen ((entryAt_closestNumber? value.type).symm.trans closest)
  obtain ⟨registered, usable⟩ :=
    holds_of_reaches frozen ⟨specific.registered, specific.accepts⟩ reaches
  have named : catalog.entryNamed? stored.codeName = some entry :=
    codeName ▸ entryNamed?_codeName frozen registered
  exact ⟨first, entry, serializer, encoded, closest, specific, reaches, final, registered, usable,
    named, serializes, encodes⟩

end Catalog

/-! ## The statement -/

theorem deserialize_serialize (env : Environment) (frozen : env.catalog.IsFrozen)
    (questions : List Environment.Question) (value : Value) (onPrimary : Bool) (stored : StoredValue)
    (serialized : ((env.catalog.serialize value onPrimary).run (env.memoryAfter questions)).1 =
      some stored) :
    let catalog := env.catalog
    let memory := env.memoryAfter questions
    ∃ first entry serializer encoded,
      ((catalog.closest? value.type).run memory).1 = some first ∧
      Relation.ReflTransGen catalog.Forwards (first, value) (entry, encoded) ∧
      entry.serializeAs = none ∧ entry.serializer = some serializer ∧
      catalog.entryNamed? stored.codeName = some entry ∧
      catalog.hierarchy.isAssignable encoded.type entry.native ∧
      serializer.encode encoded = .ok stored.bytes ∧
      catalog.deserialize stored = serializer.load entry.native stored ∧
      (serializer.Restores entry.native →
        catalog.deserialize stored = return some ⟨entry.native, encoded.payload⟩) ∧
      ∀ own ∈ catalog.entries, own.native = value.type → own.serializeAs = none →
        own = entry ∧
          (serializer.Restores entry.native → catalog.deserialize stored = return some value) := by
  intro catalog memory
  have faithful := env.faithful_memoryAfter questions
  have plain : catalog.storedForm? value = some stored :=
    (env.computes_serialize value onPrimary _ faithful).1.symm.trans serialized
  obtain ⟨first, entry, serializer, encoded, stores⟩ := Catalog.exists_stores frozen plain
  have loads := Catalog.deserialize_eq_load stores.named stores.serializes
  have restored (restores : serializer.Restores entry.native) :
      catalog.deserialize stored = return some ⟨entry.native, encoded.payload⟩ := by
    rw [loads, Serializer.load, restores encoded stored.bytes stores.encodes]
  refine ⟨first, entry, serializer, encoded,
    (env.computes_closest value.type _ faithful).1.trans stores.closest, stores.reaches, stores.final,
    stores.serializes, stores.named, stores.usable, stores.encodes, loads, restored, ?_⟩
  intro own inside same direct
  have start : first = own := stores.specific.eq_own frozen inside trivial same
  subst start
  obtain ⟨rfl, rfl⟩ := Prod.mk.inj (Catalog.eq_of_reaches direct stores.reaches)
  refine ⟨rfl, fun restores => ?_⟩
  rw [restored restores, same]

def Catalog.relay : Catalog where
  hierarchy := .diamond
  display := {}
  entries :=
    [{ codeName := "located", native := ⟨2⟩, serializeAs := some ⟨1⟩ },
      { codeName := "named", native := ⟨1⟩, serializer := some (.binary .truth false) }]
  graph := ⟨.diamond,
    [{ source := ⟨2⟩, target := ⟨1⟩, apply := fun value => some ⟨⟨3⟩, value.payload⟩ }]⟩
  issues := []

def Environment.relay : Environment :=
  ⟨.relay, ⟨.diamond, Catalog.relay.graph, []⟩, rfl⟩

theorem Catalog.relay_isFrozen : relay.IsFrozen :=
  ⟨.diamond, {}, relay.entries.map .entry ++ relay.graph.converters.map .converter, rfl⟩

theorem Serializer.binary_truth_restores (native : TypeKey) :
    (Serializer.binary .truth false).Restores native := by
  rintro ⟨type, payload⟩ bytes encodes
  cases payload with
  | truth holds =>
      cases encodes
      cases holds <;> rfl
  | _ => cases encodes

theorem deserialize_serialize_relay :
    let env := Environment.relay
    let memory := env.memoryAfter [.closest ⟨3⟩]
    env.catalog.IsFrozen ∧
      ((env.catalog.serialize ⟨⟨2⟩, .truth true⟩ true).run memory).1 = some ⟨"named", [1]⟩ ∧
      ∃ payload, env.catalog.deserialize ⟨"named", [1]⟩ = return some ⟨⟨1⟩, payload⟩ := by
  have serialized : ((Environment.relay.catalog.serialize ⟨⟨2⟩, .truth true⟩ true).run
      (Environment.relay.memoryAfter [.closest ⟨3⟩])).1 = some ⟨"named", [1]⟩ := by
    rfl
  obtain ⟨_, entry, serializer, encoded, _, _, _, serializes, named, _, _, _, restored, _⟩ :=
    deserialize_serialize .relay Catalog.relay_isFrozen [.closest ⟨3⟩] _ _ _ serialized
  obtain rfl : _ = entry := Option.some.inj named
  obtain rfl : _ = serializer := Option.some.inj serializes
  exact ⟨Catalog.relay_isFrozen, serialized, encoded.payload,
    restored (Serializer.binary_truth_restores _)⟩

end HostTypes
