import HostTypes.Proofs.Query.Growth
import HostTypes.Proofs.Query.Uncached

/-!
What the caches remember. A memory is faithful if every stored answer is the one that the scan or the
search gives, and whatever was looked up to compute a stored answer is stored too. `Computes` says of
a query what it answers from any faithful memory and which keys it asks the caches for; it is closed
under composition, and each of the four look-ups that go through a cache has it.
-/

namespace HostTypes

/-! ## Keys asked for -/

/-- The keys that are asked of each cache. -/
@[ext]
structure Asked where
  closest : List TypeKey := []
  printing : List TypeKey := []
  chains : List (TypeKey × TypeKey) := []
  getters : List GetterRequest := []

namespace Asked

instance : Append Asked where
  append one two :=
    { closest := one.closest ++ two.closest
      printing := one.printing ++ two.printing
      chains := one.chains ++ two.chains
      getters := one.getters ++ two.getters }

theorem append_empty (asked : Asked) : asked ++ ({} : Asked) = asked :=
  Asked.ext (List.append_nil _) (List.append_nil _) (List.append_nil _) (List.append_nil _)

end Asked

structure Memory.Grows (before after : Memory) (asked : Asked) : Prop where
  closest : before.closest.Grows after.closest asked.closest
  printing : before.printing.Grows after.printing asked.printing
  chains : before.chains.Grows after.chains asked.chains
  getters : before.getters.Grows after.getters asked.getters

theorem Memory.Grows.refl (memory : Memory) : memory.Grows memory {} :=
  ⟨.refl _, .refl _, .refl _, .refl _⟩

theorem Memory.Grows.trans {first second third : Memory} {one two : Asked}
    (early : first.Grows second one) (late : second.Grows third two) :
    first.Grows third (one ++ two) :=
  ⟨early.closest.trans late.closest, early.printing.trans late.printing,
    early.chains.trans late.chains, early.getters.trans late.getters⟩

def ConversionGraph.askedChains (graph : ConversionGraph) (source target : TypeKey) :
    List (TypeKey × TypeKey) :=
  if graph.hierarchy.isAssignable source target then [] else [(source, target)]

/-- The keys asked of the closest entries on the way to the entry that prints a type. -/
def Catalog.askedClosest (catalog : Catalog) (type : TypeKey) : List TypeKey :=
  if (catalog.printingNumber? type).isSome then [] else [type]

/-- The keys asked of the chains on the way to the entry that stores a value. -/
def Catalog.askedAliases (catalog : Catalog) : Nat → TypeEntry → Value → List (TypeKey × TypeKey)
  | hops, entry, value =>
    match entry.serializeAs with
    | none => []
    | some target =>
      match hops with
      | 0 => []
      | hops + 1 =>
        catalog.graph.askedChains value.type target ++
          match catalog.graph.result? value target with
          | none => []
          | some converted =>
            match catalog.entryFor? target with
            | none => []
            | some next => askedAliases catalog hops next converted

def Catalog.askedStorage (catalog : Catalog) (value : Value) : List (TypeKey × TypeKey) :=
  match catalog.closestEntry? value.type with
  | none => []
  | some entry => catalog.askedAliases catalog.entries.length entry value

/-- The keys asked of the chains while getters are scanned. -/
def EventRegistry.askedChains (registry : EventRegistry) (request : GetterRequest) :
    List (TypeKey × TypeKey) :=
  if (registry.select? none (registry.sameType request)).isSome || request.exact ||
      (registry.select? none (registry.subtypes request)).isSome then []
  else
    (registry.getters.filter (registry.isApplicable request)).flatMap fun getter =>
      registry.graph.askedChains getter.valueType request.valueType

def EventRegistry.asked (registry : EventRegistry) (request : GetterRequest) : Asked :=
  { getters := [request], chains := registry.askedChains request }

def EventRegistry.askedTimes (registry : EventRegistry) (event valueType : TypeKey) (exact : Bool) :
    Asked :=
  registry.asked ⟨event, valueType, .before, exact⟩ ++
    if (registry.answer ⟨event, valueType, .before, exact⟩).isMissing then
      registry.asked ⟨event, valueType, .after, exact⟩
    else {}

/-! ## Faithful memories -/

structure Catalog.Faithful (catalog : Catalog) (closest printing : Cache TypeKey (Option Nat)) :
    Prop where
  closest_plain : closest.Faithful catalog.closestNumber?
  printing_plain : printing.Faithful catalog.printer?
  closed : ∀ type ∈ printing.keys, ∀ other ∈ catalog.askedClosest type, other ∈ closest.keys

structure EventRegistry.Faithful (registry : EventRegistry) (getters : Cache GetterRequest Resolution)
    (chains : Cache (TypeKey × TypeKey) (Option (List Nat))) : Prop where
  plain : getters.Faithful registry.answer
  closed : ∀ request ∈ getters.keys, ∀ pair ∈ registry.askedChains request, pair ∈ chains.keys

/-- A frozen catalog, with getters that use its conversion graph. -/
structure Environment where
  catalog : Catalog
  registry : EventRegistry
  shared : registry.graph = catalog.graph

namespace Environment

variable {env : Environment} {α β : Type}

structure Faithful (env : Environment) (memory : Memory) : Prop where
  entries : env.catalog.Faithful memory.closest memory.printing
  chains : memory.chains.Faithful fun (source, target) => env.catalog.graph.search source target
  registry : env.registry.Faithful memory.getters memory.chains

theorem faithful_empty (env : Environment) : env.Faithful {} where
  entries := ⟨Cache.faithful_empty _, Cache.faithful_empty _, fun _ stored => nomatch stored⟩
  chains := Cache.faithful_empty _
  registry := ⟨Cache.faithful_empty _, fun _ stored => nomatch stored⟩

/-- What a query answers from every faithful memory, and the keys that it asks for. -/
def Computes (env : Environment) (query : Query α) (answer : α) (asked : Asked) : Prop :=
  ∀ memory, env.Faithful memory →
    (query.run memory).1 = answer ∧ env.Faithful (query.run memory).2 ∧
      memory.Grows (query.run memory).2 asked

theorem computes_pure (answer : α) : env.Computes (pure answer) answer {} :=
  fun memory faithful => ⟨rfl, faithful, .refl memory⟩

theorem Computes.bind {query : Query α} {next : α → Query β} {first : α} {second : β}
    {one two : Asked} (early : env.Computes query first one)
    (late : env.Computes (next first) second two) :
    env.Computes (query >>= next) second (one ++ two) := by
  intro memory faithful
  obtain ⟨answer, kept, grows⟩ := early memory faithful
  obtain ⟨result, still, more⟩ := late _ kept
  rw [← answer] at result still more
  exact ⟨result, still, grows.trans more⟩

/-- A query followed by one that asks for nothing. -/
theorem Computes.bind_silent {query : Query α} {next : α → Query β} {first : α} {second : β}
    {asked : Asked} (early : env.Computes query first asked)
    (late : env.Computes (next first) second {}) : env.Computes (query >>= next) second asked := by
  have both := early.bind late
  rwa [Asked.append_empty] at both

theorem Computes.bind_chains {query : Query α} {next : α → Query β} {first : α} {second : β}
    {one two : List (TypeKey × TypeKey)} (early : env.Computes query first { chains := one })
    (late : env.Computes (next first) second { chains := two }) :
    env.Computes (query >>= next) second { chains := one ++ two } :=
  early.bind late

theorem Computes.map {query : Query α} {answer : α} {asked : Asked}
    (computes : env.Computes query answer asked) (f : α → β) :
    env.Computes (f <$> query) (f answer) asked := by
  have bound : env.Computes (query >>= fun answer => pure (f answer)) (f answer) asked :=
    computes.bind_silent (computes_pure (f answer))
  exact bound

theorem computes_notify (notice : Notice) : env.Computes (notify notice) () {} :=
  fun _ faithful =>
    ⟨rfl, ⟨faithful.entries, faithful.chains, faithful.registry⟩, .refl _, .refl _, .refl _, .refl _⟩

/-! ## Look-ups in a cache -/

theorem computes_fetchClosest (type : TypeKey) :
    env.Computes (env.catalog.fetchClosest type) (env.catalog.closestNumber? type)
      { closest := [type] } := by
  intro memory faithful
  obtain ⟨cache, kept, grows, run⟩ := Cache.fetch_pure Memory.closestSlot type
    (fun _ _ => rfl) (fun _ _ _ => rfl) faithful.entries.closest_plain
  have entries : env.catalog.Faithful cache memory.printing :=
    ⟨kept, faithful.entries.printing_plain, fun printed stored other asked =>
      (grows.mem_keys other).2 (.inl (faithful.entries.closed printed stored other asked))⟩
  rw [Catalog.fetchClosest, run]
  exact ⟨rfl, ⟨entries, faithful.chains, faithful.registry⟩, grows, .refl _, .refl _, .refl _⟩

theorem computes_chain (source target : TypeKey) :
    env.Computes (env.catalog.graph.chain? source target) (env.catalog.graph.search source target)
      { chains := [(source, target)] } := by
  intro memory faithful
  obtain ⟨cache, kept, grows, run⟩ := Cache.fetch_pure Memory.chainsSlot
    (source, target) (fun _ _ => rfl) (fun _ _ _ => rfl) faithful.chains
  have registry : env.registry.Faithful memory.getters cache :=
    ⟨faithful.registry.plain, fun request stored pair asked =>
      (grows.mem_keys pair).2 (.inl (faithful.registry.closed request stored pair asked))⟩
  have result : (env.catalog.graph.chain? source target).run memory =
    (env.catalog.graph.search source target, Memory.chainsSlot.write cache memory) := run
  rw [result]
  exact ⟨rfl, ⟨faithful.entries, kept, registry⟩, .refl _, .refl _, grows, .refl _⟩

/-- A look-up whose value is computed by a query that asks for nothing in the same cache. It ends with
a memory that has grown by what the query asks for, from the given one or from that in which a miss
is counted. -/
theorem Computes.fetch {κ : Type} [BEq κ] [LawfulBEq κ] {plain : κ → α} {key : κ}
    {compute : Query α} {inner : Asked} {memory : Memory}
    (computes : env.Computes compute (plain key) inner) (slot : Cache.Slot Memory κ α)
    (lawful : ∀ cache memory, slot.read (slot.write cache memory) = cache)
    (plainly : ∀ memory, env.Faithful memory → (slot.read memory).Faithful plain)
    (apart : ∀ before after : Memory, before.Grows after inner →
      (slot.read before).Grows (slot.read after) [])
    (faithful : env.Faithful memory) (counted : env.Faithful (slot.counted memory))
    (closed : key ∈ (slot.read memory).keys → memory.Grows memory inner) :
    ∃ start left cache, (start = memory ∨ start = slot.counted memory) ∧ start.Grows left inner ∧
      env.Faithful left ∧ cache.Faithful plain ∧ (slot.read memory).Grows cache [key] ∧
      (Cache.fetch slot key compute).run memory = (plain key, slot.write cache left) := by
  obtain ⟨answer, kept, grows⟩ := computes (slot.counted memory) counted
  obtain ⟨cache, stores, grown, run⟩ := Cache.fetch_grows key compute lawful
    (plainly memory faithful) fun _ => ⟨answer, plainly _ kept, apart _ _ grows⟩
  rcases run with ⟨stored, run⟩ | ⟨_, run⟩
  · exact ⟨memory, memory, cache, .inl rfl, closed stored, faithful, stores, grown, run⟩
  · exact ⟨_, _, cache, .inr rfl, grows, kept, stores, grown, run⟩

theorem Faithful.countPrinting {memory : Memory} (faithful : env.Faithful memory) :
    env.Faithful (Memory.printingSlot.counted memory) :=
  ⟨⟨faithful.entries.closest_plain,
    ⟨faithful.entries.printing_plain.eq_plain, faithful.entries.printing_plain.nodup⟩,
    faithful.entries.closed⟩, faithful.chains, faithful.registry⟩

theorem Faithful.countGetters {memory : Memory} (faithful : env.Faithful memory) :
    env.Faithful (Memory.gettersSlot.counted memory) :=
  ⟨faithful.entries, faithful.chains, ⟨faithful.registry.plain.eq_plain,
    faithful.registry.plain.nodup⟩, faithful.registry.closed⟩

theorem computes_fetchPrinting (type : TypeKey) :
    env.Computes (env.catalog.fetchPrinting type) (env.catalog.printer? type)
      { printing := [type], closest := env.catalog.askedClosest type } := by
  obtain ⟨scan, isFetch, inner⟩ : ∃ scan,
      env.catalog.fetchPrinting type = Cache.fetch Memory.printingSlot type scan ∧
        env.Computes scan (env.catalog.printer? type)
          { closest := env.catalog.askedClosest type } := by
    refine ⟨_, rfl, ?_⟩
    unfold Catalog.printer? Catalog.askedClosest
    cases env.catalog.printingNumber? type with
    | some number => exact computes_pure _
    | none => exact computes_fetchClosest type
  intro memory faithful
  obtain ⟨start, left, cache, begins, more, kept, stores, grown, run⟩ :=
    inner.fetch Memory.printingSlot (fun _ _ => rfl)
      (fun _ faithful => faithful.entries.printing_plain) (fun _ _ grows => grows.printing) faithful
      faithful.countPrinting fun stored =>
        ⟨.of_mem (faithful.entries.closed type stored), .refl _, .refl _, .refl _⟩
  have result : (env.catalog.fetchPrinting type).run memory =
    (env.catalog.printer? type, Memory.printingSlot.write cache left) := isFetch ▸ run
  have grows : memory.Grows (Memory.printingSlot.write cache left)
      { printing := [type], closest := env.catalog.askedClosest type } := by
    rcases begins with rfl | rfl <;> exact ⟨more.closest, grown, more.chains, more.getters⟩
  have closed : ∀ printed ∈ cache.keys, ∀ other ∈ env.catalog.askedClosest printed,
      other ∈ left.closest.keys := by
    intro printed stored other asked
    apply (grows.closest.mem_keys other).2
    rcases (grown.mem_keys printed).1 stored with old | new
    · exact .inl (faithful.entries.closed printed old other asked)
    · exact .inr (List.mem_singleton.1 new ▸ asked)
  rw [result]
  exact ⟨rfl, ⟨⟨kept.entries.closest_plain, stores, closed⟩, kept.chains, kept.registry⟩, grows⟩

theorem computes_resolution_of_scan {request : GetterRequest}
    (scans : env.Computes (env.registry.scan request) (env.registry.answer request)
      { chains := env.registry.askedChains request }) :
    env.Computes (env.registry.resolution request) (env.registry.answer request)
      (env.registry.asked request) := by
  intro memory faithful
  obtain ⟨start, left, cache, begins, more, kept, stores, grown, run⟩ :=
    scans.fetch Memory.gettersSlot (fun _ _ => rfl)
      (fun _ faithful => faithful.registry.plain) (fun _ _ grows => grows.getters) faithful
      faithful.countGetters fun stored =>
        ⟨.refl _, .refl _, .of_mem (faithful.registry.closed request stored), .refl _⟩
  have result : (env.registry.resolution request).run memory =
    (env.registry.answer request, Memory.gettersSlot.write cache left) := run
  have grows : memory.Grows (Memory.gettersSlot.write cache left) (env.registry.asked request) := by
    rcases begins with rfl | rfl <;> exact ⟨more.closest, more.printing, more.chains, grown⟩
  have closed : ∀ answered ∈ cache.keys, ∀ pair ∈ env.registry.askedChains answered,
      pair ∈ left.chains.keys := by
    intro answered stored pair asked
    apply (grows.chains.mem_keys pair).2
    rcases (grown.mem_keys answered).1 stored with old | new
    · exact .inl (faithful.registry.closed answered old pair asked)
    · exact .inr (List.mem_singleton.1 new ▸ asked)
  rw [result]
  exact ⟨rfl, ⟨kept.entries, kept.chains, ⟨stores, closed⟩⟩, grows⟩

end Environment

end HostTypes
