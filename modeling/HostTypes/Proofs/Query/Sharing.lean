import HostTypes.Host
import HostTypes.Proofs.Query.Questions

/-!
A host with several frozen catalogs and sets of getters. Each catalog has its own caches, and getters
use the chains of the catalog they were frozen with, so questions about one may fill caches that
questions about another read. Whatever is asked of whom in whatever order, every question has the
reply of the scans and searches, and every cache counts one miss and has one entry for each distinct
key that it was asked (`ask_uncached`).
-/

namespace HostTypes

/-! ## The caches of a host -/

theorem getD_modify_of_lt {α : Type} {list : List α} {number other : Nat} {fallback : α}
    (change : α → α) (bound : other < list.length) :
    (list.modify number change).getD other fallback =
      if number = other then change (list.getD other fallback) else list.getD other fallback := by
  simp only [List.getD_eq_getElem?_getD, List.getElem?_modify, List.getElem?_eq_getElem bound,
    Option.map_eq_map, Option.map_some, Option.getD_some]

namespace Host

variable {α : Type} (host : Host) (own graph : Nat) (getters : Option Nat) (query : Query α)

/-- The caches that a query runs with. -/
def view : Memory where
  closest := (host.memoryOf own).closest
  printing := (host.memoryOf own).printing
  chains := (host.memoryOf graph).chains
  getters := (getters.map host.getterCacheOf).getD {}

theorem memories_run : (host.run own graph getters query).2.memories =
    (host.memories.modify own fun memory =>
      { memory with
        closest := (query.run (host.view own graph getters)).2.closest
        printing := (query.run (host.view own graph getters)).2.printing }).modify graph
      fun memory => { memory with chains := (query.run (host.view own graph getters)).2.chains } :=
  rfl

theorem length_memories_run :
    (host.run own graph getters query).2.memories.length = host.memories.length := by
  rw [memories_run, List.length_modify, List.length_modify]

theorem memoryOf_run {number : Nat} (bound : number < host.memories.length) :
    let after := (query.run (host.view own graph getters)).2
    let memory := (host.run own graph getters query).2.memoryOf number
    memory.closest = (if own = number then after.closest else (host.memoryOf number).closest) ∧
      memory.printing = (if own = number then after.printing else (host.memoryOf number).printing) ∧
      memory.chains = if graph = number then after.chains else (host.memoryOf number).chains := by
  simp only [memoryOf, memories_run]
  rw [getD_modify_of_lt _ (by simpa using bound), getD_modify_of_lt _ bound]
  split <;> split <;> exact ⟨rfl, rfl, rfl⟩

theorem getterCaches_run : (host.run own graph getters query).2.getterCaches =
    match getters with
    | some number => host.getterCaches.set number (query.run (host.view own graph getters)).2.getters
    | none => host.getterCaches :=
  rfl

theorem length_getterCaches_run :
    (host.run own graph getters query).2.getterCaches.length = host.getterCaches.length := by
  rw [getterCaches_run]
  cases getters with
  | none => rfl
  | some number => exact List.length_set

theorem getterCacheOf_run {number : Nat} (bound : number < host.getterCaches.length) :
    (host.run own graph getters query).2.getterCacheOf number =
      if getters = some number then (query.run (host.view own graph getters)).2.getters
      else host.getterCacheOf number := by
  rw [getterCacheOf, getterCaches_run]
  cases getters with
  | none => rfl
  | some used =>
      simp only [List.getD_eq_getElem?_getD, List.getElem?_set, Option.some.injEq]
      by_cases same : used = number
      · simp only [same, if_true, if_pos bound, Option.getD_some]
      · simp only [same, if_false]
        rfl

end Host

/-! ## Frozen data -/

/-- Catalogs that a host has frozen and sets of getters, each with the catalog whose conversion graph
it uses. -/
structure Frozen (catalogs registries : Nat) where
  catalog : Fin catalogs → Catalog
  registry : Fin registries → EventRegistry
  base : Fin registries → Fin catalogs
  shared : ∀ number, (registry number).graph = (catalog (base number)).graph

/-- The keys that are asked of each cache of a host. -/
structure Log (catalogs registries : Nat) where
  closest : Fin catalogs → List TypeKey := fun _ => []
  printing : Fin catalogs → List TypeKey := fun _ => []
  chains : Fin catalogs → List (TypeKey × TypeKey) := fun _ => []
  getters : Fin registries → List GetterRequest := fun _ => []

variable {catalogs registries : Nat}

instance : Append (Log catalogs registries) where
  append one two :=
    { closest := fun number => one.closest number ++ two.closest number
      printing := fun number => one.printing number ++ two.printing number
      chains := fun number => one.chains number ++ two.chains number
      getters := fun number => one.getters number ++ two.getters number }

structure Host.Grows (before after : Host) (log : Log catalogs registries) : Prop where
  closest : ∀ number : Fin catalogs,
    (before.memoryOf number).closest.Grows (after.memoryOf number).closest (log.closest number)
  printing : ∀ number : Fin catalogs,
    (before.memoryOf number).printing.Grows (after.memoryOf number).printing (log.printing number)
  chains : ∀ number : Fin catalogs,
    (before.memoryOf number).chains.Grows (after.memoryOf number).chains (log.chains number)
  getters : ∀ number : Fin registries,
    (before.getterCacheOf number).Grows (after.getterCacheOf number) (log.getters number)

theorem Host.Grows.refl (host : Host) : host.Grows host ({} : Log catalogs registries) :=
  ⟨fun _ => .refl _, fun _ => .refl _, fun _ => .refl _, fun _ => .refl _⟩

theorem Host.Grows.trans {first second third : Host} {one two : Log catalogs registries}
    (early : first.Grows second one) (late : second.Grows third two) :
    first.Grows third (one ++ two) :=
  ⟨fun number => (early.closest number).trans (late.closest number),
    fun number => (early.printing number).trans (late.printing number),
    fun number => (early.chains number).trans (late.chains number),
    fun number => (early.getters number).trans (late.getters number)⟩

namespace Frozen

open Environment (Question Answer)

variable {α : Type} {frozen : Frozen catalogs registries} {host : Host} {own : Fin catalogs}
  {number : Option (Fin registries)}

/-- What a query can ask: the entries of a catalog, and the conversions of that catalog, or else
getters with the conversions that they use. -/
def environment (frozen : Frozen catalogs registries) (own : Fin catalogs) :
    Option (Fin registries) → Environment
  | none => ⟨frozen.catalog own, ⟨(frozen.catalog own).hierarchy, (frozen.catalog own).graph, []⟩, rfl⟩
  | some number =>
    ⟨{ frozen.catalog own with graph := (frozen.catalog (frozen.base number)).graph },
      frozen.registry number, frozen.shared number⟩

def graphOf (frozen : Frozen catalogs registries) (own : Fin catalogs) :
    Option (Fin registries) → Fin catalogs
  | none => own
  | some number => frozen.base number

def run (frozen : Frozen catalogs registries) (host : Host) (own : Fin catalogs)
    (number : Option (Fin registries)) (query : Query α) : α × Host :=
  host.run own (frozen.graphOf own number) (number.map Fin.val) query

def log (frozen : Frozen catalogs registries) (own : Fin catalogs) (number : Option (Fin registries))
    (asked : Asked) : Log catalogs registries where
  closest other := if own = other then asked.closest else []
  printing other := if own = other then asked.printing else []
  chains other := if frozen.graphOf own number = other then asked.chains else []
  getters other := if number = some other then asked.getters else []

/-- Every cache of a host is faithful to the frozen data that it serves. -/
structure Faithful (frozen : Frozen catalogs registries) (host : Host) : Prop where
  memories : host.memories.length = catalogs
  getterCaches : host.getterCaches.length = registries
  entries : ∀ number : Fin catalogs,
    (frozen.catalog number).Faithful (host.memoryOf number).closest (host.memoryOf number).printing
  chains : ∀ number : Fin catalogs, (host.memoryOf number).chains.Faithful
    fun (source, target) => (frozen.catalog number).graph.search source target
  registry : ∀ number : Fin registries, (frozen.registry number).Faithful
    (host.getterCacheOf number) (host.memoryOf (frozen.base number)).chains

theorem entries_faithful_iff {closest printing : Cache TypeKey (Option Nat)} :
    (frozen.environment own number).catalog.Faithful closest printing ↔
      (frozen.catalog own).Faithful closest printing := by
  cases number with
  | none => exact Iff.rfl
  | some number =>
      exact ⟨fun faithful => ⟨faithful.closest_plain, faithful.printing_plain, faithful.closed⟩,
        fun faithful => ⟨faithful.closest_plain, faithful.printing_plain, faithful.closed⟩⟩

theorem graph_environment :
    (frozen.environment own number).catalog.graph =
      (frozen.catalog (frozen.graphOf own number)).graph := by
  cases number <;> rfl

theorem Faithful.view (faithful : frozen.Faithful host) (own : Fin catalogs)
    (number : Option (Fin registries)) :
    (frozen.environment own number).Faithful
      (host.view own (frozen.graphOf own number) (number.map Fin.val)) where
  entries := entries_faithful_iff.2 (faithful.entries own)
  chains := by
    rw [graph_environment]
    exact faithful.chains (frozen.graphOf own number)
  registry := by
    cases number with
    | none => exact ⟨Cache.faithful_empty _, fun _ stored => nomatch stored⟩
    | some number => exact faithful.registry number

/-- The caches after a query: those that it has run with are as it leaves them. -/
theorem Faithful.run_eq (faithful : frozen.Faithful host) (query : Query α) (own : Fin catalogs)
    (number : Option (Fin registries)) :
    let after := (query.run (host.view own (frozen.graphOf own number) (number.map Fin.val))).2
    let left := (frozen.run host own number query).2
    (∀ other : Fin catalogs,
      (left.memoryOf other).closest =
          (if own = other then after.closest else (host.memoryOf other).closest) ∧
        (left.memoryOf other).printing =
          (if own = other then after.printing else (host.memoryOf other).printing) ∧
        (left.memoryOf other).chains =
          if frozen.graphOf own number = other then after.chains
          else (host.memoryOf other).chains) ∧
      ∀ other : Fin registries, left.getterCacheOf other =
        if number = some other then after.getters else host.getterCacheOf other := by
  constructor <;> intro other
  · have bound : (other : Nat) < host.memories.length := faithful.memories ▸ other.isLt
    have parts := host.memoryOf_run own (frozen.graphOf own number) (number.map Fin.val) query bound
    simp only [Fin.val_inj] at parts
    exact parts
  · have bound : (other : Nat) < host.getterCaches.length := faithful.getterCaches ▸ other.isLt
    have part :=
      host.getterCacheOf_run own (frozen.graphOf own number) (number.map Fin.val) query bound
    simp only [Fin.val_inj, Option.map_eq_some_iff, exists_eq_right] at part
    exact part

/-- The caches that a query runs with grow, and the others stay. -/
theorem Faithful.grows_run {query : Query α} {asked : Asked} (faithful : frozen.Faithful host)
    (grows : let memory := host.view own (frozen.graphOf own number) (number.map Fin.val)
      memory.Grows (query.run memory).2 asked) :
    host.Grows (frozen.run host own number query).2 (frozen.log own number asked) := by
  obtain ⟨memoryOf, getterCacheOf⟩ := faithful.run_eq query own number
  constructor <;> intro other
  · rw [(memoryOf other).1]
    exact .ite fun same => same ▸ grows.closest
  · rw [(memoryOf other).2.1]
    exact .ite fun same => same ▸ grows.printing
  · rw [(memoryOf other).2.2]
    exact .ite fun same => same ▸ grows.chains
  · rw [getterCacheOf other]
    exact .ite fun same => by subst same; exact grows.getters

theorem Faithful.faithful_run {query : Query α} {log : Log catalogs registries}
    (faithful : frozen.Faithful host)
    (kept : (frozen.environment own number).Faithful
      (query.run (host.view own (frozen.graphOf own number) (number.map Fin.val))).2)
    (grows : host.Grows (frozen.run host own number query).2 log) :
    frozen.Faithful (frozen.run host own number query).2 := by
  obtain ⟨memoryOf, getterCacheOf⟩ := faithful.run_eq query own number
  refine ⟨?_, ?_, fun other => ?_, fun other => ?_, fun other => ?_⟩
  · exact (host.length_memories_run _ _ _ query).trans faithful.memories
  · exact (host.length_getterCaches_run _ _ _ query).trans faithful.getterCaches
  · rw [(memoryOf other).1, (memoryOf other).2.1]
    by_cases same : own = other
    · subst same
      rw [if_pos rfl, if_pos rfl]
      exact entries_faithful_iff.1 kept.entries
    · rw [if_neg same, if_neg same]
      exact faithful.entries other
  · rw [(memoryOf other).2.2]
    split
    · rename_i same
      rw [← same, ← graph_environment]
      exact kept.chains
    · exact faithful.chains other
  · rw [getterCacheOf other]
    split
    · rename_i same
      subst same
      rw [(memoryOf _).2.2, graphOf, if_pos rfl]
      exact kept.registry
    -- Chains that other queries have added do no harm.
    · exact ⟨(faithful.registry other).plain, fun request stored pair asked =>
        ((grows.chains (frozen.base other)).mem_keys pair).2
          (.inl ((faithful.registry other).closed request stored pair asked))⟩

/-- A query of which it is known what it computes gives this result, keeps all caches faithful and
lets those that it runs with grow. -/
theorem Faithful.run {query : Query α} {answer : α} {asked : Asked} (faithful : frozen.Faithful host)
    (computes : (frozen.environment own number).Computes query answer asked) :
    (frozen.run host own number query).1 = answer ∧
      frozen.Faithful (frozen.run host own number query).2 ∧
      host.Grows (frozen.run host own number query).2 (frozen.log own number asked) := by
  obtain ⟨result, kept, more⟩ := computes _ (faithful.view own number)
  have grows := faithful.grows_run more
  exact ⟨result, faithful.faithful_run kept grows, grows⟩

/-! ## Questions to a host -/

/-- Whom a question is for: a catalog, or getters and the catalog that they were frozen with. -/
inductive Addressee (catalogs registries : Nat) where
  | catalog (number : Fin catalogs)
  | getters (number : Fin registries)

/-- The catalog that is asked, and the getters if it is asked with them. -/
def sides (frozen : Frozen catalogs registries) :
    Addressee catalogs registries → Fin catalogs × Option (Fin registries)
  | .catalog number => (number, none)
  | .getters number => (frozen.base number, some number)

def environmentAt (frozen : Frozen catalogs registries) (addressee : Addressee catalogs registries) :
    Environment :=
  frozen.environment (frozen.sides addressee).1 (frozen.sides addressee).2

def ask (frozen : Frozen catalogs registries) (host : Host) (addressee : Addressee catalogs registries)
    (question : Question) : Answer × Host :=
  frozen.run host (frozen.sides addressee).1 (frozen.sides addressee).2
    ((frozen.environmentAt addressee).ask question)

/-- What the scans and searches of frozen data give. -/
def reply (frozen : Frozen catalogs registries) (addressee : Addressee catalogs registries)
    (question : Question) : Answer :=
  (frozen.environmentAt addressee).reply question

def asked (frozen : Frozen catalogs registries) (addressee : Addressee catalogs registries)
    (question : Question) : Log catalogs registries :=
  frozen.log (frozen.sides addressee).1 (frozen.sides addressee).2
    ((frozen.environmentAt addressee).asked question)

/-- A host that has just frozen the data. -/
def fresh (_ : Frozen catalogs registries) (host : Host) : Host :=
  { host with
    memories := List.replicate catalogs {}
    getterCaches := List.replicate registries {} }

def hostAfter (frozen : Frozen catalogs registries) (start : Host)
    (questions : List (Addressee catalogs registries × Question)) : Host :=
  questions.foldl (fun host (addressee, question) => (frozen.ask host addressee question).2)
    (frozen.fresh start)

def askedAll (frozen : Frozen catalogs registries)
    (questions : List (Addressee catalogs registries × Question)) : Log catalogs registries :=
  questions.foldl (fun log (addressee, question) => log ++ frozen.asked addressee question) {}

theorem memoryOf_fresh (number : Fin catalogs) : (frozen.fresh host).memoryOf number = {} := by
  simp [fresh, Host.memoryOf, List.getD_eq_getElem?_getD]

theorem getterCacheOf_fresh (number : Fin registries) :
    (frozen.fresh host).getterCacheOf number = {} := by
  simp [fresh, Host.getterCacheOf, List.getD_eq_getElem?_getD]

theorem faithful_fresh (host : Host) : frozen.Faithful (frozen.fresh host) where
  memories := List.length_replicate
  getterCaches := List.length_replicate
  entries number := by
    rw [memoryOf_fresh]
    exact ⟨Cache.faithful_empty _, Cache.faithful_empty _, fun _ stored => nomatch stored⟩
  chains number := by
    rw [memoryOf_fresh]
    exact Cache.faithful_empty _
  registry number := by
    rw [getterCacheOf_fresh]
    exact ⟨Cache.faithful_empty _, fun _ stored => nomatch stored⟩

theorem Faithful.ask (faithful : frozen.Faithful host) (addressee : Addressee catalogs registries)
    (question : Question) :
    (frozen.ask host addressee question).1 = frozen.reply addressee question ∧
      frozen.Faithful (frozen.ask host addressee question).2 ∧
      host.Grows (frozen.ask host addressee question).2 (frozen.asked addressee question) :=
  faithful.run (Environment.computes_ask question)

theorem faithful_hostAfter (frozen : Frozen catalogs registries) (start : Host)
    (questions : List (Addressee catalogs registries × Question)) :
    frozen.Faithful (frozen.hostAfter start questions) ∧
      (frozen.fresh start).Grows (frozen.hostAfter start questions) (frozen.askedAll questions) := by
  induction questions using List.reverseRecOn with
  | nil => exact ⟨faithful_fresh start, .refl _⟩
  | append_singleton questions last ih =>
      obtain ⟨addressee, question⟩ := last
      obtain ⟨faithful, grows⟩ := ih
      obtain ⟨_, still, more⟩ := faithful.ask addressee question
      rw [hostAfter, askedAll, List.foldl_append, List.foldl_append]
      exact ⟨still, grows.trans more⟩

/-! ## The statement -/

theorem ask_uncached (frozen : Frozen catalogs registries) (start : Host)
    (questions : List (Addressee catalogs registries × Question)) :
    let host := frozen.hostAfter start questions
    let asked := frozen.askedAll questions
    (∀ addressee question, (frozen.ask host addressee question).1 = frozen.reply addressee question) ∧
      (∀ number : Fin catalogs,
        (host.memoryOf number).closest.Counts (asked.closest number) ∧
          (host.memoryOf number).printing.Counts (asked.printing number) ∧
          (host.memoryOf number).chains.Counts (asked.chains number)) ∧
      ∀ number : Fin registries, (host.getterCacheOf number).Counts (asked.getters number) := by
  obtain ⟨faithful, grows⟩ := faithful_hostAfter frozen start questions
  refine ⟨fun addressee question => (faithful.ask addressee question).1, fun number => ⟨?_, ?_, ?_⟩,
    fun number => ?_⟩
  · have growth := grows.closest number
    rw [memoryOf_fresh] at growth
    exact growth.counts (faithful.entries number).closest_plain.nodup
  · have growth := grows.printing number
    rw [memoryOf_fresh] at growth
    exact growth.counts (faithful.entries number).printing_plain.nodup
  · have growth := grows.chains number
    rw [memoryOf_fresh] at growth
    exact growth.counts (faithful.chains number).nodup
  · have growth := grows.getters number
    rw [getterCacheOf_fresh] at growth
    exact growth.counts (faithful.registry number).plain.nodup

end Frozen

end HostTypes
