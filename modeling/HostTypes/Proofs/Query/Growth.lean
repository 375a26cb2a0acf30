import HostTypes.Cache
import Mathlib.Data.Finset.Card
import Mathlib.Data.List.Nodup

/-!
How a cache grows. A cache is faithful to a function if it stores values of the function, each once.
Asked for some keys it comes to have them beside the old ones, and counts a miss for every new one
(`Cache.Grows`). A look-up keeps a cache faithful and lets it grow by its key, if the computation of a
miss asks this cache for nothing (`Cache.fetch_grows`).
-/

namespace HostTypes

namespace Cache

variable {κ α σ : Type}

def keys (cache : Cache κ α) : List κ :=
  cache.entries.map Prod.fst

def hit (cache : Cache κ α) : Cache κ α :=
  { cache with hits := cache.hits + 1 }

def miss (cache : Cache κ α) : Cache κ α :=
  { cache with misses := cache.misses + 1 }

def insert (cache : Cache κ α) (key : κ) (value : α) : Cache κ α :=
  { cache with entries := cache.entries ++ [(key, value)] }

theorem keys_insert (cache : Cache κ α) (key : κ) (value : α) :
    (cache.insert key value).keys = cache.keys ++ [key] := by
  simp [keys, insert]

theorem size_insert (cache : Cache κ α) (key : κ) (value : α) :
    (cache.insert key value).size = cache.size + 1 := by
  simp [size, insert]

theorem length_keys (cache : Cache κ α) : cache.keys.length = cache.size :=
  List.length_map _

/-! ## Growing -/

structure Grows (before after : Cache κ α) (asked : List κ) : Prop where
  mem_keys : ∀ key, key ∈ after.keys ↔ key ∈ before.keys ∨ key ∈ asked
  /-- The misses keep pace with the entries. -/
  balance : after.misses + before.size = before.misses + after.size

theorem Grows.of_mem {cache : Cache κ α} {asked : List κ} (stored : ∀ key ∈ asked, key ∈ cache.keys) :
    cache.Grows cache asked := by
  refine ⟨fun key => ⟨.inl, fun either => ?_⟩, rfl⟩
  rcases either with old | new
  · exact old
  · exact stored key new

theorem Grows.refl (cache : Cache κ α) : cache.Grows cache [] :=
  .of_mem fun _ member => absurd member List.not_mem_nil

theorem Grows.trans {first second third : Cache κ α} {one two : List κ}
    (early : first.Grows second one) (late : second.Grows third two) :
    first.Grows third (one ++ two) := by
  constructor
  · intro key
    rw [late.mem_keys, early.mem_keys, List.mem_append, or_assoc]
  · have earlier := early.balance
    have later := late.balance
    omega

theorem Grows.hit {cache : Cache κ α} {key : κ} (stored : key ∈ cache.keys) :
    cache.Grows cache.hit [key] :=
  ⟨(of_mem (by simpa using stored) : cache.Grows cache [key]).mem_keys, rfl⟩

theorem Grows.insert {cache left : Cache κ α} {key : κ} (grows : cache.miss.Grows left [])
    (value : α) : cache.Grows (left.insert key value) [key] := by
  constructor
  · intro other
    have same : other ∈ left.keys ↔ other ∈ cache.keys ∨ other ∈ [] := grows.mem_keys other
    rw [keys_insert, List.mem_append, same]
    simp
  · have balance : left.misses + cache.size = cache.misses + 1 + left.size := grows.balance
    have misses : (left.insert key value).misses = left.misses := rfl
    rw [size_insert]
    omega

theorem Grows.ite {before after : Cache κ α} {asked : List κ} {used : Prop} [Decidable used]
    (grows : used → before.Grows after asked) :
    before.Grows (if used then after else before) (if used then asked else []) := by
  split
  · rename_i holds
    exact grows holds
  · exact .refl before

/-- There is one entry, and there has been one miss, for each distinct key that was asked. -/
def Counts [DecidableEq κ] (cache : Cache κ α) (asked : List κ) : Prop :=
  cache.misses = cache.size ∧ cache.size = asked.toFinset.card

theorem Grows.counts [DecidableEq κ] {cache : Cache κ α} {asked : List κ}
    (grows : Cache.Grows {} cache asked) (nodup : cache.keys.Nodup) : cache.Counts asked := by
  have misses : cache.misses + 0 = 0 + cache.size := grows.balance
  have distinct : cache.keys.toFinset = asked.toFinset := by
    ext key
    have stored : key ∈ cache.keys ↔ key ∈ [] ∨ key ∈ asked := grows.mem_keys key
    simpa using stored
  refine ⟨by omega, ?_⟩
  rw [← length_keys, ← List.toFinset_card_of_nodup nodup, distinct]

/-! ## Faithful caches -/

section

variable [BEq κ]

structure Faithful (cache : Cache κ α) (plain : κ → α) : Prop where
  eq_plain : ∀ key value, cache.get? key = some value → value = plain key
  nodup : cache.keys.Nodup

theorem faithful_empty (plain : κ → α) : Cache.Faithful {} plain where
  eq_plain := fun _ _ stored => nomatch stored
  nodup := List.nodup_nil

/-- The state in which a miss is computed: it is counted, and nothing else has changed. -/
def Slot.counted (slot : Slot σ κ α) (state : σ) : σ :=
  slot.write (slot.read state).miss state

theorem fetch_of_stored {slot : Slot σ κ α} {key : κ} {compute : StateM σ α} {state : σ} {value : α}
    (found : (slot.read state).get? key = some value) :
    (Cache.fetch slot key compute).run state = (value, slot.write (slot.read state).hit state) := by
  simp only [StateT.run, fetch, probe, found]
  rfl

theorem fetch_of_missing {slot : Slot σ κ α} {key : κ} {compute : StateM σ α} {state : σ}
    (missing : (slot.read state).get? key = none) :
    (Cache.fetch slot key compute).run state =
      let computed := compute.run (slot.counted state)
      let settled := (slot.read computed.2).settle key computed.1
      (settled.1, slot.write settled.2 computed.2) := by
  simp only [StateT.run, fetch, probe, missing]
  rfl

theorem settle_of_missing {cache : Cache κ α} {key : κ} (missing : cache.get? key = none) (value : α) :
    cache.settle key value = (value, cache.insert key value) := by
  simp only [settle, missing]
  rfl

end

variable [BEq κ] [LawfulBEq κ]

theorem get?_eq_none_iff {cache : Cache κ α} {key : κ} :
    cache.get? key = none ↔ key ∉ cache.keys := by
  simp only [get?, keys, List.lookup_eq_none_iff, List.mem_map, bne_iff_ne, not_exists, not_and]
  exact ⟨fun apart row member same => apart row member same.symm,
    fun apart row member same => apart row member same.symm⟩

theorem mem_keys_of_get? {cache : Cache κ α} {key : κ} {value : α}
    (found : cache.get? key = some value) : key ∈ cache.keys := by
  by_contra missing
  rw [get?_eq_none_iff.2 missing] at found
  cases found

theorem Faithful.insert {cache : Cache κ α} {plain : κ → α} {key : κ}
    (faithful : cache.Faithful plain) (missing : key ∉ cache.keys) :
    (cache.insert key (plain key)).Faithful plain := by
  constructor
  · intro other value stored
    simp only [get?, Cache.insert, List.lookup_append, Option.or_eq_some_iff] at stored
    rcases stored with old | ⟨_, new⟩
    · exact faithful.eq_plain other value old
    · rw [List.lookup_cons] at new
      split at new
      · rename_i same
        rw [eq_of_beq same]
        exact (Option.some.inj new).symm
      · cases new
  · rw [keys_insert, List.nodup_append]
    refine ⟨faithful.nodup, List.nodup_singleton key, fun old member new last => ?_⟩
    rw [List.mem_singleton.1 last]
    rintro rfl
    exact missing member

/-- A look-up gives the plain value. The cache goes back into the state it was read from, if the key
is stored, and else into the state that the computation leaves. -/
theorem fetch_grows {slot : Slot σ κ α} {plain : κ → α} {state : σ} (key : κ) (compute : StateM σ α)
    (lawful : ∀ cache state, slot.read (slot.write cache state) = cache)
    (faithful : (slot.read state).Faithful plain)
    (computes : key ∉ (slot.read state).keys →
      (compute.run (slot.counted state)).1 = plain key ∧
        (slot.read (compute.run (slot.counted state)).2).Faithful plain ∧
        (slot.read (slot.counted state)).Grows (slot.read (compute.run (slot.counted state)).2) []) :
    ∃ cache, cache.Faithful plain ∧ (slot.read state).Grows cache [key] ∧
      (key ∈ (slot.read state).keys ∧
          (Cache.fetch slot key compute).run state = (plain key, slot.write cache state) ∨
        key ∉ (slot.read state).keys ∧
          (Cache.fetch slot key compute).run state =
            (plain key, slot.write cache (compute.run (slot.counted state)).2)) := by
  cases found : (slot.read state).get? key with
  | some value =>
      have stored := mem_keys_of_get? found
      rw [fetch_of_stored found, faithful.eq_plain key value found]
      exact ⟨(slot.read state).hit, ⟨faithful.eq_plain, faithful.nodup⟩, .hit stored,
        .inl ⟨stored, rfl⟩⟩
  | none =>
      have missing := get?_eq_none_iff.1 found
      obtain ⟨same, kept, alone⟩ := computes missing
      rw [show slot.read (slot.counted state) = (slot.read state).miss from lawful _ _] at alone
      -- The computation may use this cache too, but it asks for nothing there.
      have absent : key ∉ (slot.read (compute.run (slot.counted state)).2).keys := by
        intro member
        rcases (alone.mem_keys key).1 member with old | new
        · exact missing old
        · cases new
      rw [fetch_of_missing found]
      dsimp only
      rw [same, settle_of_missing (get?_eq_none_iff.2 absent)]
      exact ⟨_, kept.insert absent, alone.insert (plain key), .inr ⟨missing, rfl⟩⟩

theorem fetch_pure (slot : Slot σ κ α) {plain : κ → α} {state : σ} (key : κ)
    (read_write : ∀ cache state, slot.read (slot.write cache state) = cache)
    (write_write : ∀ cache old state, slot.write cache (slot.write old state) = slot.write cache state)
    (faithful : (slot.read state).Faithful plain) :
    ∃ cache, cache.Faithful plain ∧ (slot.read state).Grows cache [key] ∧
      (Cache.fetch slot key (pure (plain key))).run state = (plain key, slot.write cache state) := by
  have counted : slot.read (slot.counted state) = (slot.read state).miss := read_write _ _
  obtain ⟨cache, kept, grows, ⟨_, run⟩ | ⟨_, run⟩⟩ := fetch_grows key
    (pure (plain key)) read_write faithful fun _ =>
      ⟨rfl, counted ▸ ⟨faithful.eq_plain, faithful.nodup⟩, .refl _⟩
  · exact ⟨cache, kept, grows, run⟩
  · exact ⟨cache, kept, grows, run.trans (congrArg _ (write_write cache _ state))⟩

end Cache

end HostTypes
