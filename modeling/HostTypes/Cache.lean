import HostTypes.Number.Binary64

/-!
Look-up caches that count their hits and misses. A value is computed when its key is first asked
for. The computation may itself use the cache; what it stores under the same key is then kept, and
the value computed later is discarded in favour of the stored one.
-/

namespace HostTypes

/-- The counters never wrap. Counters of 64 bits that do would differ from these only after `2 ^ 64`
hits or `2 ^ 64` misses. -/
structure Cache (κ α : Type) where
  /-- Stored values in the order in which they were stored, at most one for each key. -/
  entries : List (κ × α) := []
  hits : Nat := 0
  misses : Nat := 0
  deriving Repr

namespace Cache

variable {κ α σ : Type} [BEq κ]

def empty : Cache κ α := {}

/-- The stored value of a key. Looking does not count. -/
def get? (cache : Cache κ α) (key : κ) : Option α :=
  cache.entries.lookup key

def size (cache : Cache κ α) : Nat :=
  cache.entries.length

def isEmpty (cache : Cache κ α) : Bool :=
  cache.entries.isEmpty

/-- Removes the stored values. The counters go on. -/
def clear (cache : Cache κ α) : Cache κ α :=
  { cache with entries := [] }

def probe (cache : Cache κ α) (key : κ) : Option α × Cache κ α :=
  match cache.get? key with
  | some value => (some value, { cache with hits := cache.hits + 1 })
  | none => (none, { cache with misses := cache.misses + 1 })

/-- Stores a computed value unless the key has one by now, and gives the stored one. -/
def settle (cache : Cache κ α) (key : κ) (value : α) : α × Cache κ α :=
  match cache.get? key with
  | some stored => (stored, cache)
  | none => (value, { cache with entries := cache.entries ++ [(key, value)] })

/-- A cache that is part of a larger state, with the way to read it and to put it back. -/
structure Slot (σ κ α : Type) where
  read : σ → Cache κ α
  write : Cache κ α → σ → σ

/-- The value of a key in the cache at `slot`, computed and stored on a miss. -/
def fetch (slot : Slot σ κ α) (key : κ) (compute : StateM σ α) : StateM σ α := fun state =>
  match (slot.read state).probe key with
  | (some value, cache) => (value, slot.write cache state)
  | (none, cache) =>
    let (value, state) := compute (slot.write cache state)
    -- The computation may have asked for the key itself.
    let (value, cache) := (slot.read state).settle key value
    (value, slot.write cache state)

def whole : Slot (Cache κ α) κ α :=
  ⟨id, fun cache _ => cache⟩

def getOrCompute (key : κ) (compute : StateM (Cache κ α) α) : StateM (Cache κ α) α :=
  fetch whole key compute

/-- The share of hits among all look-ups that count, zero before the first. -/
def hitRate (cache : Cache κ α) : Binary64 :=
  let total := cache.hits + cache.misses
  if total = 0 then .zero else Binary64.ofNat cache.hits / Binary64.ofNat total

end Cache

end HostTypes
