import HostTypes.Proofs.Query.Growth

/-!
Nested look-ups. The computation of a missing key may ask the same cache for other keys, and for the
same one. The history of a cache lists what happens to it, call by call and within calls; each entry of
the history is a step from the cache before it (`Steps.history`), and what holds at every moment
follows by induction on the steps (`nested_calls`).
-/

namespace HostTypes

/-- A computation of a value that asks a cache for keys on the way. How it goes on depends on the
answers, and so may the computation of a key that is missing. -/
inductive Computation (κ α : Type) where
  | done (value : α)
  | ask (key : κ) (compute : Computation κ α) (next : α → Computation κ α)

/-- What happens to a cache. A call for a key that is stored finds the value; a call for another key
starts a computation and, when this is over, has a value computed. -/
inductive CacheEvent (κ α : Type) where
  | found (key : κ) (value : α)
  | started (key : κ)
  | computed (key : κ) (value : α)
  | looked (key : κ) (answer : Option α)
  | cleared
  deriving DecidableEq

namespace CacheEvent

variable {κ α : Type}

def isHit : CacheEvent κ α → Bool
  | found .. => true
  | _ => false

def isMiss : CacheEvent κ α → Bool
  | started _ => true
  | _ => false

/-- A call begins, to end at once or after a computation. -/
def begins (event : CacheEvent κ α) : Bool :=
  event.isHit || event.isMiss

/-- A call for the key ends and gives the value. -/
def Returns (event : CacheEvent κ α) (key : κ) (value : α) : Prop :=
  event = found key value ∨ event = computed key value

theorem countP_begins (events : List (CacheEvent κ α)) :
    events.countP begins = events.countP isHit + events.countP isMiss := by
  induction events with
  | nil => rfl
  | cons event events ih =>
      rw [List.countP_cons, List.countP_cons, List.countP_cons, ih]
      cases event <;> simp [begins, isHit, isMiss] <;> omega

end CacheEvent

/-- An event with the cache that it leaves. -/
structure Moment (κ α : Type) where
  event : CacheEvent κ α
  cache : Cache κ α

/-- A call from outside all computations. -/
inductive CacheCall (κ α : Type) where
  | ask (key : κ) (compute : Computation κ α)
  | look (key : κ)
  | clear

variable {κ α : Type} [BEq κ]

namespace Computation

def run : Computation κ α → StateM (Cache κ α) α
  | done value => pure value
  | ask key compute next => do
    let value ← Cache.getOrCompute key compute.run
    (next value).run

/-- The moments of a computation that runs in the given cache. -/
def moments : Computation κ α → Cache κ α → List (Moment κ α)
  | done _, _ => []
  | ask key compute next, cache =>
    let returned := (Cache.getOrCompute key compute.run).run cache
    (match cache.get? key with
      | some _ => [⟨.found key returned.1, returned.2⟩]
      | none =>
        ⟨.started key, cache.miss⟩ :: compute.moments cache.miss ++
          [⟨.computed key returned.1, returned.2⟩]) ++
      (next returned.1).moments returned.2

end Computation

namespace CacheCall

def perform : CacheCall κ α → Cache κ α → Cache κ α
  | ask key compute, cache => ((Cache.getOrCompute key compute.run).run cache).2
  | look _, cache => cache
  | clear, cache => cache.clear

def performAll (calls : List (CacheCall κ α)) (cache : Cache κ α) : Cache κ α :=
  calls.foldl (fun cache call => call.perform cache) cache

def moments : CacheCall κ α → Cache κ α → List (Moment κ α)
  | ask key compute, cache => (Computation.ask key compute .done).moments cache
  | look key, cache => [⟨.looked key (cache.get? key), cache⟩]
  | clear, cache => [⟨.cleared, cache.clear⟩]

/-- All moments of some calls, one call after the other. -/
def history : List (CacheCall κ α) → Cache κ α → List (Moment κ α)
  | [], _ => []
  | call :: calls, cache => call.moments cache ++ history calls (call.perform cache)

end CacheCall

namespace Cache

variable {cache : Cache κ α} {key : κ} {value : α} {moment : Moment κ α}
  {moments before after : List (Moment κ α)} {depth next : Nat}

theorem getOrCompute_of_stored (stored : cache.get? key = some value)
    (compute : StateM (Cache κ α) α) :
    (getOrCompute key compute).run cache = (value, cache.hit) := by
  have whole : (Slot.read whole cache).get? key = some value := stored
  exact fetch_of_stored whole

theorem getOrCompute_of_missing (missing : cache.get? key = none)
    (compute : StateM (Cache κ α) α) :
    (getOrCompute key compute).run cache =
      (compute.run cache.miss).2.settle key (compute.run cache.miss).1 := by
  have whole : (Slot.read whole cache).get? key = none := missing
  exact fetch_of_missing whole

theorem settle_of_stored (stored : cache.get? key = some value) (late : α) :
    cache.settle key late = (value, cache) := by
  simp only [settle, stored]

/-! ## Steps -/

/-- One moment of a history, given the cache before it. The numbers count the calls that have started a
computation and have not come back, before the moment and after it. -/
inductive Step : Nat → Cache κ α → Moment κ α → Nat → Prop
  | found {depth : Nat} {cache : Cache κ α} {key : κ} {value : α}
      (stored : cache.get? key = some value) : Step depth cache ⟨.found key value, cache.hit⟩ depth
  | started {depth : Nat} {cache : Cache κ α} {key : κ} (missing : cache.get? key = none) :
      Step depth cache ⟨.started key, cache.miss⟩ (depth + 1)
  | computed {depth : Nat} {cache : Cache κ α} (key : κ) (value : α) :
      Step (depth + 1) cache
        ⟨.computed key (cache.settle key value).1, (cache.settle key value).2⟩ depth
  | looked {depth : Nat} {cache : Cache κ α} (key : κ) :
      Step depth cache ⟨.looked key (cache.get? key), cache⟩ depth
  | cleared {depth : Nat} {cache : Cache κ α} : Step depth cache ⟨.cleared, cache.clear⟩ depth

/-- A history that begins with the empty cache, with the cache at its end. -/
inductive Steps : List (Moment κ α) → Nat → Cache κ α → Prop
  | start : Steps [] 0 empty
  | step {moments : List (Moment κ α)} {moment : Moment κ α} {depth next : Nat} {cache : Cache κ α}
      (steps : Steps moments depth cache) (last : Step depth cache moment next) :
      Steps (moments ++ [moment]) next moment.cache

/-- A call that computes is a step into the computation, the steps of it, and a step back. -/
theorem Steps.computation (steps : Steps moments depth cache) (computation : Computation κ α) :
    Steps (moments ++ computation.moments cache) depth (computation.run.run cache).2 := by
  induction computation generalizing moments depth cache with
  | done value =>
      rw [Computation.moments, List.append_nil]
      exact steps
  | ask key compute next ihCompute ihNext =>
      have ran : (Computation.ask key compute next).run.run cache =
        (next ((getOrCompute key compute.run).run cache).1).run.run
          ((getOrCompute key compute.run).run cache).2 := rfl
      rw [ran, Computation.moments]
      cases found : cache.get? key with
      | some value =>
          rw [getOrCompute_of_stored found]
          have goesOn := ihNext value (steps.step (.found found))
          simpa only [List.append_assoc] using goesOn
      | none =>
          rw [getOrCompute_of_missing found]
          have inner := ihCompute (steps.step (.started found))
          have back := inner.step (.computed key (compute.run.run cache.miss).1)
          have goesOn :=
            ihNext ((compute.run.run cache.miss).2.settle key (compute.run.run cache.miss).1).1 back
          simpa only [List.append_assoc, List.cons_append, List.nil_append] using goesOn

theorem Steps.call (steps : Steps moments 0 cache) (call : CacheCall κ α) :
    Steps (moments ++ call.moments cache) 0 (call.perform cache) := by
  cases call with
  | ask key compute => exact steps.computation (.ask key compute .done)
  | look key => exact steps.step (.looked key)
  | clear => exact steps.step .cleared

theorem Steps.calls (steps : Steps moments 0 cache) (calls : List (CacheCall κ α)) :
    Steps (moments ++ CacheCall.history calls cache) 0 (CacheCall.performAll calls cache) := by
  induction calls generalizing moments cache with
  | nil =>
      rw [CacheCall.history, List.append_nil]
      exact steps
  | cons call calls ih =>
      rw [CacheCall.history, ← List.append_assoc]
      exact ih (steps.call call)

theorem Steps.history (calls : List (CacheCall κ α)) :
    Steps (CacheCall.history calls empty) 0 (CacheCall.performAll calls empty) :=
  Steps.start.calls calls

omit [BEq κ] in
/-- Each moment of a history is its last one or is earlier. -/
theorem split_concat {last : Moment κ α} (split : moments ++ [last] = before ++ moment :: after) :
    (moments = before ∧ last = moment ∧ after = []) ∨
      ∃ between, after = between ++ [last] ∧ moments = before ++ moment :: between := by
  rcases List.eq_nil_or_concat after with rfl | ⟨between, final, rfl⟩
  · obtain ⟨same, final⟩ := List.append_inj' split rfl
    exact .inl ⟨same, List.singleton_inj.1 final, rfl⟩
  · rw [List.concat_eq_append, ← List.cons_append, ← List.append_assoc] at split
    obtain ⟨same, final⟩ := List.append_inj' split rfl
    exact .inr ⟨between, by rw [List.concat_eq_append, List.singleton_inj.1 final], same⟩

/-- A history is made of steps up to each of its moments. -/
theorem Steps.cut (steps : Steps moments depth cache) (split : moments = before ++ moment :: after) :
    ∃ depth cache next, Steps before depth cache ∧ Step depth cache moment next := by
  induction steps generalizing after with
  | start => cases List.append_eq_nil_iff.1 split.symm |>.2
  | step steps last ih =>
      rcases split_concat split with ⟨rfl, rfl, _⟩ | ⟨between, _, earlier⟩
      · exact ⟨_, _, _, steps, last⟩
      · exact ih earlier

theorem Steps.eq_of_concat (steps : Steps moments depth cache) (split : moments = before ++ [moment]) :
    moment.cache = cache := by
  cases steps with
  | start => cases List.append_eq_nil_iff.1 split.symm |>.2
  | step _ _ => rw [List.singleton_inj.1 (List.append_inj' split rfl).2]

/-! ## What a step preserves -/

/-- What is stored stays, whatever else is settled. -/
theorem get?_settle_of_stored (stored : cache.get? key = some value) (other : κ) (computed : α) :
    (cache.settle other computed).2.get? key = some value := by
  cases found : cache.get? other with
  | some kept =>
      rw [settle_of_stored found]
      exact stored
  | none =>
      rw [settle_of_missing found]
      simp only [get?] at stored
      simp [get?, insert, List.lookup_append, stored]

theorem Step.keeps (step : Step depth cache moment next) (kept : moment.event ≠ .cleared)
    (stored : cache.get? key = some value) : moment.cache.get? key = some value := by
  cases step with
  | computed other computed => exact get?_settle_of_stored stored other computed
  | cleared => exact absurd rfl kept
  | _ => exact stored

theorem Step.looked_eq (step : Step depth cache moment next) {answer : Option α}
    (looks : moment.event = .looked key answer) : answer = cache.get? key := by
  cases step <;> cases looks
  rfl

/-- What is stored at a moment stays until the next clearing. -/
theorem Steps.keeps (steps : Steps moments depth cache) {earlier : Moment κ α}
    (split : moments = before ++ earlier :: after) (kept : ∀ moment ∈ after, moment.event ≠ .cleared)
    (stored : earlier.cache.get? key = some value) : cache.get? key = some value := by
  induction steps generalizing after with
  | start => cases List.append_eq_nil_iff.1 split.symm |>.2
  | step steps last ih =>
      rcases split_concat split with ⟨_, rfl, _⟩ | ⟨between, rfl, same⟩
      · exact stored
      · obtain ⟨early, late⟩ := List.forall_mem_append.1 kept
        exact last.keeps (late _ (List.mem_singleton_self _)) (ih same early)

variable [LawfulBEq κ]

theorem get?_settle (cache : Cache κ α) (key : κ) (value : α) :
    (cache.settle key value).2.get? key = some (cache.settle key value).1 := by
  cases found : cache.get? key with
  | some stored =>
      rw [settle_of_stored found]
      exact found
  | none =>
      rw [settle_of_missing found]
      simp only [get?] at found
      simp [get?, insert, List.lookup_append, found]

theorem Step.stores (step : Step depth cache moment next) (returns : moment.event.Returns key value) :
    moment.cache.get? key = some value := by
  cases step with
  | found stored =>
      rcases returns with same | same <;> cases same
      exact stored
  | computed asked made =>
      rcases returns with same | same <;> cases same
      exact get?_settle cache key made
  | _ => rcases returns with same | same <;> cases same

/-- A call that ends gives what is stored for its key, if anything is. -/
theorem Step.returns_stored (step : Step depth cache moment next)
    (stored : cache.get? key = some value) {other : α} (returns : moment.event.Returns key other) :
    other = value := by
  have kept : moment.event ≠ .cleared := by
    rintro cleared
    rcases returns with same | same <;> rw [cleared] at same <;> cases same
  exact Option.some.inj ((step.stores returns).symm.trans (step.keeps kept stored))

theorem mem_keys_settle (cache : Cache κ α) (key : κ) (value : α) (other : κ) :
    other ∈ (cache.settle key value).2.keys ↔ other ∈ cache.keys ∨ other = key := by
  cases found : cache.get? key with
  | some stored =>
      have present := mem_keys_of_get? found
      rw [settle_of_stored found]
      exact ⟨.inl, fun either => either.elim id fun same => same ▸ present⟩
  | none => rw [settle_of_missing found, keys_insert, List.mem_append, List.mem_singleton]

/-- Without clearing, a step stores the key of the call that ends with it, if one does. -/
theorem Step.mem_keys (step : Step depth cache moment next) (kept : moment.event ≠ .cleared) :
    key ∈ moment.cache.keys ↔ key ∈ cache.keys ∨ ∃ value, moment.event.Returns key value := by
  cases step with
  | found stored =>
      have present := mem_keys_of_get? stored
      constructor
      · exact .inl
      · rintro (old | ⟨_, same | same⟩)
        · exact old
        · obtain ⟨rfl, _⟩ := CacheEvent.found.inj same
          exact present
        · cases same
  | computed asked made =>
      rw [mem_keys_settle]
      refine or_congr_right ⟨?_, ?_⟩
      · rintro rfl
        exact ⟨_, .inr rfl⟩
      · rintro ⟨_, same | same⟩ <;> cases same
        rfl
  | cleared => exact absurd rfl kept
  | _ =>
      refine ⟨.inl, ?_⟩
      rintro (old | ⟨_, same | same⟩)
      · exact old
      all_goals cases same

/-! ## What a history preserves -/

/-- The counters are right, no key is stored twice, and of the calls that missed those have at most
stored a value that have come back. -/
structure Accounts (moments : List (Moment κ α)) (depth : Nat) (cache : Cache κ α) : Prop where
  hits : cache.hits = (moments.map Moment.event).countP CacheEvent.isHit
  misses : cache.misses = (moments.map Moment.event).countP CacheEvent.isMiss
  nodup : cache.keys.Nodup
  balance : cache.size + depth ≤ cache.misses

omit [BEq κ] [LawfulBEq κ] in
theorem countP_concat (moments : List (Moment κ α)) (moment : Moment κ α)
    (counted : CacheEvent κ α → Bool) :
    ((moments ++ [moment]).map Moment.event).countP counted =
      (moments.map Moment.event).countP counted + if counted moment.event then 1 else 0 := by
  rw [List.map_append, List.countP_append, List.map_singleton, List.countP_singleton]

theorem Accounts.step (accounts : Accounts moments depth cache)
    (step : Step depth cache moment next) : Accounts (moments ++ [moment]) next moment.cache := by
  obtain ⟨hits, misses, nodup, balance⟩ := accounts
  cases step with
  | found stored =>
      exact ⟨by rw [countP_concat, ← hits]; rfl, by rw [countP_concat, ← misses]; rfl, nodup, balance⟩
  | started missing =>
      refine ⟨by rw [countP_concat, ← hits]; rfl, by rw [countP_concat, ← misses]; rfl, nodup, ?_⟩
      exact Nat.succ_le_succ balance
  | @computed depth _ asked made =>
      cases found : cache.get? asked with
      | some stored =>
          rw [settle_of_stored found]
          refine ⟨by rw [countP_concat, ← hits]; rfl, by rw [countP_concat, ← misses]; rfl, nodup, ?_⟩
          exact Nat.le_of_succ_le balance
      | none =>
          rw [settle_of_missing found]
          refine ⟨by rw [countP_concat, ← hits]; rfl, by rw [countP_concat, ← misses]; rfl, ?_, ?_⟩
          · have fresh := get?_eq_none_iff.1 found
            rw [keys_insert, List.nodup_append_comm, List.singleton_append, List.nodup_cons]
            exact ⟨fresh, nodup⟩
          · rw [size_insert]
            exact (Nat.succ_add_eq_add_succ _ _).trans_le balance
  | looked asked =>
      exact ⟨by rw [countP_concat, ← hits]; rfl, by rw [countP_concat, ← misses]; rfl, nodup, balance⟩
  | cleared =>
      refine ⟨by rw [countP_concat, ← hits]; rfl, by rw [countP_concat, ← misses]; rfl, .nil, ?_⟩
      exact (Nat.zero_add depth).trans_le ((Nat.le_add_left depth _).trans balance)

theorem Steps.accounts (steps : Steps moments depth cache) : Accounts moments depth cache := by
  induction steps with
  | start => exact ⟨rfl, rfl, .nil, Nat.le_refl _⟩
  | step _ last ih => exact ih.step last

theorem Steps.mem_keys (steps : Steps moments depth cache)
    (kept : ∀ moment ∈ moments, moment.event ≠ .cleared) :
    key ∈ cache.keys ↔ ∃ moment ∈ moments, ∃ value, moment.event.Returns key value := by
  induction steps with
  | start => simp [empty, keys]
  | step steps last ih =>
      obtain ⟨early, late⟩ := List.forall_mem_append.1 kept
      rw [last.mem_keys (late _ (List.mem_singleton_self _)), ih early]
      simp only [List.mem_append, List.mem_singleton, or_and_right, exists_or, exists_eq_left]

end Cache

/-! ## The statement -/

theorem nested_calls [LawfulBEq κ] (calls : List (CacheCall κ α)) (before after : List (Moment κ α))
    (moment : Moment κ α) (split : CacheCall.history calls .empty = before ++ moment :: after) :
    let cache := moment.cache
    let events := (before ++ [moment]).map Moment.event
    (after = [] → cache = CacheCall.performAll calls .empty) ∧
    (∀ key value, moment.event.Returns key value → cache.get? key = some value) ∧
    (∀ first earlier between, before = first ++ earlier :: between →
      (∀ other ∈ between, other.event ≠ .cleared) → ∀ key value,
        earlier.cache.get? key = some value →
          (moment.event ≠ .cleared → cache.get? key = some value) ∧
          (∀ other, moment.event.Returns key other → other = value) ∧
          ∀ answer, moment.event = .looked key answer → answer = some value) ∧
    cache.hits = events.countP CacheEvent.isHit ∧
    cache.misses = events.countP CacheEvent.isMiss ∧
    cache.hits + cache.misses = events.countP CacheEvent.begins ∧
    cache.keys.Nodup ∧ cache.size ≤ cache.misses ∧
    (.cleared ∉ events → ∀ key, key ∈ cache.keys ↔
      ∃ event ∈ events, ∃ value, event.Returns key value) := by
  intro cache events
  have history := Cache.Steps.history calls
  obtain ⟨depth, old, next, steps, step⟩ := history.cut split
  obtain ⟨hits, misses, nodup, balance⟩ := (steps.step step).accounts
  refine ⟨?_, fun key value => step.stores, ?_, hits, misses, ?_, nodup,
    (Nat.le_add_right _ _).trans balance, ?_⟩
  · rintro rfl
    exact history.eq_of_concat split
  · intro first earlier between early kept key value stored
    have still := steps.keeps early kept stored
    refine ⟨fun stays => step.keeps stays still, fun other => step.returns_stored still, ?_⟩
    intro answer looks
    rw [step.looked_eq looks, still]
  · rw [CacheEvent.countP_begins, ← hits, ← misses]
  · intro kept key
    rw [(steps.step step).mem_keys fun other member cleared =>
      kept (cleared ▸ List.mem_map_of_mem member)]
    simp only [events, List.mem_map, exists_exists_and_eq_and]

/-- The computation of the first key asks for the second, and that of the second for the first again. -/
def CacheCall.entangled : List (CacheCall Nat Nat) :=
  [.ask 1 (.ask 2 (.ask 1 (.done 5) fun inner => .done (inner + 1)) fun inner => .done (inner + 10)),
    .look 1, .clear]

theorem nested_calls_entangled :
    let before : List (Moment Nat Nat) :=
      [⟨.started 1, ⟨[], 0, 1⟩⟩, ⟨.started 2, ⟨[], 0, 2⟩⟩, ⟨.started 1, ⟨[], 0, 3⟩⟩,
        ⟨.computed 1 5, ⟨[(1, 5)], 0, 3⟩⟩, ⟨.computed 2 6, ⟨[(1, 5), (2, 6)], 0, 3⟩⟩]
    let moment : Moment Nat Nat := ⟨.computed 1 5, ⟨[(1, 5), (2, 6)], 0, 3⟩⟩
    let after : List (Moment Nat Nat) :=
      [⟨.looked 1 (some 5), ⟨[(1, 5), (2, 6)], 0, 3⟩⟩, ⟨.cleared, ⟨[], 0, 3⟩⟩]
    CacheCall.history CacheCall.entangled .empty = before ++ moment :: after ∧
      moment.cache.get? 1 = some 5 ∧
      (∀ other, moment.event.Returns 1 other → other = 5) ∧
      moment.cache.hits + moment.cache.misses = 3 ∧ moment.cache.size ≤ moment.cache.misses := by
  intro before moment after
  have split : CacheCall.history CacheCall.entangled .empty = before ++ moment :: after := rfl
  obtain ⟨_, stores, keeps, _, _, counts, _, bounded, _⟩ :=
    nested_calls CacheCall.entangled before after moment split
  obtain ⟨_, returns, _⟩ := keeps (before.take 3) _ (before.drop 4) rfl (by decide) 1 5 rfl
  exact ⟨split, stores 1 5 (.inr rfl), returns, counts, bounded⟩

end HostTypes
