import HostTypes.Proofs.Catalog.Aliases
import HostTypes.Proofs.Conversion.Running

/-!
How far a value is taken on its way to be stored. `serializeWith` leaves open how values are converted,
so that every conversion can be put on record (`serializeWith_recorded_run`). A walk has no more
conversions than hops (`Walks.length_le`), and it stops for want of hops only if it has come to some
entry twice (`Walks.revisits`). So the bound on the hops stops the walks that go in circles and no
others (`serialize_guard_exact`).
-/

namespace HostTypes

/-! ## Conversions on record -/

/-- A conversion that was asked for, with what came of it. -/
structure Conversion where
  value : Value
  target : TypeKey
  result : Option Value

/-- Converts a value and puts that on record. -/
def ConversionGraph.recorded (graph : ConversionGraph) (value : Value) (target : TypeKey) :
    StateT (List Conversion) Query (Option Value) := do
  let result ← graph.convert value target
  modify fun record => record ++ [⟨value, target, result⟩]
  return result

namespace Catalog

section

variable {m : Type → Type} [Monad m] [MonadLiftT Query m] (catalog : Catalog)
  (convert : Value → TypeKey → m (Option Value))

/-- Follows the types that values are stored as, with a way of its own to convert values. -/
def followWith : Nat → TypeEntry → Value → m (Option (TypeEntry × Value))
  | hops, entry, value =>
    match entry.serializeAs with
    | none => return some (entry, value)
    | some target =>
      match hops with
      | 0 => do
        liftM (notify (.aliasLoop entry.codeName))
        return none
      | hops + 1 => do
        match ← convert value target with
        | none => return none
        | some converted =>
          match catalog.entryFor? target with
          | none => return none
          | some next => followWith hops next converted

/-- Stores a value that has come to its closest entry. -/
def storeWith (first : TypeEntry) (value : Value) (onPrimary : Bool) : m (Option StoredValue) := do
  match ← catalog.followWith convert catalog.entries.length first value with
  | none => return none
  | some (entry, value) => liftM (entry.encode value onPrimary)

def serializeWith (value : Value) (onPrimary : Bool) : m (Option StoredValue) := do
  match ← liftM (catalog.closest? value.type) with
  | none => return none
  | some first => catalog.storeWith convert first value onPrimary

end

theorem followWith_convert (catalog : Catalog) (hops : Nat) (entry : TypeEntry) (value : Value) :
    catalog.followWith catalog.graph.convert hops entry value =
      catalog.followAliases hops entry value := by
  induction hops generalizing entry value with
  | zero =>
      unfold followWith followAliases
      rfl
  | succ hops ih =>
      unfold followWith followAliases
      cases entry.serializeAs with
      | none => rfl
      | some target =>
          refine bind_congr fun result => ?_
          cases result with
          | none => rfl
          | some converted =>
              cases catalog.entryFor? target with
              | none => rfl
              | some next => exact ih next converted

theorem serializeWith_convert (catalog : Catalog) (value : Value) (onPrimary : Bool) :
    catalog.serializeWith catalog.graph.convert value onPrimary =
      catalog.serialize value onPrimary := by
  unfold serializeWith serialize storeWith
  simp only [followWith_convert]
  rfl

end Catalog

/-! ## Notices -/

/-- Between two memories there was no notice of a loop. -/
def Memory.Unlooped (before after : Memory) : Prop :=
  ∃ added, after.notices = before.notices ++ added ∧ ∀ codeName, .aliasLoop codeName ∉ added

namespace Memory

variable {before between after : Memory}

theorem Unlooped.of_eq (same : after.notices = before.notices) : before.Unlooped after :=
  ⟨[], by rw [same, List.append_nil], nofun⟩

theorem Unlooped.of_concat {notice : Notice} (other : ∀ codeName, .aliasLoop codeName ≠ notice)
    (said : after.notices = before.notices ++ [notice]) : before.Unlooped after :=
  ⟨[notice], said, fun codeName member => other codeName (List.mem_singleton.1 member)⟩

theorem Unlooped.trans (early : before.Unlooped between) (late : between.Unlooped after) :
    before.Unlooped after := by
  obtain ⟨one, first, quietFirst⟩ := early
  obtain ⟨two, second, quietSecond⟩ := late
  refine ⟨one ++ two, by rw [second, first, List.append_assoc], fun codeName member => ?_⟩
  rcases List.mem_append.1 member with inside | inside
  · exact quietFirst codeName inside
  · exact quietSecond codeName inside

end Memory

theorem Catalog.notices_closest? (catalog : Catalog) (type : TypeKey) (memory : Memory) :
    ((catalog.closest? type).run memory).2.notices = memory.notices := by
  unfold closest? fetchClosest
  rw [StateT.run_bind]
  cases stored : (Memory.closestSlot.read memory).get? type with
  | some number =>
      rw [Cache.fetch_of_stored stored]
      rfl
  | none =>
      rw [Cache.fetch_of_missing stored]
      rfl

namespace ConversionGraph

variable {graph : ConversionGraph} {value result : Value} {target : TypeKey} {memory : Memory}

theorem notices_convert_of_result?
    (plain : ((graph.chain? value.type target).run memory).1 = graph.search value.type target)
    (converts : graph.result? value target = some result) :
    ((graph.convert value target).run memory).2.notices = memory.notices := by
  by_cases usable : graph.hierarchy.isAssignable value.type target
  · rw [convert_of_assignable usable]
  · obtain ⟨fits, chain, found, runs⟩ := (result?_eq_some_iff usable).1 converts
    rw [convert_run usable plain, found, Option.bind_some, applyChain_eq_some_iff.2 runs,
      Option.elim_some, checkResult_of_assignable fits, notices_chain?]

theorem unlooped_convert
    (plain : ((graph.chain? value.type target).run memory).1 = graph.search value.type target) :
    memory.Unlooped ((graph.convert value target).run memory).2 := by
  by_cases usable : graph.hierarchy.isAssignable value.type target
  · rw [convert_of_assignable usable]
    exact Memory.Unlooped.of_eq rfl
  · rw [convert_run usable plain]
    have looked := Memory.Unlooped.of_eq (graph.notices_chain? value.type target memory)
    refine looked.trans ?_
    cases (graph.search value.type target).bind (graph.applyChain · value) with
    | none => exact Memory.Unlooped.of_eq rfl
    | some result =>
        rw [Option.elim_some, checkResult]
        split
        · exact Memory.Unlooped.of_eq rfl
        · refine Memory.Unlooped.of_concat ?_ rfl
          simp

end ConversionGraph

theorem TypeEntry.unlooped_encode (entry : TypeEntry) (value : Value) (onPrimary : Bool)
    (memory : Memory) : memory.Unlooped ((entry.encode value onPrimary).run memory).2 := by
  have refused (error : CodecError) (memory : Memory) :
      memory.Unlooped ((notify (.serializeFailed entry.codeName error)).run memory).2 := by
    refine .of_concat ?_ rfl
    simp
  have warned : memory.Unlooped ((notify (.serializedOffPrimary entry.codeName)).run memory).2 := by
    refine .of_concat ?_ rfl
    simp
  unfold encode
  cases entry.serializer with
  | none => exact .of_eq rfl
  | some serializer =>
      dsimp only
      cases serializer.encode value with
      | ok bytes =>
          split
          · exact warned
          · exact .of_eq rfl
      | error error =>
          split
          · exact warned.trans (refused error _)
          · exact refused error memory

/-! ## Walks -/

namespace Catalog

/-- Why a walk stops. -/
inductive Stop where
  /-- It has come to an entry that stores its own values. -/
  | stored
  /-- The value cannot be had as one of the next type, or that type has no entry. -/
  | lost
  /-- There are no hops left. -/
  | loop

namespace Stop

variable {stop : Stop} {last : TypeEntry × Value} {before between after : Memory}

/-- What a walk gives that stops at some place. -/
def answer? : Stop → TypeEntry × Value → Option (TypeEntry × Value)
  | stored, last => some last
  | _, _ => none

/-- The notices of a walk that stops at some place. -/
def Notes : Stop → TypeEntry × Value → Memory → Memory → Prop
  | loop, last, before, after => after.notices = before.notices ++ [.aliasLoop last.1.codeName]
  | _, _, before, after => before.Unlooped after

theorem Notes.of_eq (notes : stop.Notes last between after)
    (same : between.notices = before.notices) : stop.Notes last before after := by
  cases stop with
  | loop => exact notes.trans (by rw [same])
  | _ => exact (Memory.Unlooped.of_eq same).trans notes

theorem Notes.unlooped (notes : stop.Notes last before after) (free : stop ≠ .loop) :
    before.Unlooped after := by
  cases stop with
  | loop => exact absurd rfl free
  | _ => exact notes

end Stop

/-- A walk with at most some hops, the conversions on it, the place where it stops, and why. -/
inductive Walks (catalog : Catalog) :
    Nat → TypeEntry × Value → List Conversion → TypeEntry × Value → Stop → Prop
  | final {hops : Nat} {entry : TypeEntry} {value : Value} (own : entry.serializeAs = none) :
      Walks catalog hops (entry, value) [] (entry, value) .stored
  | loop {entry : TypeEntry} {value : Value} {target : TypeKey}
      (named : entry.serializeAs = some target) :
      Walks catalog 0 (entry, value) [] (entry, value) .loop
  | declined {hops : Nat} {entry : TypeEntry} {value : Value} {target : TypeKey}
      (named : entry.serializeAs = some target)
      (declines : catalog.graph.result? value target = none) :
      Walks catalog (hops + 1) (entry, value) [⟨value, target, none⟩] (entry, value) .lost
  | unregistered {hops : Nat} {entry : TypeEntry} {value converted : Value} {target : TypeKey}
      (named : entry.serializeAs = some target)
      (converts : catalog.graph.result? value target = some converted)
      (unknown : catalog.entryFor? target = none) :
      Walks catalog (hops + 1) (entry, value) [⟨value, target, some converted⟩] (entry, value) .lost
  | step {hops : Nat} {entry next : TypeEntry} {value converted : Value} {target : TypeKey}
      {conversions : List Conversion} {last : TypeEntry × Value} {stop : Stop}
      (named : entry.serializeAs = some target)
      (converts : catalog.graph.result? value target = some converted)
      (located : catalog.entryFor? target = some next)
      (rest : Walks catalog hops (next, converted) conversions last stop) :
      Walks catalog (hops + 1) (entry, value) (⟨value, target, some converted⟩ :: conversions) last
        stop

variable {catalog : Catalog} {hops : Nat} {start last : TypeEntry × Value}
  {conversions : List Conversion} {stop : Stop}

theorem Walks.length_le (walks : catalog.Walks hops start conversions last stop) :
    conversions.length ≤ hops := by
  induction walks with
  | final | loop => exact Nat.zero_le _
  | declined | unregistered => exact Nat.le_add_left 1 _
  | step _ _ _ _ ih => exact Nat.succ_le_succ ih

theorem Walks.reaches (walks : catalog.Walks hops start conversions last stop) :
    Relation.ReflTransGen catalog.Forwards start last := by
  induction walks with
  | final | loop | declined | unregistered => exact .refl
  | step named converts located _ ih => exact ih.head ⟨_, named, converts, located⟩

theorem Walks.answer?_eq (walks : catalog.Walks hops start conversions last stop) :
    stop.answer? last = if last.1.serializeAs.isNone then some last else none := by
  induction walks with
  | final own => simp [Stop.answer?, own]
  | loop named | declined named | unregistered named => simp [Stop.answer?, named]
  | step _ _ _ _ ih => exact ih

theorem Walks.ends (walks : catalog.Walks hops start conversions last stop) (free : stop ≠ .loop)
    (next : TypeEntry × Value) : ¬ catalog.Forwards last next := by
  induction walks with
  | final own =>
      rintro ⟨_, named, _⟩
      rw [own] at named
      cases named
  | loop => exact absurd rfl free
  | declined named declines =>
      rintro ⟨_, again, converts, _⟩
      rw [named, Option.some.injEq] at again
      rw [← again, declines] at converts
      cases converts
  | unregistered named _ unknown =>
      rintro ⟨_, again, _, located⟩
      rw [named, Option.some.injEq] at again
      rw [← again, unknown] at located
      cases located
  | step _ _ _ _ ih => exact ih free

theorem Walks.exists_chain (walks : catalog.Walks hops start conversions last stop)
    (looped : stop = .loop) :
    ∃ rest : List (TypeEntry × Value), rest.length = hops ∧
      (start :: rest).IsChain catalog.Forwards := by
  induction walks with
  | final | declined | unregistered => cases looped
  | loop => exact ⟨[], rfl, .singleton _⟩
  | step named converts located _ ih =>
      obtain ⟨rest, length, chain⟩ := ih looped
      exact ⟨_ :: rest, congrArg (· + 1) length,
        .cons_cons ⟨_, named, converts, located⟩ chain⟩

theorem Walks.eq_loop (walks : catalog.Walks hops start conversions last stop)
    (loops : catalog.Loops start.1)
    (succeed : ∀ conversion ∈ conversions, conversion.result.isSome) : stop = .loop := by
  induction walks with
  | final own => exact absurd loops (not_loops_of_final own)
  | loop => rfl
  | declined => cases succeed _ List.mem_cons_self
  | unregistered named _ unknown =>
      obtain ⟨_, _, again, located⟩ := loops.exists_storedAs
      rw [named, Option.some.injEq] at again
      rw [← again, unknown] at located
      cases located
  | step named _ located _ ih =>
      exact ih (loops.step ⟨_, named, located⟩) (List.forall_mem_cons.1 succeed).2

/-- On its way to be stored a value comes back to an entry where it has been. -/
def Revisits (catalog : Catalog) (start : TypeEntry × Value) : Prop :=
  ∃ here there, Relation.ReflTransGen catalog.Forwards start here ∧
    Relation.TransGen catalog.Forwards here there ∧ there.1 = here.1

theorem Revisits.loops (revisits : catalog.Revisits start) : catalog.Loops start.1 := by
  obtain ⟨here, there, reaches, onward, same⟩ := revisits
  have cycle : Relation.TransGen catalog.StoredAs here.1 there.1 :=
    onward.lift Prod.fst fun _ _ => Forwards.storedAs
  exact ⟨here.1, reaches_storedAs reaches, same ▸ cycle⟩

theorem Walks.revisits (walks : catalog.Walks catalog.entries.length start conversions last stop)
    (registered : start.1 ∈ catalog.entries) (looped : stop = .loop) : catalog.Revisits start := by
  obtain ⟨rest, length, chain⟩ := walks.exists_chain looped
  -- With the first place these are more places than there are entries.
  exact exists_recurrence chain
    (fun _ reaches => registered_of_reaches registered (reaches_storedAs reaches)) length.ge

end Catalog

/-! ## Runs -/

theorem lift_run {α : Type} {query : Query α} {result : α} {record : List Conversion}
    {memory left : Memory} (runs : query.run memory = (result, left)) :
    ((liftM query : StateT (List Conversion) Query α).run record).run memory =
      ((result, record), left) := by
  have lifted : ((liftM query : StateT (List Conversion) Query α).run record).run memory =
    (((query.run memory).1, record), (query.run memory).2) := rfl
  rw [lifted, runs]

theorem ConversionGraph.recorded_run {graph : ConversionGraph} {value : Value} {target : TypeKey}
    {result : Option Value} {record : List Conversion} {memory left : Memory}
    (converts : (graph.convert value target).run memory = (result, left)) :
    ((graph.recorded value target).run record).run memory =
      ((result, record ++ [⟨value, target, result⟩]), left) := by
  have lifted : ((graph.recorded value target).run record).run memory =
    ((((graph.convert value target).run memory).1,
      record ++ [⟨value, target, ((graph.convert value target).run memory).1⟩]),
      ((graph.convert value target).run memory).2) := rfl
  rw [lifted, converts]

section

variable {catalog : Catalog} {value : Value} {onPrimary : Bool} {found : Option TypeEntry}
  {memory left : Memory}

theorem Catalog.serializeWith_run
    (closest : (catalog.closest? value.type).run memory = (found, left)) :
    (catalog.serializeWith catalog.graph.convert value onPrimary).run memory =
      (found.elim (pure none) fun first =>
        catalog.storeWith catalog.graph.convert first value onPrimary).run left := by
  have lifted : (liftM (catalog.closest? value.type) : Query (Option TypeEntry)).run memory =
    (found, left) := closest
  rw [serializeWith, StateT.run_bind, lifted]
  cases found <;> rfl

theorem Catalog.serializeWith_recorded_run
    (closest : (catalog.closest? value.type).run memory = (found, left)) :
    ((catalog.serializeWith catalog.graph.recorded value onPrimary).run []).run memory =
      ((found.elim (pure none) fun first =>
        catalog.storeWith catalog.graph.recorded first value onPrimary).run []).run left := by
  rw [serializeWith, StateT.run_bind, StateT.run_bind, lift_run closest]
  cases found <;> rfl

end

namespace Environment

variable {env : Environment} {memory : Memory}

theorem exists_convert_run (faithful : env.Faithful memory) (value : Value) (target : TypeKey) :
    let graph := env.catalog.graph
    ∃ left, (graph.convert value target).run memory = (graph.result? value target, left) ∧
      env.Faithful left ∧ memory.Unlooped left ∧
      ∀ result, graph.result? value target = some result → left.notices = memory.notices := by
  intro graph
  have plain := (env.computes_chain value.type target memory faithful).1
  obtain ⟨answer, kept, _⟩ := env.computes_convert value target memory faithful
  exact ⟨_, Prod.ext answer rfl, kept, ConversionGraph.unlooped_convert plain,
    fun _ => ConversionGraph.notices_convert_of_result? plain⟩

/-- Following aliases is a walk, with and without the record of its conversions. -/
theorem followWith_recorded_run (hops : Nat) (entry : TypeEntry) (value : Value)
    (record : List Conversion) (faithful : env.Faithful memory) :
    let catalog := env.catalog
    ∃ conversions last stop left, catalog.Walks hops (entry, value) conversions last stop ∧
      (catalog.followAliases hops entry value).run memory = (stop.answer? last, left) ∧
      ((catalog.followWith catalog.graph.recorded hops entry value).run record).run memory =
        ((stop.answer? last, record ++ conversions), left) ∧
      stop.Notes last memory left := by
  intro catalog
  induction hops generalizing entry value record memory with
  | zero =>
      unfold Catalog.followWith Catalog.followAliases
      cases named : entry.serializeAs with
      | none =>
          refine ⟨[], _, .stored, memory, .final named, rfl, ?_, Memory.Unlooped.of_eq rfl⟩
          rw [List.append_nil]
          rfl
      | some target =>
          refine ⟨[], _, .loop, _, .loop named, rfl, ?_, rfl⟩
          rw [List.append_nil]
          rfl
  | succ hops ih =>
      unfold Catalog.followWith Catalog.followAliases
      cases named : entry.serializeAs with
      | none =>
          refine ⟨[], _, .stored, memory, .final named, rfl, ?_, Memory.Unlooped.of_eq rfl⟩
          rw [List.append_nil]
          rfl
      | some target =>
          obtain ⟨left, ran, kept, calm, silent⟩ := exists_convert_run faithful value target
          dsimp only
          rw [StateT.run_bind, StateT.run_bind, StateT.run_bind, ran,
            ConversionGraph.recorded_run ran]
          cases converts : catalog.graph.result? value target with
          | none =>
              exact ⟨[⟨value, target, none⟩], _, .lost, left, .declined named converts, rfl, rfl, calm⟩
          | some converted =>
              cases located : catalog.entryFor? target with
              | none =>
                  exact ⟨[⟨value, target, some converted⟩], _, .lost, left,
                    .unregistered named converts located, rfl, rfl, calm⟩
              | some next =>
                  obtain ⟨conversions, last, stop, after, walks, answers, records, notes⟩ :=
                    ih next converted (record ++ [⟨value, target, some converted⟩]) kept
                  -- A conversion that succeeds gives no notice, so all of them are from the rest.
                  have heard := notes.of_eq (silent converted converts)
                  rw [List.append_assoc] at records
                  exact ⟨⟨value, target, some converted⟩ :: conversions, last, stop, after,
                    .step named converts located walks, answers, records, heard⟩

theorem storeWith_recorded_run (first : TypeEntry) (value : Value) (onPrimary : Bool)
    (faithful : env.Faithful memory) :
    let catalog := env.catalog
    ∃ conversions last stop left,
      catalog.Walks catalog.entries.length (first, value) conversions last stop ∧
      let answer := (stop.answer? last).bind fun place => place.1.encoded? place.2
      (catalog.storeWith catalog.graph.convert first value onPrimary).run memory = (answer, left) ∧
      ((catalog.storeWith catalog.graph.recorded first value onPrimary).run []).run memory =
        ((answer, conversions), left) ∧
      stop.Notes last memory left := by
  intro catalog
  obtain ⟨conversions, last, stop, after, walks, answers, records, notes⟩ :=
    followWith_recorded_run catalog.entries.length first value [] faithful
  obtain ⟨_, kept, _⟩ :=
    env.computes_followAliases catalog.entries.length first value memory faithful
  rw [answers] at kept
  unfold Catalog.storeWith
  rw [StateT.run_bind, StateT.run_bind, StateT.run_bind, Catalog.followWith_convert, answers,
    records]
  cases stop with
  | stored =>
      have encodes := (env.computes_encode last.1 last.2 onPrimary after kept).1
      have unlooped := notes.trans (last.1.unlooped_encode last.2 onPrimary after)
      exact ⟨conversions, last, .stored, _, walks, Prod.ext encodes rfl,
        lift_run (Prod.ext encodes rfl), unlooped⟩
  | lost => exact ⟨conversions, last, .lost, after, walks, rfl, rfl, notes⟩
  | loop => exact ⟨conversions, last, .loop, after, walks, rfl, rfl, notes⟩

end Environment

/-! ## The statement -/

theorem serialize_guard_exact (env : Environment) (questions : List Environment.Question)
    (value : Value) (onPrimary : Bool) :
    let catalog := env.catalog
    let memory := env.memoryAfter questions
    let outcome := (catalog.serialize value onPrimary).run memory
    catalog.serializeWith catalog.graph.convert value onPrimary = catalog.serialize value onPrimary ∧
    ∃ conversions,
      ((catalog.serializeWith catalog.graph.recorded value onPrimary).run []).run memory =
        ((outcome.1, conversions), outcome.2) ∧
      conversions.length ≤ catalog.entries.length ∧
      ∀ first, ((catalog.closest? value.type).run memory).1 = some first →
        (¬ catalog.Revisits (first, value) →
          memory.Unlooped outcome.2 ∧
          ∃ last, Relation.ReflTransGen catalog.Forwards (first, value) last ∧
            (∀ next, ¬ catalog.Forwards last next) ∧
            outcome.1 = if last.1.serializeAs.isNone then last.1.encoded? last.2 else none) ∧
        (catalog.Revisits (first, value) →
          (∀ conversion ∈ conversions, conversion.result.isSome) →
          outcome.1 = none ∧ ∃ looped,
            Relation.ReflTransGen catalog.Forwards (first, value) looped ∧
            outcome.2.notices = memory.notices ++ [.aliasLoop looped.1.codeName]) := by
  intro catalog memory outcome
  have faithful := env.faithful_memoryAfter questions
  have same := catalog.serializeWith_convert value onPrimary
  obtain ⟨answer, kept, _⟩ := env.computes_closest value.type memory faithful
  have quiet := catalog.notices_closest? value.type memory
  cases ran : (catalog.closest? value.type).run memory with
  | mk found left =>
      rw [ran] at kept quiet answer
      refine ⟨same, ?_⟩
      unfold outcome
      rw [← same, Catalog.serializeWith_run ran, Catalog.serializeWith_recorded_run ran]
      cases found with
      | none => exact ⟨[], rfl, Nat.zero_le _, nofun⟩
      | some first =>
          have registered := Catalog.registered_of_closestEntry? answer.symm
          obtain ⟨conversions, last, stop, after, walks, answers, records, notes⟩ :=
            Environment.storeWith_recorded_run first value onPrimary kept
          have heard := notes.of_eq quiet
          rw [Option.elim_some, Option.elim_some, answers, records]
          refine ⟨conversions, rfl, walks.length_le, fun other taken => ?_⟩
          obtain rfl : first = other := Option.some.inj taken
          refine ⟨fun fresh => ?_, fun revisits succeed => ?_⟩
          · have free : stop ≠ .loop := fun looped => fresh (walks.revisits registered looped)
            refine ⟨heard.unlooped free, last, walks.reaches, walks.ends free, ?_⟩
            rw [walks.answer?_eq]
            split <;> rfl
          · obtain rfl := walks.eq_loop revisits.loops succeed
            exact ⟨rfl, last, walks.reaches, heard⟩

/-- An entry that has its values stored as those of another type. -/
def TypeEntry.delegate (codeName : String) (native target : TypeKey) : TypeEntry where
  codeName := codeName
  native := native
  serializeAs := some target

/-- Two entries whose values are stored as each other's. -/
def Catalog.ring : Catalog where
  hierarchy := .diamond
  display := {}
  entries := [.delegate "located" ⟨2⟩ ⟨1⟩, .delegate "named" ⟨1⟩ ⟨2⟩]
  graph := ⟨.diamond,
    [{ source := ⟨2⟩, target := ⟨1⟩, apply := fun value => some ⟨⟨1⟩, value.payload⟩ },
      { source := ⟨1⟩, target := ⟨2⟩, apply := fun value => some ⟨⟨2⟩, value.payload⟩ }]⟩
  issues := []

def Environment.ring : Environment :=
  ⟨.ring, ⟨.diamond, Catalog.ring.graph, []⟩, rfl⟩

theorem Catalog.ring_revisits (payload : Payload) :
    ring.Revisits (.delegate "located" ⟨2⟩ ⟨1⟩, ⟨⟨2⟩, payload⟩) := by
  have away : ring.Forwards (.delegate "located" ⟨2⟩ ⟨1⟩, ⟨⟨2⟩, payload⟩)
      (.delegate "named" ⟨1⟩ ⟨2⟩, ⟨⟨1⟩, payload⟩) := ⟨⟨1⟩, rfl, rfl, rfl⟩
  have back : ring.Forwards (.delegate "named" ⟨1⟩ ⟨2⟩, ⟨⟨1⟩, payload⟩)
      (.delegate "located" ⟨2⟩ ⟨1⟩, ⟨⟨2⟩, payload⟩) := ⟨⟨2⟩, rfl, rfl, rfl⟩
  exact ⟨_, _, .refl, .tail (.single away) back, rfl⟩

theorem serialize_guard_exact_ring :
    let value : Value := ⟨⟨2⟩, .truth true⟩
    let around := (Catalog.ring.serialize value true).run {}
    let straight := (Catalog.relay.serialize value true).run {}
    (∃ first, Catalog.ring.closestEntry? value.type = some first ∧
        Catalog.ring.Revisits (first, value)) ∧
      around.1 = none ∧
      (∃ looped : TypeEntry × Value, around.2.notices = [.aliasLoop looped.1.codeName]) ∧
      (∃ first, Catalog.relay.closestEntry? value.type = some first ∧
        ¬ Catalog.relay.Revisits (first, value)) ∧
      Memory.Unlooped {} straight.2 := by
  intro value around straight
  have revisits := Catalog.ring_revisits (.truth true)
  have fresh (first : TypeEntry)
      (closest : Catalog.relay.closestEntry? value.type = some first) :
      ¬ Catalog.relay.Revisits (first, value) := by
    intro revisits
    cases closest
    have next := revisits.loops.step ⟨⟨1⟩, rfl, rfl⟩
    exact Catalog.not_loops_of_final rfl next
  obtain ⟨_, conversions, records, _, exact⟩ := serialize_guard_exact .ring [] value true
  obtain ⟨_, _, _, _, exactRelay⟩ := serialize_guard_exact .relay [] value true
  have listed : [⟨value, ⟨1⟩, some ⟨⟨1⟩, .truth true⟩⟩, ⟨⟨⟨1⟩, .truth true⟩, ⟨2⟩, some value⟩] =
    conversions := congrArg (fun run => run.1.2) records
  obtain ⟨refused, looped, _, notices⟩ := (exact _ rfl).2 revisits (by simp [← listed])
  exact ⟨⟨_, rfl, revisits⟩, refused, ⟨looped, notices⟩, ⟨_, rfl, fresh _ rfl⟩,
    ((exactRelay _ rfl).1 (fresh _ rfl)).1⟩

end HostTypes
