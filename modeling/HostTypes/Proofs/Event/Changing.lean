import HostTypes.Proofs.Event.Session
import HostTypes.Proofs.Hierarchy.Reachability

/-!
Changes that are announced and carried out. A table of supported modes has for every mode the delta types
that were given for it last (`ChangeTable.acceptedDeltas_acceptAll`). What runs the action of a table is
left open in `changeWith`, so that its runs can be put on record. An unsupported mode is refused without a
run, and an expression refuses exactly the changes of which it says so before (`change_announced`).
-/

namespace HostTypes

/-! ## Tables -/

namespace ChangeTable

/-- A table after calls of `accept`. -/
def acceptAll (apply : ApplyChange) (calls : List (ChangeMode × List TypeKey)) : ChangeTable :=
  calls.foldl (fun table call => table.accept call.1 call.2) (ofAction apply)

theorem acceptedDeltas_accept (table : ChangeTable) (mode other : ChangeMode) (deltas : List TypeKey) :
    (table.accept mode deltas).acceptedDeltas other =
      if other = mode then some deltas else table.acceptedDeltas other := by
  rw [acceptedDeltas, accept, List.find?_append, List.find?_filter]
  split_ifs with same
  · subst same
    have dropped : table.rows.find? (fun row => decide (row.1 != other ∧ row.1 == other)) = none := by
      simp [List.find?_eq_none]
    rw [dropped]
    simp
  · have kept : (fun row : ChangeMode × List TypeKey => decide (row.1 != mode ∧ row.1 == other)) =
        fun row => row.1 == other := by
      funext row
      by_cases found : row.1 = other
      · simp [found, same]
      · simp [found]
    rw [kept]
    simp [acceptedDeltas, Ne.symm same]

theorem acceptedDeltas_acceptAll (apply : ApplyChange) (calls : List (ChangeMode × List TypeKey))
    (mode : ChangeMode) : (acceptAll apply calls).acceptedDeltas mode = calls.reverse.lookup mode := by
  induction calls using List.reverseRecOn with
  | nil => rfl
  | append_singleton calls last ih =>
      obtain ⟨given, deltas⟩ := last
      rw [acceptAll, List.foldl_append, List.foldl_cons, List.foldl_nil, ← acceptAll,
        acceptedDeltas_accept, ih, List.reverse_concat', List.lookup_cons]
      by_cases same : mode = given
      · simp [same]
      · simp [same, beq_eq_false_iff_ne.2 same]

theorem acceptedDeltas_acceptAll_eq_none_iff {apply : ApplyChange}
    {calls : List (ChangeMode × List TypeKey)} {mode : ChangeMode} :
    (acceptAll apply calls).acceptedDeltas mode = none ↔ ∀ call ∈ calls, call.1 ≠ mode := by
  simp only [acceptedDeltas_acceptAll, List.lookup_eq_none_iff, List.mem_reverse, bne_iff_ne, ne_comm]

theorem acceptedDeltas_acceptAll_eq_some_iff {apply : ApplyChange}
    {calls : List (ChangeMode × List TypeKey)} {mode : ChangeMode} {deltas : List TypeKey} :
    (acceptAll apply calls).acceptedDeltas mode = some deltas ↔
      ∃ before after, calls = before ++ (mode, deltas) :: after ∧ ∀ call ∈ after, call.1 ≠ mode := by
  rw [acceptedDeltas_acceptAll, List.lookup_eq_some_iff]
  constructor
  · rintro ⟨after, before, reversed, others⟩
    refine ⟨before.reverse, after.reverse, ?_, fun call member => ?_⟩
    · simpa using congrArg List.reverse reversed
    · exact fun same => absurd (others call (List.mem_reverse.1 member)) (by simp [same])
  · rintro ⟨before, after, rfl, others⟩
    refine ⟨after.reverse, before.reverse, by simp, fun call member => ?_⟩
    exact bne_iff_ne.2 (others call (List.mem_reverse.1 member)).symm

theorem apply_acceptAll (apply : ApplyChange) (calls : List (ChangeMode × List TypeKey)) :
    (acceptAll apply calls).apply = apply := by
  induction calls using List.reverseRecOn with
  | nil => rfl
  | append_singleton calls last ih =>
      rw [acceptAll, List.foldl_append, List.foldl_cons, List.foldl_nil, ← acceptAll]
      exact ih

end ChangeTable

/-! ## Runs of actions on record -/

/-- What runs actions, with effects of its own. -/
abbrev RunAction (m : Type → Type) :=
  List Value → Option (List Value) → ChangeMode → m (Except ChangeError (List String))

/-- A run of the action of a table. -/
structure ActionRun where
  table : ChangeTable
  targets : List Value
  delta : Option (List Value)
  mode : ChangeMode

namespace ChangeTable

section

variable {m : Type → Type} [Monad m]

/-- Carries out a change, with a way of its own to run the actions of tables. -/
def changeWith (run : ChangeTable → RunAction m) (table : ChangeTable) : RunAction m :=
  fun targets delta mode =>
    match table.acceptedDeltas mode with
    | none => return .error (.unsupported mode)
    | some _ => run table targets delta mode

/-- Runs the action of a table and does nothing else. -/
def runAction (table : ChangeTable) : RunAction m :=
  fun targets delta mode => pure (table.apply targets delta mode)

/-- Runs the action of a table and puts that on record. -/
def recordedRun (table : ChangeTable) : RunAction (StateT (List ActionRun) m) :=
  fun targets delta mode => do
    modify fun record => record ++ [⟨table, targets, delta, mode⟩]
    return table.apply targets delta mode

/-- The runs for one change: one if the mode is supported. -/
def runsFor (table : ChangeTable) (targets : List Value) (delta : Option (List Value))
    (mode : ChangeMode) : List ActionRun :=
  if (table.acceptedDeltas mode).isSome then [⟨table, targets, delta, mode⟩] else []

variable (table : ChangeTable) (targets : List Value) (delta : Option (List Value))
  (mode : ChangeMode)

theorem changeWith_runAction :
    table.changeWith (m := m) runAction targets delta mode = pure (table.change targets delta mode) := by
  unfold changeWith change
  cases table.acceptedDeltas mode <;> rfl

variable {table mode}

theorem change_of_unsupported (unsupported : table.acceptedDeltas mode = none) :
    table.change targets delta mode = .error (.unsupported mode) ∧
      table.runsFor targets delta mode = [] := by
  simp [change, runsFor, unsupported]

theorem change_of_supported {deltas : List TypeKey} (supported : table.acceptedDeltas mode = some deltas) :
    table.change targets delta mode = table.apply targets delta mode ∧
      table.runsFor targets delta mode = [⟨table, targets, delta, mode⟩] := by
  simp [change, runsFor, supported]

variable (table mode)

theorem run_changeWith_recordedRun [LawfulMonad m] (record : List ActionRun) :
    (table.changeWith (m := StateT (List ActionRun) m) recordedRun targets delta mode).run record =
      pure (table.change targets delta mode, record ++ table.runsFor targets delta mode) := by
  unfold changeWith change runsFor
  cases table.acceptedDeltas mode with
  | none => simp
  | some deltas => simp [recordedRun]

end

end ChangeTable

/-! ## Changes by an expression -/

/-- Tables for an expression and for entries. -/
structure ChangeTables where
  own : Option ChangeTable
  ofEntry : TypeEntry → Option ChangeTable

namespace ChangeTables

/-- All mutators are tables, and these are they. -/
structure Underlie (tables : ChangeTables) (mutator : Option Mutator) (entries : List TypeEntry) :
    Prop where
  own : mutator = tables.own.map ChangeTable.toMutator
  ofEntry : ∀ entry ∈ entries, entry.mutator = (tables.ofEntry entry).map ChangeTable.toMutator

/-- The table of the expression, or else that of the closest entry of its value type. -/
def inUse (tables : ChangeTables) (catalog : Catalog) (valueType : TypeKey) : Option ChangeTable :=
  match tables.own with
  | some table => some table
  | none => (catalog.closestEntry? valueType).bind tables.ofEntry

/-- What the change of some values comes to, with the runs of actions for it. -/
def result (tables : ChangeTables) (catalog : Catalog) (valueType : TypeKey) (values : List Value)
    (delta : Option (List Value)) (mode : ChangeMode) :
    Except ChangeError (List String) × List ActionRun :=
  match tables.inUse catalog valueType with
  | none => (.error (.unsupported mode), [])
  | some table => (table.change values delta mode, table.runsFor values delta mode)

end ChangeTables

namespace EventExpression

section

variable {m : Type → Type} [Monad m] [MonadLiftT Query m] (expression : EventExpression)
  (tables : ChangeTables) (catalog : Catalog)

def tableIn : m (Option ChangeTable) := do
  match tables.own with
  | some table => return some table
  | none => return (← liftM (catalog.closest? expression.valueType)).bind tables.ofEntry

/-- Changes the values of an event, with a way of its own to run the actions of tables. -/
def changeWith (run : ChangeTable → RunAction m) (event : Value) (delta : Option (List Value))
    (mode : ChangeMode) : m (Except ChangeError (List String) × EventExpression) := do
  match ← expression.tableIn tables catalog with
  | none => return (.error (.unsupported mode), expression)
  | some table =>
    let (targets, next) ← liftM (expression.getValues event)
    return (← table.changeWith run targets delta mode, next)

end

variable {expression : EventExpression} {tables : ChangeTables} {catalog : Catalog}

theorem mutatorIn_eq (underlie : tables.Underlie expression.mutator catalog.entries) :
    expression.mutatorIn catalog =
      (do return (← expression.tableIn tables catalog).map ChangeTable.toMutator :
        Query (Option Mutator)) := by
  unfold mutatorIn tableIn
  rw [underlie.own]
  cases tables.own with
  | some table => rfl
  | none =>
      simp only [Option.map_none, Catalog.closest?, monadLift_self, bind_assoc, pure_bind]
      refine bind_congr fun number => ?_
      congr 1
      cases found : catalog.entryAt number with
      | none => rfl
      | some entry =>
          obtain ⟨_, _, located⟩ := Option.bind_eq_some_iff.1 found
          exact underlie.ofEntry entry (List.mem_of_getElem? located)

theorem changeWith_runAction (underlie : tables.Underlie expression.mutator catalog.entries)
    (event : Value) (delta : Option (List Value)) (mode : ChangeMode) :
    expression.changeWith (m := Query) tables catalog ChangeTable.runAction event delta mode =
      expression.change catalog event delta mode := by
  unfold changeWith change
  rw [mutatorIn_eq underlie]
  simp only [bind_assoc, pure_bind]
  refine bind_congr fun table => ?_
  cases table with
  | none => rfl
  | some table =>
      refine bind_congr fun (targets, next) => ?_
      rw [ChangeTable.changeWith_runAction, pure_bind]
      rfl

theorem run_changeWith_recordedRun (event : Value) (delta : Option (List Value)) (mode : ChangeMode)
    (record : List ActionRun) :
    (expression.changeWith (m := StateT (List ActionRun) Query) tables catalog ChangeTable.recordedRun
        event delta mode).run record = (do
      match ← expression.tableIn tables catalog with
      | none => return ((.error (.unsupported mode), expression), record)
      | some table =>
        let (targets, next) ← expression.getValues event
        return ((table.change targets delta mode, next), record ++ table.runsFor targets delta mode)) := by
  have choice : (expression.tableIn (m := StateT (List ActionRun) Query) tables catalog).run record =
      (do return (← expression.tableIn tables catalog, record)) := by
    unfold tableIn
    cases tables.own <;> simp
  unfold changeWith
  rw [StateT.run_bind, choice, bind_assoc]
  refine bind_congr fun table => ?_
  rw [pure_bind]
  cases table with
  | none => rfl
  | some table =>
      dsimp only
      rw [StateT.run_bind, StateT.run_monadLift]
      simp only [monadLift_self, bind_assoc, pure_bind]
      refine bind_congr fun (targets, next) => ?_
      rw [StateT.run_bind, ChangeTable.run_changeWith_recordedRun, pure_bind]
      rfl

theorem forget_recordedRun (underlie : tables.Underlie expression.mutator catalog.entries)
    (event : Value) (delta : Option (List Value)) (mode : ChangeMode) :
    (do return (← (expression.changeWith (m := StateT (List ActionRun) Query) tables catalog
        ChangeTable.recordedRun event delta mode).run []).1) =
      expression.change catalog event delta mode := by
  rw [run_changeWith_recordedRun, ← changeWith_runAction underlie, changeWith]
  simp only [bind_assoc]
  refine bind_congr fun table => ?_
  cases table with
  | none => rfl
  | some table =>
      simp only [bind_assoc, monadLift_self]
      refine bind_congr fun (targets, next) => ?_
      rw [ChangeTable.changeWith_runAction]
      rfl

/-! ## What is announced and what is done -/

variable {env : Environment}

theorem ensures_tableIn : env.Ensures (expression.tableIn (m := Query) tables env.catalog)
    (· = tables.inUse env.catalog expression.valueType) := by
  unfold tableIn ChangeTables.inUse
  cases tables.own with
  | some table => exact Environment.ensures_pure rfl
  | none =>
      refine (Environment.computes_closest expression.valueType).ensures.bind ?_
      rintro _ rfl
      exact Environment.ensures_pure rfl

theorem ensures_acceptedDeltas (underlie : tables.Underlie expression.mutator env.catalog.entries)
    (mode : ChangeMode) :
    env.Ensures (expression.acceptedDeltas env.catalog mode) fun announced =>
      announced =
        match (tables.inUse env.catalog expression.valueType).bind (·.acceptedDeltas mode) with
        | some deltas => .ok deltas
        | none => .error (.unsupportedChange (env.catalog.hierarchy.name expression.valueType) mode) := by
  unfold acceptedDeltas
  rw [mutatorIn_eq underlie]
  simp only [bind_assoc, pure_bind]
  refine ensures_tableIn.bind ?_
  rintro _ rfl
  cases tables.inUse env.catalog expression.valueType with
  | none => exact Environment.ensures_pure rfl
  | some table =>
      have same : table.toMutator.acceptedDeltas mode = table.acceptedDeltas mode := rfl
      rw [Option.map_some, Option.bind_some, Option.bind_some, same]
      cases table.acceptedDeltas mode <;> exact Environment.ensures_pure rfl

theorem ensures_changeWith_recordedRun (owner : expression.registry = env.registry)
    (recalls : expression.Fresh expression.time expression.getters) (event : Value)
    (delta : Option (List Value)) (mode : ChangeMode) :
    env.Ensures ((expression.changeWith (m := StateT (List ActionRun) Query) tables env.catalog
        ChangeTable.recordedRun event delta mode).run []) fun ((outcome, _), runs) =>
      (outcome, runs) = tables.result env.catalog expression.valueType
        (((expression.value? event).map Extracted.toList).getD []) delta mode := by
  rw [run_changeWith_recordedRun]
  unfold ChangeTables.result
  refine ensures_tableIn.bind ?_
  rintro _ rfl
  cases tables.inUse env.catalog expression.valueType with
  | none => exact Environment.ensures_pure rfl
  | some table =>
      refine (ensures_getValues owner recalls event).bind fun (targets, next) ⟨yields, _⟩ => ?_
      rw [← yields]
      exact Environment.ensures_pure rfl

theorem ensures_change_result (underlie : tables.Underlie expression.mutator env.catalog.entries)
    (owner : expression.registry = env.registry)
    (recalls : expression.Fresh expression.time expression.getters) (event : Value)
    (delta : Option (List Value)) (mode : ChangeMode) :
    env.Ensures (expression.change env.catalog event delta mode) fun (outcome, _) =>
      outcome = (tables.result env.catalog expression.valueType
        (((expression.value? event).map Extracted.toList).getD []) delta mode).1 := by
  rw [← forget_recordedRun underlie]
  refine (ensures_changeWith_recordedRun owner recalls event delta mode).bind ?_
  rintro ⟨⟨outcome, next⟩, runs⟩ same
  exact Environment.ensures_pure (congrArg Prod.fst same)

end EventExpression

theorem ChangeTables.result_of_unsupported {tables : ChangeTables} {catalog : Catalog}
    {valueType : TypeKey} {mode : ChangeMode}
    (unsupported : (tables.inUse catalog valueType).bind (·.acceptedDeltas mode) = none)
    (values : List Value) (delta : Option (List Value)) :
    tables.result catalog valueType values delta mode = (.error (.unsupported mode), []) := by
  unfold result
  cases used : tables.inUse catalog valueType with
  | none => rfl
  | some table =>
      rw [used, Option.bind_some] at unsupported
      obtain ⟨refused, none⟩ := ChangeTable.change_of_unsupported values delta unsupported
      exact Prod.ext refused none

theorem ChangeTables.result_of_supported {tables : ChangeTables} {catalog : Catalog}
    {valueType : TypeKey} {mode : ChangeMode} {table : ChangeTable} {deltas : List TypeKey}
    (used : tables.inUse catalog valueType = some table)
    (supported : table.acceptedDeltas mode = some deltas) (values : List Value)
    (delta : Option (List Value)) :
    tables.result catalog valueType values delta mode =
      (table.apply values delta mode, [⟨table, values, delta, mode⟩]) := by
  obtain ⟨carriedOut, once⟩ := ChangeTable.change_of_supported values delta supported
  rw [result, used]
  exact Prod.ext carriedOut once

theorem Mutator.accepts_of_below {mutator : Mutator} {hierarchy : Hierarchy} {mode : ChangeMode}
    {deltas narrower : List TypeKey} (supported : mutator.accepts hierarchy mode deltas)
    (below : ∀ low ∈ narrower, ∃ high ∈ deltas, hierarchy.isAssignable low high) :
    mutator.accepts hierarchy mode narrower := by
  unfold accepts at supported ⊢
  cases announced : mutator.acceptedDeltas mode with
  | none =>
      rw [announced] at supported
      cases supported
  | some accepted =>
      simp only [announced, Bool.or_eq_true, List.all_eq_true, List.any_eq_true] at supported ⊢
      refine supported.imp_right fun each low member => ?_
      obtain ⟨high, listed, fits⟩ := below low member
      obtain ⟨type, accepts, usable⟩ := each high listed
      exact ⟨type, accepts, Hierarchy.isAssignable_trans fits usable⟩

namespace Frozen

variable {catalogs registries : Nat} {frozen : Frozen catalogs registries} {number : Fin registries}
  {own : Fin catalogs} {made : EventExpression} {session : Session} {tables : ChangeTables}

theorem Sound.announced (sound : frozen.Sound number made session)
    (underlie : tables.Underlie made.mutator (frozen.catalog own).entries) (mode : ChangeMode) :
    (frozen.run session.host own (some number)
        (session.expression.acceptedDeltas (frozen.catalog own) mode)).1 =
      match (tables.inUse (frozen.catalog own) made.valueType).bind (·.acceptedDeltas mode) with
      | some deltas => .ok deltas
      | none =>
        .error (.unsupportedChange ((frozen.catalog own).hierarchy.name made.valueType) mode) := by
  obtain ⟨events, time, getters, same⟩ := sound.setup
  rw [same]
  exact (sound.faithful.ensures (EventExpression.ensures_acceptedDeltas underlie mode)).1

theorem Sound.changeWith_runAction (sound : frozen.Sound number made session)
    (underlie : tables.Underlie made.mutator (frozen.catalog own).entries) (event : Value)
    (delta : Option (List Value)) (mode : ChangeMode) :
    session.expression.changeWith (m := Query) tables (frozen.catalog own) ChangeTable.runAction event
        delta mode =
      session.expression.change (frozen.catalog own) event delta mode := by
  refine EventExpression.changeWith_runAction ?_ event delta mode
  obtain ⟨_, _, _, same⟩ := sound.setup
  rw [same]
  exact underlie

theorem Sound.result (sound : frozen.Sound number made session)
    (underlie : tables.Underlie made.mutator (frozen.catalog own).entries) (event : Value)
    (delta : Option (List Value)) (mode : ChangeMode) :
    let now {α : Type} (query : Query α) : α := (frozen.run session.host own (some number) query).1
    let result := tables.result (frozen.catalog own) made.valueType
      (now (session.expression.getValues event)).1 delta mode
    (now (session.expression.change (frozen.catalog own) event delta mode)).1 = result.1 ∧
      let recorded := now ((session.expression.changeWith (m := StateT (List ActionRun) Query) tables
        (frozen.catalog own) ChangeTable.recordedRun event delta mode).run [])
      (recorded.1.1, recorded.2) = result := by
  intro now result
  have owner := sound.owner_at own
  have yields : (now (session.expression.getValues event)).1 =
      ((session.expression.value? event).map Extracted.toList).getD [] :=
    (sound.faithful.ensures (EventExpression.ensures_getValues owner sound.recalls event)).1.1
  have valueType : session.expression.valueType = made.valueType := by
    obtain ⟨_, _, _, same⟩ := sound.setup
    rw [same]
  have mutator : session.expression.mutator = made.mutator := by
    obtain ⟨_, _, _, same⟩ := sound.setup
    rw [same]
  unfold result
  rw [← valueType, yields]
  rw [← mutator] at underlie
  exact ⟨(sound.faithful.ensures
      (EventExpression.ensures_change_result underlie owner sound.recalls event delta mode)).1,
    (sound.faithful.ensures
      (EventExpression.ensures_changeWith_recordedRun owner sound.recalls event delta mode)).1⟩

end Frozen

/-! ## The statement -/

theorem change_announced :
    (∀ (apply : ApplyChange) (calls : List (ChangeMode × List TypeKey)) (mode : ChangeMode),
      let table := ChangeTable.acceptAll apply calls
      (table.acceptedDeltas mode = none ↔ ∀ call ∈ calls, call.1 ≠ mode) ∧
      (∀ deltas, table.acceptedDeltas mode = some deltas ↔
        ∃ before after, calls = before ++ (mode, deltas) :: after ∧ ∀ call ∈ after, call.1 ≠ mode) ∧
      ∀ targets delta,
        let recorded := (table.changeWith (m := StateM (List ActionRun)) ChangeTable.recordedRun
          targets delta mode).run []
        (table.changeWith (m := Id) ChangeTable.runAction targets delta mode).run =
          table.toMutator.change targets delta mode ∧
        (table.acceptedDeltas mode = none → recorded = (.error (.unsupported mode), [])) ∧
        (table.acceptedDeltas mode ≠ none →
          recorded = (apply targets delta mode, [⟨table, targets, delta, mode⟩]))) ∧
    (∀ {catalogs registries : Nat} (frozen : Frozen catalogs registries) (number : Fin registries)
        (own : Fin catalogs) (start : Host) (earlier later : List (Operation catalogs registries))
        (valueType : TypeKey) (exact single : Bool) (mutator : Option Mutator) (tables : ChangeTables),
      tables.Underlie mutator (frozen.catalog own).entries →
      ∀ (event : Value) (delta : Option (List Value)) (mode : ChangeMode),
        let catalog := frozen.catalog own
        let made : EventExpression :=
          { registry := frozen.registry number, valueType, exact, single, mutator }
        let setUp := frozen.performAll number ⟨made, frozen.fresh start⟩ earlier
        let running := frozen.performAll number ⟨made, frozen.fresh start⟩ later
        let now {α : Type} (query : Query α) : α :=
          (frozen.run running.host own (some number) query).1
        let announced := (frozen.run setUp.host own (some number)
          (setUp.expression.acceptedDeltas catalog mode)).1
        let values := (now (running.expression.getValues event)).1
        let outcome := (now (running.expression.change catalog event delta mode)).1
        let recorded := now ((running.expression.changeWith (m := StateT (List ActionRun) Query) tables
          catalog ChangeTable.recordedRun event delta mode).run [])
        running.expression.changeWith (m := Query) tables catalog ChangeTable.runAction event delta mode =
          running.expression.change catalog event delta mode ∧
        recorded.1.1 = outcome ∧
        ((∃ error, announced = .error error) ↔
          ∀ table, tables.inUse catalog valueType = some table → table.acceptedDeltas mode = none) ∧
        ((∃ error, announced = .error error) →
          outcome = .error (.unsupported mode) ∧ recorded.2 = []) ∧
        ∀ deltas, announced = .ok deltas →
          ∃ table, tables.inUse catalog valueType = some table ∧
            table.acceptedDeltas mode = some deltas ∧ outcome = table.apply values delta mode ∧
            recorded.2 = [⟨table, values, delta, mode⟩]) ∧
    ∀ (mutator : Mutator) (hierarchy : Hierarchy) (mode : ChangeMode) (deltas narrower : List TypeKey),
      mutator.accepts hierarchy mode deltas →
      (∀ low ∈ narrower, ∃ high ∈ deltas, hierarchy.isAssignable low high) →
      mutator.accepts hierarchy mode narrower := by
  refine ⟨fun apply calls mode => ?_, ?_, fun mutator hierarchy mode deltas narrower => ?_⟩
  · intro table
    refine ⟨ChangeTable.acceptedDeltas_acceptAll_eq_none_iff,
      fun deltas => ChangeTable.acceptedDeltas_acceptAll_eq_some_iff, fun targets delta => ?_⟩
    intro recorded
    have same : recorded = (table.change targets delta mode, table.runsFor targets delta mode) :=
      table.run_changeWith_recordedRun targets delta mode []
    refine ⟨table.changeWith_runAction targets delta mode, fun unsupported => ?_, fun supported => ?_⟩
    · obtain ⟨refused, none⟩ := ChangeTable.change_of_unsupported targets delta unsupported
      rw [same, refused, none]
    · obtain ⟨deltas, announced⟩ := Option.ne_none_iff_exists'.1 supported
      obtain ⟨carriedOut, once⟩ := ChangeTable.change_of_supported targets delta announced
      rw [same, carriedOut, once, ChangeTable.apply_acceptAll]
  · intro catalogs registries frozen number own start earlier later valueType exact single mutator tables
      underlie event delta mode catalog made setUp running now announced values outcome recorded
    have born : frozen.Sound number made ⟨made, frozen.fresh start⟩ :=
      ⟨Frozen.faithful_fresh start, rfl, ⟨[], .default, [], rfl⟩, fun _ stored => nomatch stored⟩
    have said := (born.performAll earlier).announced underlie mode
    have soundLater := born.performAll later
    obtain ⟨done, onRecord⟩ := soundLater.result underlie event delta mode
    refine ⟨soundLater.changeWith_runAction underlie event delta mode,
      (congrArg Prod.fst onRecord).trans done.symm, ?_⟩
    cases chosen : (tables.inUse catalog valueType).bind (·.acceptedDeltas mode) with
    | none =>
        rw [chosen] at said
        rw [ChangeTables.result_of_unsupported chosen] at done onRecord
        have failed : ∃ error, announced = .error error := ⟨_, said⟩
        refine ⟨iff_of_true failed (Option.bind_eq_none_iff.1 chosen),
          fun _ => ⟨done, congrArg Prod.snd onRecord⟩, fun deltas ok => ?_⟩
        cases said.symm.trans ok
    | some deltas =>
        obtain ⟨table, used, supported⟩ := Option.bind_eq_some_iff.1 chosen
        rw [chosen] at said
        rw [ChangeTables.result_of_supported used supported] at done onRecord
        have agreed : ¬ ∃ error, announced = .error error := by
          rintro ⟨_, failed⟩
          cases said.symm.trans failed
        refine ⟨iff_of_false agreed fun none => ?_, fun failed => absurd failed agreed,
          fun given ok => ?_⟩
        · cases supported.symm.trans (none table used)
        · obtain rfl : deltas = given := Except.ok.inj (said.symm.trans ok)
          exact ⟨table, used, supported, done, congrArg Prod.snd onRecord⟩
  · exact Mutator.accepts_of_below

/-- Values of `Named` can be set, by others of the kind, and added to, but not removed. -/
def ChangeTable.naming : ChangeTable :=
  acceptAll (fun _ _ mode => .ok [mode.name]) [(.set, [⟨3⟩]), (.add, []), (.set, [⟨1⟩])]

def Frozen.naming : Frozen 1 1 where
  catalog _ :=
    { hierarchy := .diamond
      display := {}
      entries := [{ codeName := "named", native := ⟨1⟩, mutator := some ChangeTable.naming.toMutator }]
      graph := ⟨.diamond, []⟩
      issues := [] }
  registry _ :=
    { hierarchy := .diamond
      graph := ⟨.diamond, []⟩
      getters := [{ event := ⟨0⟩, valueType := ⟨3⟩, extract := fun event => some (.one event) }] }
  base _ := 0
  shared _ := rfl

/-- An expression for `Entity` without a way of its own changes its values in that of `Named`. -/
theorem change_announced_naming :
    let event : Value := ⟨⟨3⟩, .unit⟩
    let tables : ChangeTables := ⟨none, fun _ => some .naming⟩
    let catalog := Frozen.naming.catalog 0
    let made : EventExpression := { registry := Frozen.naming.registry 0, valueType := ⟨3⟩ }
    let now {α : Type} (query : Query α) : α :=
      (Frozen.naming.run (Frozen.naming.fresh {}) 0 (some 0) query).1
    tables.Underlie none catalog.entries ∧
      (now (made.change catalog event none .remove)).1 = .error (.unsupported .remove) ∧
      (now (made.change catalog event none .set)).1 = .ok ["Set"] ∧
      (now ((made.changeWith (m := StateT (List ActionRun) Query) tables catalog ChangeTable.recordedRun
        event none .set).run [])).2 = [⟨.naming, [event], none, .set⟩] ∧
      ChangeTable.naming.toMutator.accepts .diamond .set [⟨1⟩] ∧
      ChangeTable.naming.toMutator.accepts .diamond .set [⟨3⟩, ⟨1⟩] := by
  intro event tables catalog made now
  have underlie : tables.Underlie none catalog.entries :=
    ⟨rfl, fun entry member => by obtain rfl := List.mem_singleton.1 member; rfl⟩
  have used : tables.inUse catalog ⟨3⟩ = some .naming := rfl
  have values : (now (made.getValues event)).1 = [event] := by decide +kernel +zetaReduce
  have ran := change_announced.2.1 .naming 0 0 {} [] [] ⟨3⟩ false true none tables underlie event none
  have refused : ∀ table, tables.inUse catalog ⟨3⟩ = some table → table.acceptedDeltas .remove = none := by
    intro table same
    obtain rfl := Option.some.inj (used.symm.trans same)
    rfl
  have announced : (now (made.acceptedDeltas catalog .set)) = .ok [⟨1⟩] := by rfl
  obtain ⟨table, same, -, outcome, recorded⟩ := (ran .set).2.2.2.2 _ announced
  obtain rfl := Option.some.inj (used.symm.trans same)
  have general : ChangeTable.naming.toMutator.accepts .diamond .set [⟨1⟩] := by decide
  have below : ∀ low ∈ [⟨3⟩, ⟨1⟩], ∃ high ∈ [(⟨1⟩ : TypeKey)], Hierarchy.diamond.isAssignable low high := by
    decide
  refine ⟨underlie, ((ran .remove).2.2.2.1 ((ran .remove).2.2.1.2 refused)).1, ?_, ?_, general,
    change_announced.2.2 _ _ _ _ _ general below⟩
  · exact outcome
  · exact recorded.trans (congrArg (fun targets => [(⟨.naming, targets, none, .set⟩ : ActionRun)]) values)

end HostTypes
