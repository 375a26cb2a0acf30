import HostTypes.Proofs.Event.Recall
import HostTypes.Proofs.Query.Sharing

/-!
Expressions in use. Whatever is called on an expression, and whatever is asked of the caches that it
shares with others, in any order, the getters that it remembers are those that a look-up for its value
type, its time and its exactness would give now, and the values it offers are those of a fresh getter
(`expression_recalls`). A call that fails leaves it as it is.
-/

namespace HostTypes

/-! ## Writing needs no conversions -/

theorem Catalog.displayEach_graph (catalog : Catalog) (graph : ConversionGraph) (mode : DisplayMode)
    (values : List Value) :
    { catalog with graph }.displayEach mode values = catalog.displayEach mode values := by
  induction values with
  | nil => rfl
  | cons value rest ih =>
      unfold displayEach
      rw [ih]
      rfl

theorem Catalog.displayExtracted_graph (catalog : Catalog) (graph : ConversionGraph)
    (mode : DisplayMode) (extracted : Extracted) :
    { catalog with graph }.displayExtracted mode extracted =
      catalog.displayExtracted mode extracted := by
  cases extracted with
  | one value => rfl
  | many values =>
      unfold displayExtracted
      dsimp only
      rw [displayEach_graph]

theorem EventExpression.describe_graph (expression : EventExpression) (catalog : Catalog)
    (graph : ConversionGraph) (debugEvent : Option Value) :
    expression.describe { catalog with graph } debugEvent =
      expression.describe catalog debugEvent := by
  cases debugEvent with
  | none => rfl
  | some event =>
      unfold describe debugText
      simp only [Catalog.displayExtracted_graph]

/-! ## Calls on an expression -/

/-- What may happen to an expression and to the caches that it shares with others. -/
inductive Operation (catalogs registries : Nat) where
  | init (events : List TypeKey)
  | setTime (time : TimeVariant)
  | get (event : Value)
  | getValues (event : Value)
  | change (catalog : Fin catalogs) (event : Value) (delta : Option (List Value)) (mode : ChangeMode)
  | describe (catalog : Fin catalogs) (debugEvent : Option Value)
  /-- A question that somebody else asks. -/
  | elsewhere (addressee : Frozen.Addressee catalogs registries) (question : Environment.Question)

structure Session where
  expression : EventExpression
  host : Host

namespace Frozen

variable {catalogs registries : Nat} {frozen : Frozen catalogs registries}
  {number : Fin registries} {session : Session}

/-- Runs a query about some getters alone. -/
def runBare {α : Type} (frozen : Frozen catalogs registries) (number : Fin registries) (host : Host)
    (query : Query α) : α × Host :=
  frozen.run host (frozen.base number) (some number) query

/-- Performs an operation on an expression for some getters. -/
def perform (frozen : Frozen catalogs registries) (number : Fin registries) (session : Session) :
    Operation catalogs registries → Session
  | .init events =>
    let ran := frozen.runBare number session.host ((bindTo events).run.run session.expression)
    ⟨ran.1.2, ran.2⟩
  | .setTime time =>
    let ran := frozen.runBare number session.host ((turnTo time).run.run session.expression)
    ⟨ran.1.2, ran.2⟩
  | .get event =>
    let ran := frozen.runBare number session.host (session.expression.get event)
    ⟨ran.1.2, ran.2⟩
  | .getValues event =>
    let ran := frozen.runBare number session.host (session.expression.getValues event)
    ⟨ran.1.2, ran.2⟩
  | .change catalog event delta mode =>
    let ran := frozen.run session.host catalog (some number)
      (session.expression.change (frozen.catalog catalog) event delta mode)
    ⟨ran.1.2, ran.2⟩
  | .describe catalog debugEvent =>
    let ran := frozen.run session.host catalog (some number)
      (session.expression.describe (frozen.catalog catalog) debugEvent)
    ⟨ran.1.2, ran.2⟩
  | .elsewhere addressee question =>
    ⟨session.expression, (frozen.ask session.host addressee question).2⟩

def performAll (frozen : Frozen catalogs registries) (number : Fin registries) (session : Session)
    (operations : List (Operation catalogs registries)) : Session :=
  operations.foldl (frozen.perform number) session

/-- All caches are faithful, the expression's own one included, and the expression is set up as it was
made. -/
structure Sound (frozen : Frozen catalogs registries) (number : Fin registries)
    (made : EventExpression) (session : Session) : Prop where
  faithful : frozen.Faithful session.host
  owner : made.registry = frozen.registry number
  setup : ∃ events time getters, session.expression = { made with events, time, getters }
  recalls : session.expression.Fresh session.expression.time session.expression.getters

theorem Faithful.ensures {α : Type} {host : Host} {own : Fin catalogs}
    {getters : Option (Fin registries)} {query : Query α} {holds : α → Prop}
    (faithful : frozen.Faithful host)
    (ensures : (frozen.environment own getters).Ensures query holds) :
    holds (frozen.run host own getters query).1 ∧
      frozen.Faithful (frozen.run host own getters query).2 := by
  obtain ⟨answer, asked, computes, fits⟩ := ensures
  obtain ⟨result, kept, _⟩ := faithful.run computes
  exact ⟨result ▸ fits, kept⟩

variable {made : EventExpression} (sound : frozen.Sound number made session)

include sound

theorem Sound.owner_at (own : Fin catalogs) :
    session.expression.registry = (frozen.environment own (some number)).registry := by
  obtain ⟨events, time, getters, same⟩ := sound.setup
  rw [same]
  exact sound.owner

/-- Another binding, time and memory of the expression, if the memory is that of a look-up. -/
theorem Sound.replace {next : EventExpression} {events : List TypeKey} {time : TimeVariant}
    {getters : List (TypeKey × Option ResolvedGetter)} {host : Host}
    (same : next = { session.expression with events, time, getters })
    (fresh : session.expression.Fresh time getters) (faithful : frozen.Faithful host) :
    frozen.Sound number made ⟨next, host⟩ := by
  obtain ⟨_, _, _, setup⟩ := sound.setup
  subst same
  exact ⟨faithful, sound.owner, ⟨events, time, getters, by rw [setup]⟩, fresh⟩

theorem Sound.refreshed {next : EventExpression} {host : Host}
    (refreshed : session.expression.Refreshed next) (faithful : frozen.Faithful host) :
    frozen.Sound number made ⟨next, host⟩ := by
  obtain ⟨getters, same, fresh⟩ := refreshed
  exact sound.replace same fresh faithful

theorem Sound.unchanged {next : EventExpression} {host : Host} (same : next = session.expression)
    (faithful : frozen.Faithful host) : frozen.Sound number made ⟨next, host⟩ := by
  subst same
  exact ⟨faithful, sound.owner, sound.setup, sound.recalls⟩

theorem Sound.perform (operation : Operation catalogs registries) :
    frozen.Sound number made (frozen.perform number session operation) := by
  have owner := sound.owner_at
  cases operation with
  | init events =>
      obtain ⟨⟨_, _, same⟩ | ⟨_, getters, same, fresh, _⟩, kept⟩ :=
        sound.faithful.ensures (EventExpression.ensures_bindTo (owner _) events)
      · exact sound.unchanged same kept
      · exact sound.replace same fresh kept
  | setTime time =>
      obtain ⟨⟨_, _, same⟩ | ⟨_, same⟩ | ⟨_, getters, same, fresh⟩, kept⟩ :=
        sound.faithful.ensures (EventExpression.ensures_turnTo (owner _) time)
      · exact sound.unchanged same kept
      · exact sound.unchanged same kept
      · exact sound.replace same fresh kept
  | get event =>
      obtain ⟨⟨_, refreshed⟩, kept⟩ :=
        sound.faithful.ensures (EventExpression.ensures_get (owner _) sound.recalls event)
      exact sound.refreshed refreshed kept
  | getValues event =>
      obtain ⟨⟨_, refreshed⟩, kept⟩ :=
        sound.faithful.ensures (EventExpression.ensures_getValues (owner _) sound.recalls event)
      exact sound.refreshed refreshed kept
  | change catalog event delta mode =>
      obtain ⟨refreshed, kept⟩ := sound.faithful.ensures
        (EventExpression.ensures_change (owner catalog) sound.recalls event delta mode)
      exact sound.refreshed refreshed kept
  | describe catalog debugEvent =>
      have ensures := EventExpression.ensures_describe (owner catalog) sound.recalls debugEvent
      have same := session.expression.describe_graph (frozen.catalog catalog)
        (frozen.catalog (frozen.base number)).graph debugEvent
      obtain ⟨refreshed, kept⟩ := sound.faithful.ensures ensures
      rw [environment, same] at refreshed kept
      exact sound.refreshed refreshed kept
  | elsewhere addressee question =>
      exact sound.unchanged rfl (sound.faithful.ask addressee question).2.1

theorem Sound.performAll (operations : List (Operation catalogs registries)) :
    frozen.Sound number made (frozen.performAll number session operations) := by
  induction operations generalizing session with
  | nil => exact sound
  | cons operation rest ih => exact ih (sound.perform operation)

theorem Sound.init (events : List TypeKey) :
    let outcome := (frozen.runBare number session.host (session.expression.init events)).1
    let after := (frozen.perform number session (.init events)).expression
    (∀ error, outcome = .error error → after = session.expression) ∧
      ∀ next, outcome = .ok next →
        after = next ∧ next.events = events ∧ next.time = session.expression.time := by
  intro outcome after
  have came : outcome = ((frozen.run session.host (frozen.base number) (some number)
      ((bindTo events).run.run session.expression)).1.1).map fun _ => after := by
    unfold outcome
    rw [EventExpression.init_eq]
    rfl
  rw [came]
  rcases (sound.faithful.ensures (EventExpression.ensures_bindTo
      (sound.owner_at (frozen.base number)) events)).1 with
    ⟨error, failed, same⟩ | ⟨done, getters, same, _⟩
  · rw [failed, Except.map]
    exact ⟨fun _ _ => same, nofun⟩
  · rw [done, Except.map]
    refine ⟨nofun, ?_⟩
    rintro _ ⟨⟩
    rw [show after = _ from same]
    exact ⟨rfl, rfl, rfl⟩

theorem Sound.setTime (time : TimeVariant) :
    let outcome := (frozen.runBare number session.host (session.expression.setTime time)).1
    let after := (frozen.perform number session (.setTime time)).expression
    (∀ error, outcome = .error error → after = session.expression) ∧
      (∀ next, outcome = .ok (false, next) → after = session.expression) ∧
      ∀ next, outcome = .ok (true, next) →
        after = next ∧ next.time = time ∧ next.events = session.expression.events := by
  intro outcome after
  have came : outcome = ((frozen.run session.host (frozen.base number) (some number)
      ((turnTo time).run.run session.expression)).1.1).map fun turned => (turned, after) := rfl
  rw [came]
  rcases (sound.faithful.ensures (EventExpression.ensures_turnTo
      (sound.owner_at (frozen.base number)) time)).1 with
    ⟨error, failed, same⟩ | ⟨done, same⟩ | ⟨done, getters, same, _⟩
  · rw [failed, Except.map]
    exact ⟨fun _ _ => same, nofun, nofun⟩
  · rw [done, Except.map]
    exact ⟨nofun, fun _ _ => same, nofun⟩
  · rw [done, Except.map]
    refine ⟨nofun, nofun, ?_⟩
    rintro _ ⟨⟩
    rw [show after = _ from same]
    exact ⟨rfl, rfl, rfl⟩

end Frozen

/-! ## The statement -/

theorem expression_recalls {catalogs registries : Nat} (frozen : Frozen catalogs registries)
    (number : Fin registries) (start : Host) (valueType : TypeKey) (exact single : Bool)
    (mutator : Option Mutator) (operations : List (Operation catalogs registries)) :
    let made : EventExpression :=
      { registry := frozen.registry number, valueType, exact, single, mutator }
    let session := frozen.performAll number ⟨made, frozen.fresh start⟩ operations
    let expression := session.expression
    let lookUp (event : TypeKey) :=
      (frozen.runBare number session.host (expression.registry.resolve
        ⟨event, expression.valueType, expression.time, expression.exact⟩)).1
    (∃ events time getters, expression = { made with events, time, getters }) ∧
      (∀ event, expression.fresh? expression.time event = (lookUp event).toOption.join) ∧
      (∀ row ∈ expression.getters, row.2 = expression.fresh? expression.time row.1) ∧
      (∀ event, (frozen.runBare number session.host (expression.get event)).1.1 =
        ((expression.fresh? expression.time event.type).bind
          (expression.registry.extracted? · event)).bind expression.select?) ∧
      (∀ events,
        let outcome := (frozen.runBare number session.host (expression.init events)).1
        let after := (frozen.perform number session (.init events)).expression
        (∀ error, outcome = .error error → after = expression) ∧
          ∀ next, outcome = .ok next →
            after = next ∧ next.events = events ∧ next.time = expression.time) ∧
      ∀ time,
        let outcome := (frozen.runBare number session.host (expression.setTime time)).1
        let after := (frozen.perform number session (.setTime time)).expression
        (∀ error, outcome = .error error → after = expression) ∧
          (∀ next, outcome = .ok (false, next) → after = expression) ∧
          ∀ next, outcome = .ok (true, next) →
            after = next ∧ next.time = time ∧ next.events = expression.events := by
  intro made session expression lookUp
  have born : frozen.Sound number made ⟨made, frozen.fresh start⟩ :=
    ⟨Frozen.faithful_fresh start, rfl, ⟨[], .default, [], rfl⟩, fun _ stored => nomatch stored⟩
  have sound : frozen.Sound number made session := born.performAll operations
  have owner := sound.owner_at (frozen.base number)
  refine ⟨sound.setup, ?_, sound.recalls, ?_, sound.init, sound.setTime⟩
  · exact fun event => (sound.faithful.ensures
      (EventExpression.ensures_resolve owner event expression.time)).1.symm
  · exact fun event =>
      (sound.faithful.ensures (EventExpression.ensures_get owner sound.recalls event)).1.1

end HostTypes
