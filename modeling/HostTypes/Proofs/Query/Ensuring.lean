import HostTypes.Event.Expression
import HostTypes.Proofs.Query.Questions

/-!
Queries of which only a property of the answer matters. What keys they ask for is left open
(`Ensures`), and a query that is put together ensures what its parts ensure.
-/

namespace HostTypes

namespace Environment

variable {env : Environment} {α β : Type}

/-- From every faithful memory the query gives one and the same answer, of which the property holds. -/
def Ensures (env : Environment) (query : Query α) (holds : α → Prop) : Prop :=
  ∃ answer asked, env.Computes query answer asked ∧ holds answer

theorem Computes.ensures {query : Query α} {answer : α} {asked : Asked}
    (computes : env.Computes query answer asked) : env.Ensures query (· = answer) :=
  ⟨answer, asked, computes, rfl⟩

theorem ensures_pure {holds : α → Prop} {answer : α} (fits : holds answer) :
    env.Ensures (pure answer) holds :=
  ⟨answer, {}, computes_pure answer, fits⟩

theorem Ensures.bind {query : Query α} {next : α → Query β} {first : α → Prop} {second : β → Prop}
    (early : env.Ensures query first)
    (late : ∀ answer, first answer → env.Ensures (next answer) second) :
    env.Ensures (query >>= next) second := by
  obtain ⟨answer, one, computes, fits⟩ := early
  obtain ⟨result, two, computesLate, fitsLate⟩ := late answer fits
  exact ⟨result, one ++ two, computes.bind computesLate, fitsLate⟩

theorem Ensures.mono {query : Query α} {strong weak : α → Prop} (ensures : env.Ensures query strong)
    (weaken : ∀ answer, strong answer → weak answer) : env.Ensures query weak := by
  obtain ⟨answer, asked, computes, fits⟩ := ensures
  exact ⟨answer, asked, computes, weaken answer fits⟩

theorem Ensures.holds {query : Query α} {holds : α → Prop} (ensures : env.Ensures query holds)
    {memory : Memory} (faithful : env.Faithful memory) : holds (query.run memory).1 := by
  obtain ⟨answer, asked, computes, fits⟩ := ensures
  exact (computes memory faithful).1 ▸ fits

/-! ## Values of events -/

theorem ensures_convertAll (target : TypeKey) (values : List Value) :
    env.Ensures (env.catalog.graph.convertAll target values)
      (· = values.filterMap (env.catalog.graph.result? · target)) := by
  induction values with
  | nil => exact ensures_pure rfl
  | cons value rest ih =>
      refine (computes_convert value target).ensures.bind ?_
      rintro _ rfl
      refine ih.bind ?_
      rintro _ rfl
      apply ensures_pure
      rw [List.filterMap_cons]
      cases env.catalog.graph.result? value target <;> rfl

theorem ensures_convertExtracted (target : TypeKey) (extracted : Extracted) :
    env.Ensures (env.catalog.graph.convertExtracted target extracted)
      (· = extracted.filterMap (env.catalog.graph.result? · target)) := by
  cases extracted with
  | one value =>
      refine (computes_convert value target).ensures.bind ?_
      rintro _ rfl
      exact ensures_pure rfl
  | many values =>
      refine (ensures_convertAll target values).bind ?_
      rintro _ rfl
      exact ensures_pure rfl

theorem ensures_extract (resolved : ResolvedGetter) (event : Value) :
    env.Ensures (env.registry.extract resolved event)
      (· = env.registry.extracted? resolved event) := by
  unfold EventRegistry.extract EventRegistry.extracted?
  cases resolved.getter.extract event with
  | none => exact ensures_pure rfl
  | some extracted =>
      cases resolved.convertTo with
      | none => exact ensures_pure rfl
      | some target =>
          rw [env.shared]
          exact ensures_convertExtracted target extracted

theorem ensures_displayEach (mode : DisplayMode) (values : List Value) :
    env.Ensures (env.catalog.displayEach mode values)
      (· = values.map fun value => env.catalog.textOf value mode .none) := by
  induction values with
  | nil => exact ensures_pure rfl
  | cons value rest ih =>
      refine (computes_displayValue value mode .none).ensures.bind ?_
      rintro _ rfl
      refine ih.bind ?_
      rintro _ rfl
      exact ensures_pure rfl

theorem ensures_displayExtracted (mode : DisplayMode) (extracted : Extracted) :
    env.Ensures (env.catalog.displayExtracted mode extracted) fun _ => True := by
  cases extracted with
  | one value => exact ⟨_, _, computes_displayValue value mode .none, trivial⟩
  | many values =>
      exact (ensures_displayEach mode values).bind fun _ _ => ensures_pure trivial

end Environment

end HostTypes
