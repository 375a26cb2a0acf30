import HostTypes.Conversion.Convert
import HostTypes.Proofs.Catalog.Reading

/-!
What the flags of converters act on. Reading a text uses the converters that its context allows and
never asks whether they may be part of a chain; searching a chain never asks whether they may read
command arguments. So each flag acts in its own place only (`flags_separate`).
-/

namespace HostTypes

namespace Converter

/-- The converter, allowed to be part of a chain. -/
def forChains (converter : Converter) : Converter :=
  { converter with flags := { converter.flags with noChaining := false } }

/-- The converter, allowed to read command arguments. -/
def forCommands (converter : Converter) : Converter :=
  { converter with flags := { converter.flags with noCommandArguments := false } }

end Converter

/-! ## Converting -/

namespace ConversionGraph

def withConverters (graph : ConversionGraph) (converters : List Converter) : ConversionGraph :=
  { graph with converters }

def mapConverters (graph : ConversionGraph) (change : Converter → Converter) : ConversionGraph :=
  graph.withConverters (graph.converters.map change)

variable {graph : ConversionGraph} {others : List Converter}

theorem expand_forCommands (goal : TypeKey) (reached : Reached) (steps : List (Converter × Nat))
    (state : SearchState) :
    (graph.mapConverters Converter.forCommands).expand goal reached
        (steps.map (Prod.map Converter.forCommands id)) state =
      graph.expand goal reached steps state := by
  induction steps generalizing state with
  | nil => rfl
  | cons step rest ih =>
      simp only [List.map_cons, Prod.map, expand, ih]
      rfl

theorem searchFrom_forCommands (goal : TypeKey) (fuel : Nat) (state : SearchState) :
    (graph.mapConverters Converter.forCommands).searchFrom goal fuel state =
      graph.searchFrom goal fuel state := by
  induction fuel generalizing state with
  | zero => rfl
  | succ fuel ih =>
      have steps : (graph.mapConverters Converter.forCommands).converters.zipIdx =
          graph.converters.zipIdx.map (Prod.map Converter.forCommands id) := List.zipIdx_map
      simp only [searchFrom, steps, expand_forCommands, ih]

theorem search_forCommands :
    (graph.mapConverters Converter.forCommands).search = graph.search := by
  funext source goal
  have size : (graph.mapConverters Converter.forCommands).converters.length =
      graph.converters.length := List.length_map _
  rw [search, search, size, searchFrom_forCommands]

theorem applyChain_forCommands :
    (graph.mapConverters Converter.forCommands).applyChain = graph.applyChain := by
  funext chain value
  induction chain generalizing value with
  | nil => rfl
  | cons number rest ih =>
      have located : (graph.mapConverters Converter.forCommands).converters[number]? =
          graph.converters[number]?.map Converter.forCommands := List.getElem?_map
      rw [applyChain, applyChain, located]
      cases graph.converters[number]? with
      | none => rfl
      | some converter =>
          simp only [Option.map_some, ih]
          rfl

theorem convert_forCommands :
    (graph.mapConverters Converter.forCommands).convert = graph.convert := by
  funext value target
  unfold convert chain?
  rw [search_forCommands, applyChain_forCommands]
  rfl

theorem converterExists_forCommands :
    (graph.mapConverters Converter.forCommands).converterExists = graph.converterExists := by
  funext source target
  unfold converterExists chain?
  rw [search_forCommands]
  rfl

/-- Graphs that differ at most in what may read command arguments have the same conversions. -/
theorem conversions_congr
    (alike : others.map Converter.forCommands = graph.converters.map Converter.forCommands) :
    (graph.withConverters others).convert = graph.convert ∧
      (graph.withConverters others).converterExists = graph.converterExists := by
  -- Each graph converts as it does with the flag cleared, and then the two are one.
  have same : (graph.withConverters others).mapConverters Converter.forCommands =
      graph.mapConverters Converter.forCommands := congrArg graph.withConverters alike
  constructor
  · rw [← convert_forCommands, same, convert_forCommands]
  · rw [← converterExists_forCommands, same, converterExists_forCommands]

end ConversionGraph

/-! ## Reading -/

namespace Catalog

def withConverters (catalog : Catalog) (converters : List Converter) : Catalog :=
  { catalog with graph := catalog.graph.withConverters converters }

def mapConverters (catalog : Catalog) (change : Converter → Converter) : Catalog :=
  catalog.withConverters (catalog.graph.converters.map change)

variable {catalog : Catalog} {text : String} {target : TypeKey} {context : ParseContext}
  {converters others : List Converter} {change : Converter → Converter}

theorem readWith_withConverters (entries : List TypeEntry) :
    (catalog.withConverters others).readWith text target context entries =
      catalog.readWith text target context entries := by
  induction entries with
  | nil => rfl
  | cons entry rest ih =>
      rw [readWith, readWith, ih]
      rfl

theorem parseDirect_withConverters :
    (catalog.withConverters others).parseDirect text target context =
      catalog.parseDirect text target context :=
  readWith_withConverters _

theorem readThrough_withConverters :
    (catalog.withConverters others).readThrough text context converters =
      catalog.readThrough text context converters := by
  induction converters with
  | nil => rfl
  | cons converter rest ih => rw [readThrough, readThrough, ih, parseDirect_withConverters]

theorem parse_withConverters
    (same : catalog.readThrough text context
        ((catalog.withConverters others).graph.convertersInto target) =
      catalog.readThrough text context (catalog.graph.convertersInto target)) :
    (catalog.withConverters others).parse text target context =
      catalog.parse text target context := by
  rw [parse, parse, parseDirect_withConverters, readThrough_withConverters, same]

theorem readThrough_filter :
    catalog.readThrough text context (converters.filter (mayRead context)) =
      catalog.readThrough text context converters := by
  induction converters with
  | nil => rfl
  | cons converter rest ih =>
      by_cases allowed : mayRead context converter
      · rw [List.filter_cons_of_pos allowed, readThrough, readThrough, ih]
      · rw [List.filter_cons_of_neg allowed, readThrough, if_neg allowed, ih]

theorem parse_filter :
    (catalog.withConverters (catalog.graph.converters.filter (mayRead context))).parse text target
      context = catalog.parse text target context := by
  refine parse_withConverters ?_
  have into : (catalog.withConverters
      (catalog.graph.converters.filter (mayRead context))).graph.convertersInto target =
      (catalog.graph.convertersInto target).filter (mayRead context) := List.filter_comm ..
  rw [into, readThrough_filter]

/-- A change of converters that does not touch what reading a text in a context uses of them. -/
structure LeavesReading (context : ParseContext) (change : Converter → Converter) : Prop where
  source : ∀ converter, (change converter).source = converter.source
  target : ∀ converter, (change converter).target = converter.target
  apply : ∀ converter, (change converter).apply = converter.apply
  mayRead : ∀ converter, mayRead context (change converter) = mayRead context converter

theorem leavesReading_forChains (context : ParseContext) :
    LeavesReading context Converter.forChains :=
  ⟨fun _ => rfl, fun _ => rfl, fun _ => rfl, fun _ => rfl⟩

theorem leavesReading_forCommands (elsewhere : context ≠ .command) :
    LeavesReading context Converter.forCommands where
  source := fun _ => rfl
  target := fun _ => rfl
  apply := fun _ => rfl
  mayRead := by
    intro converter
    rw [Catalog.mayRead, Catalog.mayRead, beq_false_of_ne elsewhere]
    rfl

theorem readThrough_map (leaves : LeavesReading context change) :
    catalog.readThrough text context (converters.map change) =
      catalog.readThrough text context converters := by
  induction converters with
  | nil => rfl
  | cons converter rest ih =>
      rw [List.map_cons, readThrough, readThrough, ih, leaves.source, leaves.apply, leaves.mayRead]

theorem parse_mapConverters (leaves : LeavesReading context change) :
    (catalog.mapConverters change).parse text target context =
      catalog.parse text target context := by
  refine parse_withConverters ?_
  have fits (converter : Converter) :
      catalog.graph.hierarchy.isAssignable (change converter).target target =
        catalog.graph.hierarchy.isAssignable converter.target target :=
    congrArg (catalog.graph.hierarchy.isAssignable · target) (leaves.target converter)
  have into : (catalog.mapConverters change).graph.convertersInto target =
      (catalog.graph.convertersInto target).map change :=
    List.filter_map.trans (congrArg _ (List.filter_congr fun converter _ => fits converter))
  exact (congrArg _ into).trans (readThrough_map leaves)

/-- Catalogs that differ at most in what may be part of a chain read alike. -/
theorem parse_congr
    (alike : others.map Converter.forChains = catalog.graph.converters.map Converter.forChains) :
    (catalog.withConverters others).parse text target context =
      catalog.parse text target context := by
  have leaves := leavesReading_forChains context
  have same : (catalog.withConverters others).mapConverters Converter.forChains =
      catalog.mapConverters Converter.forChains := congrArg catalog.withConverters alike
  rw [← parse_mapConverters leaves, same, parse_mapConverters leaves]

end Catalog

/-! ## Registering other converters -/

def Registration.isEntry : Registration → Bool
  | .entry _ => true
  | .converter _ => false

namespace CatalogBuilder

def withConverters (builder : CatalogBuilder) (converters : List Converter) : CatalogBuilder :=
  { builder with converters }

theorem perform_withConverters (builder : CatalogBuilder) (others : List Converter)
    (entry : TypeEntry) :
    (builder.withConverters others).perform (.entry entry) =
      (builder.perform (.entry entry)).withConverters others :=
  perform_entry_comm (·.withConverters others) rfl rfl (fun _ => rfl) rfl

theorem performAll_entries (builder : CatalogBuilder) (others : List Converter)
    (calls : List Registration) :
    (builder.withConverters others).performAll (calls.filter Registration.isEntry) =
      (builder.performAll calls).withConverters others := by
  induction calls generalizing builder with
  | nil => rfl
  | cons call rest ih =>
      cases call with
      | converter converter => exact ih (builder.registerConverter converter)
      | entry entry =>
          rw [List.filter_cons_of_pos rfl, performAll, List.foldl_cons, perform_withConverters]
          exact ih (builder.perform (.entry entry))

theorem performAll_converters (builder : CatalogBuilder) (others : List Converter) :
    builder.performAll (others.map .converter) =
      builder.withConverters (builder.converters ++ others) := by
  induction others generalizing builder with
  | nil => simp [performAll, withConverters]
  | cons converter rest ih =>
      have next := ih (builder.registerConverter converter)
      rw [registerConverter, List.append_assoc] at next
      exact next

theorem freeze_withConverters (builder : CatalogBuilder) (others : List Converter) :
    (builder.withConverters others).freeze.1 =
      builder.freeze.1.map (Catalog.withConverters · others) := by
  have same : Catalog.resolveOrder (builder.withConverters others).hierarchy
      (builder.withConverters others).entries =
    Catalog.resolveOrder builder.hierarchy builder.entries := rfl
  rw [freeze_eq_map_arranged, freeze_eq_map_arranged, same]
  cases Catalog.resolveOrder builder.hierarchy builder.entries <;> rfl

end CatalogBuilder

theorem Catalog.IsFrozen.withConverters {catalog : Catalog} (frozen : catalog.IsFrozen)
    (others : List Converter) : (catalog.withConverters others).IsFrozen := by
  -- Registering the entries alone and then the other converters builds the other catalog.
  obtain ⟨hierarchy, settings, calls, done⟩ := frozen
  have entries : (CatalogBuilder.ofSettings hierarchy settings).performAll
      (calls.filter Registration.isEntry) =
      ((CatalogBuilder.ofSettings hierarchy settings).performAll calls).withConverters [] :=
    CatalogBuilder.performAll_entries (.ofSettings hierarchy settings) [] calls
  have replaced : (CatalogBuilder.ofSettings hierarchy settings).performAll
      (calls.filter Registration.isEntry ++ others.map .converter) =
      ((CatalogBuilder.ofSettings hierarchy settings).performAll calls).withConverters others := by
    rw [CatalogBuilder.performAll, List.foldl_append, ← CatalogBuilder.performAll,
      ← CatalogBuilder.performAll, entries, CatalogBuilder.performAll_converters]
    rfl
  refine ⟨hierarchy, settings, calls.filter Registration.isEntry ++ others.map .converter, ?_⟩
  rw [replaced, CatalogBuilder.freeze_withConverters, done]
  rfl

/-! ## The statement -/

/-- What is read of a text, and how that is reported. -/
def Catalog.reading (catalog : Catalog) (text : String) (target : TypeKey)
    (context : ParseContext) : ParseResult × Except ParseError Value :=
  let result := catalog.parse text target context
  (result, catalog.outcome text target result)

theorem Catalog.reading_congr {catalog : Catalog} {others : List Converter} {text : String}
    {target : TypeKey} {context : ParseContext}
    (same : (catalog.withConverters others).parse text target context =
      catalog.parse text target context) :
    (catalog.withConverters others).reading text target context =
      catalog.reading text target context := by
  rw [reading, reading, same]
  rfl

theorem flags_separate (catalog : Catalog) :
    let converters := catalog.graph.converters
    let unflagged := converters.filter fun converter => !converter.flags.noCommandArguments
    (catalog.IsFrozen → ∀ others, (catalog.withConverters others).IsFrozen) ∧
    (∀ text target, (catalog.withConverters unflagged).reading text target .command =
      catalog.reading text target .command) ∧
    (∀ text target context, context ≠ .command →
      (catalog.withConverters (converters.map Converter.forCommands)).reading text target context =
        catalog.reading text target context) ∧
    (∀ others, others.map Converter.forChains = converters.map Converter.forChains →
      ∀ text target context, (catalog.withConverters others).reading text target context =
        catalog.reading text target context) ∧
    ∀ others, others.map Converter.forCommands = converters.map Converter.forCommands →
      (catalog.withConverters others).graph.convert = catalog.graph.convert ∧
        (catalog.withConverters others).graph.converterExists = catalog.graph.converterExists := by
  intro converters unflagged
  refine ⟨Catalog.IsFrozen.withConverters, ?_, ?_, ?_, ?_⟩
  · intro text target
    have allowed : unflagged = converters.filter (Catalog.mayRead .command) := rfl
    rw [allowed]
    exact Catalog.reading_congr Catalog.parse_filter
  · intro text target context elsewhere
    exact Catalog.reading_congr
      (Catalog.parse_mapConverters (Catalog.leavesReading_forCommands elsewhere))
  · exact fun others alike text target context =>
      Catalog.reading_congr (Catalog.parse_congr alike)
  · exact fun others alike => ConversionGraph.conversions_congr alike

/-- Here the flag decides whether commands can name located things. -/
theorem flags_separate_spoken :
    let catalog := Catalog.spoken
    let cleared := catalog.graph.converters.map Converter.forCommands
    let single := catalog.graph.converters.map fun converter =>
      { converter with flags := { converter.flags with noChaining := true } }
    catalog.IsFrozen ∧ (catalog.withConverters cleared).IsFrozen ∧
      (catalog.reading "steve" ⟨2⟩ .command).1.value? = none ∧
      ((catalog.withConverters cleared).reading "steve" ⟨2⟩ .command).1.value?.isSome ∧
      (catalog.withConverters []).reading "steve" ⟨2⟩ .command =
        catalog.reading "steve" ⟨2⟩ .command ∧
      (catalog.withConverters cleared).reading "steve" ⟨2⟩ .event =
        catalog.reading "steve" ⟨2⟩ .event ∧
      (catalog.withConverters single).reading "steve" ⟨2⟩ .event =
        catalog.reading "steve" ⟨2⟩ .event ∧
      (catalog.withConverters cleared).graph.convert = catalog.graph.convert := by
  intro catalog cleared single
  obtain ⟨frozen, command, elsewhere, chains, conversions⟩ := flags_separate .spoken
  exact ⟨Catalog.spoken_isFrozen, frozen Catalog.spoken_isFrozen cleared, rfl, rfl,
    command "steve" ⟨2⟩, elsewhere "steve" ⟨2⟩ .event (by decide),
    chains single rfl "steve" ⟨2⟩ .event, (conversions cleared rfl).1⟩

end HostTypes
