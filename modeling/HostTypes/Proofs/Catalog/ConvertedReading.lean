import HostTypes.Proofs.Catalog.Reading
import HostTypes.Proofs.Catalog.RoundTrip
import HostTypes.Proofs.Conversion.Running

/-!
The types of readings through a converter. A conversion checks what its chain has made, so its result
always fits. A reading is whatever the first converter makes that does not decline
(`value?_parse_eq_some_iff`), so it fits unless that converter oversteps its own target type
(`converted_reading_fits`).
-/

namespace HostTypes

namespace Catalog

variable {catalog : Catalog} {text : String} {target : TypeKey} {context : ParseContext}
  {converter : Converter} {source value : Value}

/-- Of the converters into the target that the context allows, the first that makes something of what
the text is read as for it. -/
structure Decides (catalog : Catalog) (text : String) (target : TypeKey) (context : ParseContext)
    (converter : Converter) (source value : Value) : Prop where
  leadsInto : catalog.hierarchy.isAssignable converter.target target
  allowed : context.Allows converter
  reads : (catalog.parseDirect text converter.source context).value? = some source
  makes : converter.apply source = some value
  first : ∃ before after, catalog.graph.converters = before ++ converter :: after ∧
    ∀ earlier ∈ before, catalog.hierarchy.isAssignable earlier.target target →
      context.Allows earlier → catalog.Unread text context earlier

theorem findSome?_readInto?_eq_some_iff :
    catalog.graph.converters.findSome? (catalog.readInto? text target context) = some value ↔
      ∃ converter source, catalog.Decides text target context converter source value := by
  rw [List.findSome?_eq_some_iff]
  constructor
  · rintro ⟨before, converter, after, split, made, declined⟩
    obtain ⟨leadsInto, allowed, source, reads, makes⟩ := readInto?_eq_some_iff.1 made
    exact ⟨converter, source, leadsInto, allowed, reads, makes, before, after, split,
      fun earlier member => readInto?_eq_none_iff.1 (declined earlier member)⟩
  · rintro ⟨converter, source, leadsInto, allowed, reads, makes, before, after, split, declined⟩
    exact ⟨before, converter, after, split,
      readInto?_eq_some_iff.2 ⟨leadsInto, allowed, source, reads, makes⟩,
      fun earlier member => readInto?_eq_none_iff.2 (declined earlier member)⟩

theorem value?_parse_eq_some_iff (frozen : catalog.IsFrozen)
    (unread : (catalog.parseDirect text target context).value? = none) :
    (catalog.parse text target context).value? = some value ↔
      ∃ converter source, catalog.Decides text target context converter source value := by
  rw [value?_parse frozen, unread, Option.none_or, findSome?_readInto?_eq_some_iff]

theorem Decides.mem (decides : catalog.Decides text target context converter source value) :
    converter ∈ catalog.graph.converters := by
  obtain ⟨before, after, split, _⟩ := decides.first
  exact split ▸ List.mem_append_right before List.mem_cons_self

theorem Decides.fits (decides : catalog.Decides text target context converter source value)
    (keeps : catalog.hierarchy.isAssignable value.type converter.target) :
    catalog.hierarchy.isAssignable value.type target :=
  Hierarchy.isAssignable_trans keeps decides.leadsInto

end Catalog

/-! ## The statement -/

theorem converted_reading_fits (env : Environment) (frozen : env.catalog.IsFrozen) (text : String)
    (target : TypeKey) (context : ParseContext)
    (unread : (env.catalog.parseDirect text target context).value? = none) :
    let catalog := env.catalog
    let parsed := (catalog.parse text target context).value?
    (∀ value, parsed = some value ↔
      ∃ converter source, catalog.Decides text target context converter source value) ∧
    (∀ value, parsed = some value → catalog.hierarchy.isAssignable value.type target ∨
      ∃ converter source, catalog.Decides text target context converter source value ∧
        ¬ catalog.hierarchy.isAssignable value.type converter.target) ∧
    (catalog.graph.KeepsTargets →
      ∀ value, parsed = some value → catalog.hierarchy.isAssignable value.type target) ∧
    ∀ questions value result,
      ((catalog.graph.convert value target).run (env.memoryAfter questions)).1 = some result →
        catalog.hierarchy.isAssignable result.type target := by
  intro catalog parsed
  have parsed_iff (value : Value) : parsed = some value ↔
      ∃ converter source, catalog.Decides text target context converter source value :=
    Catalog.value?_parse_eq_some_iff frozen unread
  refine ⟨parsed_iff, ?_, ?_, ?_⟩
  · intro value found
    obtain ⟨converter, source, decides⟩ := (parsed_iff value).1 found
    by_cases keeps : catalog.hierarchy.isAssignable value.type converter.target
    · exact .inl (decides.fits keeps)
    · exact .inr ⟨converter, source, decides, keeps⟩
  · intro keeps value found
    obtain ⟨converter, source, decides⟩ := (parsed_iff value).1 found
    have kept := keeps converter decides.mem source value decides.makes
    exact decides.fits (frozen.hierarchy_graph ▸ kept)
  · intro questions value result converted
    rw [(env.computes_convert value target _ (env.faithful_memoryAfter questions)).1] at converted
    exact frozen.hierarchy_graph ▸ ConversionGraph.isAssignable_of_result? converted

def Environment.spoken : Environment :=
  ⟨.spoken, ⟨.diamond, Catalog.spoken.graph, []⟩, rfl⟩

theorem converted_reading_fits_spoken :
    let catalog := Environment.spoken.catalog
    catalog.IsFrozen ∧ (catalog.parseDirect "steve" ⟨2⟩ .default).value? = none ∧
      catalog.graph.KeepsTargets ∧
      ∃ value, (catalog.parse "steve" ⟨2⟩ .default).value? = some value ∧
        catalog.hierarchy.isAssignable value.type ⟨2⟩ := by
  intro catalog
  have usable : Hierarchy.diamond.isAssignable ⟨2⟩ ⟨2⟩ := by decide
  have keeps : catalog.graph.KeepsTargets := by
    intro converter member input result gives
    obtain rfl := List.mem_singleton.1 member
    cases gives
    exact usable
  obtain ⟨_, _, fits, _⟩ :=
    converted_reading_fits .spoken Catalog.spoken_isFrozen "steve" ⟨2⟩ .default rfl
  exact ⟨Catalog.spoken_isFrozen, rfl, keeps, _, rfl, fits keeps _ rfl⟩

/-- Named things are said to be located things, but the converter hands them on as they are. -/
def Catalog.loose : Catalog where
  hierarchy := .diamond
  display := {}
  entries :=
    [{ codeName := "named", native := ⟨1⟩
       parser := some (.ofFunctions (some fun text _ => .ok ⟨⟨1⟩, .text text⟩) (fun _ => "named")
          none none none) }]
  graph := ⟨.diamond, [{ source := ⟨1⟩, target := ⟨2⟩, apply := some }]⟩
  issues := []

theorem converted_reading_oversteps_loose :
    let named : Value := ⟨⟨1⟩, .text "steve"⟩
    Catalog.loose.IsFrozen ∧ (Catalog.loose.parseDirect "steve" ⟨2⟩ .default).value? = none ∧
      (Catalog.loose.parse "steve" ⟨2⟩ .default).value? = some named ∧
      ¬ Catalog.loose.hierarchy.isAssignable named.type ⟨2⟩ ∧
      ((Catalog.loose.graph.convert named ⟨2⟩).run {}).1 = none := by
  intro named
  refine ⟨⟨.diamond, {}, ?_⟩, rfl, rfl, by decide, rfl⟩
  exact ⟨Catalog.loose.entries.map .entry ++ Catalog.loose.graph.converters.map .converter, rfl⟩

end HostTypes
