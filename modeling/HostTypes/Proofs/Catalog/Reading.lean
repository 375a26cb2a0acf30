import HostTypes.Catalog.Parsing
import HostTypes.Proofs.Catalog.ClosestEntry

/-!
What text is read as. Parsers are tried in priority order and the first that reads a text decides, so
none for a strict subtype of its entry's type reads it (`isReading_of_parseDirect`). Where none reads
it, converters into the target are tried in the order of registration, and the first decides that makes
something of what the text is read as for it (`parse_specific`).
-/

namespace HostTypes

def TypeEntry.Reads (entry : TypeEntry) (text : String) (context : ParseContext) (value : Value) :
    Prop :=
  ∃ parser, entry.parser = some parser ∧ parser.canParse context ∧
    parser.parse text context = .ok value

def ParseContext.Allows (context : ParseContext) (converter : Converter) : Prop :=
  ¬ (context = .command ∧ converter.flags.noCommandArguments)

namespace Catalog

variable {catalog : Catalog} {text : String} {target : TypeKey} {context : ParseContext}
  {value : Value}

/-! ## Reading directly -/

def read? (catalog : Catalog) (text : String) (target : TypeKey) (context : ParseContext)
    (entry : TypeEntry) : Option Value :=
  (catalog.applicableParser? target context entry).bind fun parser =>
    (parser.parse text context).toOption

theorem toOption_eq_some_iff {α ε : Type} {outcome : Except ε α} {result : α} :
    outcome.toOption = some result ↔ outcome = .ok result := by
  cases outcome <;> simp [Except.toOption]

theorem read?_eq_some_iff {entry : TypeEntry} :
    catalog.read? text target context entry = some value ↔
      catalog.hierarchy.isAssignable entry.native target ∧ entry.Reads text context value := by
  simp only [read?, applicableParser?, Option.bind_eq_some_iff, Option.filter_eq_some_iff,
    Bool.and_eq_true, toOption_eq_some_iff, TypeEntry.Reads]
  constructor
  · rintro ⟨parser, ⟨has, applies, fits⟩, reads⟩
    exact ⟨fits, parser, has, applies, reads⟩
  · rintro ⟨fits, parser, has, applies, reads⟩
    exact ⟨parser, ⟨has, applies, fits⟩, reads⟩

theorem read?_eq_none_iff {entry : TypeEntry} :
    catalog.read? text target context entry = none ↔
      (catalog.hierarchy.isAssignable entry.native target →
        ∀ value, ¬ entry.Reads text context value) := by
  simp only [Option.eq_none_iff_forall_ne_some, ne_eq, read?_eq_some_iff, not_and]
  exact ⟨fun unread fits value => unread value fits, fun unread value fits => unread fits value⟩

theorem value?_readWith (entries : List TypeEntry) :
    (catalog.readWith text target context entries).value? =
      entries.findSome? (catalog.read? text target context) := by
  induction entries with
  | nil => rfl
  | cons entry rest ih =>
      rw [List.findSome?_cons, readWith, read?]
      cases catalog.applicableParser? target context entry with
      | none => exact ih
      | some parser =>
          simp only [Option.bind_some]
          cases parser.parse text context with
          | ok value => rfl
          | error failure =>
              cases failure with
              | noMatch => exact ih
              | invalid reason => exact ih

/-- The text is read by an entry's parser, and by none for a strict subtype. -/
structure IsReading (catalog : Catalog) (text : String) (target : TypeKey) (context : ParseContext)
    (value : Value) (entry : TypeEntry) : Prop where
  registered : entry ∈ catalog.entries
  fits : catalog.hierarchy.isAssignable entry.native target
  reads : entry.Reads text context value
  least : ∀ other ∈ catalog.entries,
    catalog.hierarchy.isStrictSubtype other.native entry.native →
      ∀ result, ¬ other.Reads text context result

theorem isReading_of_parseDirect (frozen : catalog.IsFrozen)
    (direct : (catalog.parseDirect text target context).value? = some value) :
    ∃ entry, catalog.IsReading text target context value entry := by
  rw [parseDirect, value?_readWith] at direct
  obtain ⟨before, entry, after, split, found, unread⟩ := List.findSome?_eq_some_iff.1 direct
  obtain ⟨fits, reads⟩ := read?_eq_some_iff.1 found
  have first : catalog.entries.find? (fun entry =>
      (catalog.read? text target context entry).isSome) = some entry :=
    List.find?_eq_some_iff_append.2 ⟨by simp [found], before, after, split, by simpa using unread⟩
  refine ⟨entry, List.mem_of_find?_eq_some first, fits, reads, ?_⟩
  intro other member strict result readsToo
  -- A parser for a subtype would do for the target as well.
  have below := (Hierarchy.isStrictSubtype_iff.1 strict).2
  have readable := read?_eq_some_iff.2 ⟨Hierarchy.isAssignable_trans below fits, readsToo⟩
  exact find?_least frozen.sorted first other member (by simp [readable]) strict

theorem parseDirect_eq_none_iff :
    (catalog.parseDirect text target context).value? = none ↔
      ∀ entry ∈ catalog.entries, catalog.hierarchy.isAssignable entry.native target →
        ∀ value, ¬ entry.Reads text context value := by
  rw [parseDirect, value?_readWith, List.findSome?_eq_none_iff]
  exact forall₂_congr fun entry _ => read?_eq_none_iff

/-! ## Reading through a converter -/

def readInto? (catalog : Catalog) (text : String) (target : TypeKey) (context : ParseContext)
    (converter : Converter) : Option Value :=
  if catalog.hierarchy.isAssignable converter.target target && mayRead context converter then
    (catalog.parseDirect text converter.source context).value?.bind converter.apply
  else none

/-- There is no reading of the text as the source of a converter, or the converter declines it. -/
def Unread (catalog : Catalog) (text : String) (context : ParseContext) (converter : Converter) :
    Prop :=
  ∀ source, (catalog.parseDirect text converter.source context).value? = some source →
    converter.apply source = none

theorem mayRead_iff {converter : Converter} :
    mayRead context converter = true ↔ context.Allows converter := by
  simp [mayRead, ParseContext.Allows, Decidable.imp_iff_not_or]

theorem readInto?_eq_some_iff {converter : Converter} :
    catalog.readInto? text target context converter = some value ↔
      catalog.hierarchy.isAssignable converter.target target ∧ context.Allows converter ∧
        ∃ source, (catalog.parseDirect text converter.source context).value? = some source ∧
          converter.apply source = some value := by
  simp only [readInto?, Option.ite_none_right_eq_some, Bool.and_eq_true, mayRead_iff,
    Option.bind_eq_some_iff, and_assoc]

theorem readInto?_eq_none_iff {converter : Converter} :
    catalog.readInto? text target context converter = none ↔
      (catalog.hierarchy.isAssignable converter.target target → context.Allows converter →
        catalog.Unread text context converter) := by
  simp only [readInto?, ite_eq_right_iff, Bool.and_eq_true, mayRead_iff, Option.bind_eq_none_iff,
    and_imp, Unread]

theorem value?_readThrough (converters : List Converter) :
    (catalog.readThrough text context (converters.filter fun converter =>
        catalog.hierarchy.isAssignable converter.target target)).value? =
      converters.findSome? (catalog.readInto? text target context) := by
  induction converters with
  | nil => rfl
  | cons converter rest ih =>
      rw [List.filter_cons, List.findSome?_cons, readInto?]
      cases catalog.hierarchy.isAssignable converter.target target with
      | false => exact ih
      | true =>
          rw [if_pos rfl, readThrough, Bool.true_and]
          cases mayRead context converter with
          | false => exact ih
          | true =>
              simp only [if_true]
              cases made : (catalog.parseDirect text converter.source context).value?.bind
                  converter.apply with
              | none => exact ih
              | some value => rfl

theorem value?_parse (frozen : catalog.IsFrozen) :
    (catalog.parse text target context).value? =
      (catalog.parseDirect text target context).value?.or
        (catalog.graph.converters.findSome? (catalog.readInto? text target context)) := by
  rw [parse, ← value?_readThrough, ConversionGraph.convertersInto, frozen.hierarchy_graph]
  cases found : (catalog.parseDirect text target context).value? with
  | none => rfl
  | some value =>
      rw [Option.isSome_some, if_pos rfl, found]
      rfl

end Catalog

/-! ## The statement -/

theorem parse_specific (catalog : Catalog) (frozen : catalog.IsFrozen) (text : String)
    (target : TypeKey) (context : ParseContext) :
    let direct := (catalog.parseDirect text target context).value?
    let parsed := (catalog.parse text target context).value?
    (∀ value, direct = some value →
      ∃ entry, catalog.IsReading text target context value entry) ∧
    (direct = none ↔ ∀ entry ∈ catalog.entries,
      catalog.hierarchy.isAssignable entry.native target →
        ∀ value, ¬ entry.Reads text context value) ∧
    (∀ value, direct = some value → parsed = some value) ∧
    (∀ value, direct = none → parsed = some value → ∃ before converter after source,
      catalog.graph.converters = before ++ converter :: after ∧
        catalog.hierarchy.isAssignable converter.target target ∧ context.Allows converter ∧
        (catalog.parseDirect text converter.source context).value? = some source ∧
        converter.apply source = some value ∧
        ∀ earlier ∈ before, catalog.hierarchy.isAssignable earlier.target target →
          context.Allows earlier → catalog.Unread text context earlier) ∧
    (parsed = none ↔ direct = none ∧ ∀ converter ∈ catalog.graph.converters,
      catalog.hierarchy.isAssignable converter.target target → context.Allows converter →
        catalog.Unread text context converter) := by
  intro direct parsed
  have parsedIs : parsed = direct.or
      (catalog.graph.converters.findSome? (catalog.readInto? text target context)) :=
    Catalog.value?_parse frozen
  refine ⟨?_, Catalog.parseDirect_eq_none_iff, ?_, ?_, ?_⟩
  · exact fun value found => Catalog.isReading_of_parseDirect frozen found
  · intro value found
    rw [parsedIs, found, Option.some_or]
  · intro value unread found
    rw [parsedIs, unread, Option.none_or] at found
    obtain ⟨before, converter, after, split, made, declined⟩ := List.findSome?_eq_some_iff.1 found
    obtain ⟨fits, allowed, source, reads, gives⟩ := Catalog.readInto?_eq_some_iff.1 made
    refine ⟨before, converter, after, source, split, fits, allowed, reads, gives, ?_⟩
    exact fun earlier member => Catalog.readInto?_eq_none_iff.1 (declined earlier member)
  · rw [parsedIs, Option.or_eq_none_iff, List.findSome?_eq_none_iff]
    simp only [Catalog.readInto?_eq_none_iff]

/-- Entities are read in events alone, other named things everywhere, and except in commands they are
taken for located things as well. -/
def Catalog.spoken : Catalog where
  hierarchy := .diamond
  display := {}
  entries :=
    [{ codeName := "entity", native := ⟨3⟩
       parser := some (.ofFunctions (some fun text _ => .ok ⟨⟨3⟩, .text text⟩) (fun _ => "entity")
        none none (some [.event])) },
      { codeName := "named", native := ⟨1⟩
        parser := some (.ofFunctions (some fun text _ => .ok ⟨⟨1⟩, .text text⟩) (fun _ => "named")
          none none none) }]
  graph := ⟨.diamond,
    [{ source := ⟨1⟩, target := ⟨2⟩, flags := { noCommandArguments := true }
       apply := fun value => some ⟨⟨2⟩, value.payload⟩ }]⟩
  issues := []

theorem Catalog.spoken_isFrozen : spoken.IsFrozen :=
  ⟨.diamond, {},
    spoken.entries.reverse.map .entry ++ spoken.graph.converters.map .converter, rfl⟩

theorem parse_specific_spoken :
    Catalog.spoken.IsFrozen ∧
      (∃ entry, Catalog.spoken.IsReading "steve" ⟨1⟩ .event ⟨⟨3⟩, .text "steve"⟩ entry) ∧
      (Catalog.spoken.parse "steve" ⟨2⟩ .default).value? = some ⟨⟨2⟩, .text "steve"⟩ ∧
      (∃ before converter after source,
        Catalog.spoken.graph.converters = before ++ converter :: after ∧
          ParseContext.default.Allows converter ∧
          (Catalog.spoken.parseDirect "steve" converter.source .default).value? = some source ∧
          converter.apply source = some ⟨⟨2⟩, .text "steve"⟩) ∧
      ∀ converter ∈ Catalog.spoken.graph.converters, converter.target = ⟨2⟩ →
        ParseContext.command.Allows converter →
          Catalog.spoken.Unread "steve" .command converter := by
  have frozen := Catalog.spoken_isFrozen
  obtain ⟨event, _⟩ := parse_specific .spoken frozen "steve" ⟨1⟩ .event
  obtain ⟨_, _, _, through, _⟩ := parse_specific .spoken frozen "steve" ⟨2⟩ .default
  obtain ⟨_, _, _, _, nothing⟩ := parse_specific .spoken frozen "steve" ⟨2⟩ .command
  refine ⟨frozen, event _ rfl, rfl, ?_, fun converter member same => ?_⟩
  · obtain ⟨before, converter, after, source, split, _, allowed, reads, gives, _⟩ :=
      through ⟨⟨2⟩, .text "steve"⟩ rfl rfl
    exact ⟨before, converter, after, source, split, allowed, reads, gives⟩
  · exact (nothing.1 rfl).2 converter member (by rw [same]; decide)

end HostTypes
