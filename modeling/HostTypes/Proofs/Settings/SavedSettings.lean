import HostTypes.Proofs.Toml.Documents
import HostTypes.Proofs.Toml.IntegerRange
import HostTypes.Settings.File

/-!
Settings that are saved and loaded. A settings file has its sections with the settings in order, and each
setting is read from what is written for it, or has its default where nothing is (`parse_render`). The
one setting that files cannot hold for all its values is the number of decimals, and none that comes
from a file is too large (`numberAccuracy_lt_of_parse`).
-/

namespace HostTypes

open Toml

/-! ## Sections -/

namespace RegistrationSettings

def entries (settings : RegistrationSettings) : List SpeltField :=
  [⟨"soft_api_exceptions", _, _, by decide, spells_truth settings.softConflicts⟩,
    ⟨"warn_unresolved_dependencies", _, _, by decide, spells_truth settings.warnUnresolved⟩,
    ⟨"log_order", _, _, by decide, spells_truth settings.logOrder⟩]

variable (settings : RegistrationSettings)

theorem toToml_eq :
    settings.toToml = writeSection "registration" (settings.entries.map SpeltField.chars) := rfl

theorem distinct_entries : (settings.entries.map SpeltField.key).Nodup := by
  simp [entries]

theorem ofToml?_entries :
    ofToml? (table .header (settings.entries.map SpeltField.pair)) = some settings := rfl

end RegistrationSettings

namespace DisplaySettings

def entries (settings : DisplaySettings) (fits : settings.numberAccuracy < twoTo 63) : List SpeltField :=
  [⟨"number_accuracy", _, _, by decide, spells_count fits⟩,
    ⟨"none_text", _, _, by decide, spells_text settings.noneText⟩]

variable {settings : DisplaySettings} (fits : settings.numberAccuracy < twoTo 63)

theorem toToml_eq :
    settings.toToml = writeSection "display" ((settings.entries fits).map SpeltField.chars) := rfl

theorem distinct_entries : ((settings.entries fits).map SpeltField.key).Nodup := by
  simp [entries]

theorem ofToml?_entries :
    ofToml? (table .header ((settings.entries fits).map SpeltField.pair)) = some settings := by
  simp [entries, ofToml?, sectionValues?, SpeltField.pair, settingOr, count?, text?, List.lookup_cons]

end DisplaySettings

namespace LoggingSettings

def entries (settings : LoggingSettings) : List SpeltField :=
  [⟨"level", _, _, by decide, spells_text settings.level⟩,
    ⟨"format", _, _, by decide, spells_text settings.format.name⟩] ++
  (settings.filter.map fun filter => ⟨"filter", _, _, by decide, spells_text filter⟩).toList ++
  (settings.directory.map fun directory => ⟨"directory", _, _, by decide, spells_text directory⟩).toList

variable (settings : LoggingSettings)

theorem toToml_eq :
    settings.toToml = writeSection "logging" (settings.entries.map SpeltField.chars) := by
  obtain ⟨level, format, filter, directory⟩ := settings
  cases filter <;> cases directory <;> rfl

theorem distinct_entries : (settings.entries.map SpeltField.key).Nodup := by
  obtain ⟨level, format, filter, directory⟩ := settings
  cases filter <;> cases directory <;> simp [entries]

theorem ofToml?_entries :
    ofToml? (table .header (settings.entries.map SpeltField.pair)) = some settings := by
  obtain ⟨level, format, filter, directory⟩ := settings
  cases format <;> cases filter <;> cases directory <;> rfl

end LoggingSettings

/-! ## Values in range -/

theorem Toml.Fits.sectionValues? {names : List String} {toml : Toml} {values : List (Option Toml)}
    (fits : Fits toml) (present : toml.sectionValues? names = some values) {value : Toml}
    (member : some value ∈ values) : Fits value := by
  unfold Toml.sectionValues? at present
  split at present
  · obtain rfl := Option.some.inj present
    obtain ⟨name, -, found⟩ := List.mem_map.1 member
    exact (fits_table_iff.1 fits).lookup found
  · obtain rfl := Option.some.inj present
    obtain ⟨place, -, found⟩ := List.mem_map.1 member
    cases fits with
    | array each => exact each value (List.mem_of_getElem? found)
  · obtain rfl := Option.some.inj present
    obtain ⟨place, -, found⟩ := List.mem_map.1 member
    obtain ⟨fields, located, rfl⟩ := Option.map_eq_some_iff.1 found
    exact fits_table_iff.2 (fits_tables_iff.1 fits fields (List.mem_of_getElem? located))
  · obtain rfl := Option.some.inj present
    simp at member
  · contradiction

theorem Toml.Fits.count?_lt {toml : Toml} {n : Nat} (fits : Fits toml) (read : toml.count? = some n) :
    n < twoTo 63 := by
  cases fits with
  | integer least greatest =>
      unfold count? at read
      dsimp only at read
      split_ifs at read with positive
      rw [← Option.some.inj read]
      omega
  | _ => contradiction

theorem DisplaySettings.numberAccuracy_lt_of_ofToml? {settings : DisplaySettings} {toml : Toml}
    (fits : Fits toml) (read : ofToml? toml = some settings) : settings.numberAccuracy < twoTo 63 := by
  obtain ⟨values, present, read⟩ := Option.bind_eq_some_iff.1 read
  split at read
  · next accuracy absent =>
      obtain ⟨count, counted, read⟩ := Option.bind_eq_some_iff.1 read
      obtain ⟨text, _, read⟩ := Option.bind_eq_some_iff.1 read
      rw [← Option.some.inj read]
      cases accuracy with
      | none =>
          have small : 2 < twoTo 63 := by decide
          rwa [← Option.some.inj counted]
      | some value => exact (fits.sectionValues? present List.mem_cons_self).count?_lt counted
  · contradiction

/-! ## Whole files -/

namespace Settings

theorem parse_eq_ok_iff {content : String} {settings : Settings} :
    parse content = .ok settings ↔ ∃ fields, Toml.read? content.toList = some fields ∧
      settingOr {} RegistrationSettings.ofToml? (fields.lookup "registration") =
        some settings.registration ∧
      settingOr {} DisplaySettings.ofToml? (fields.lookup "display") = some settings.display ∧
      settingOr {} LoggingSettings.ofToml? (fields.lookup "logging") = some settings.logging := by
  constructor
  · intro parsed
    unfold parse at parsed
    dsimp only at parsed
    split at parsed
    · next found read =>
        obtain rfl := Except.ok.inj parsed
        obtain ⟨fields, document, read⟩ := Option.bind_eq_some_iff.1 read
        obtain ⟨registration, first, read⟩ := Option.bind_eq_some_iff.1 read
        obtain ⟨display, second, read⟩ := Option.bind_eq_some_iff.1 read
        obtain ⟨logging, third, read⟩ := Option.bind_eq_some_iff.1 read
        obtain rfl := Option.some.inj read
        exact ⟨fields, document, first, second, third⟩
    · contradiction
  · rintro ⟨fields, document, first, second, third⟩
    simp [parse, document, first, second, third]

variable {settings : Settings}

theorem toList_render (settings : Settings) : settings.render.toList =
    settings.registration.toToml ++ '\n' :: (settings.display.toToml ++
      '\n' :: (settings.logging.toToml ++ [])) := by
  simp [render, List.intercalate]

theorem read?_render (fits : settings.display.numberAccuracy < twoTo 63) :
    Toml.read? settings.render.toList =
      some [("registration", table .header (settings.registration.entries.map SpeltField.pair)),
        ("display", table .header ((settings.display.entries fits).map SpeltField.pair)),
        ("logging", table .header (settings.logging.entries.map SpeltField.pair))] := by
  rw [toList_render, RegistrationSettings.toToml_eq, DisplaySettings.toToml_eq fits,
    LoggingSettings.toToml_eq]
  refine read?_of_readsAs (by simp [writeSection]) ?_
  refine readsAs_writeSection (by decide) settings.registration.distinct_entries rfl ?_
  refine ReadsAs.blank (readsAs_writeSection (by decide) (DisplaySettings.distinct_entries fits) rfl ?_)
  refine ReadsAs.blank (readsAs_writeSection (by decide) settings.logging.distinct_entries rfl ?_)
  exact readsAs_nil

theorem parse_render (fits : settings.display.numberAccuracy < twoTo 63) :
    parse settings.render = .ok settings :=
  parse_eq_ok_iff.2 ⟨_, read?_render fits, settings.registration.ofToml?_entries,
    DisplaySettings.ofToml?_entries fits, settings.logging.ofToml?_entries⟩

theorem numberAccuracy_lt_of_parse {content : String} (parsed : parse content = .ok settings) :
    settings.display.numberAccuracy < twoTo 63 := by
  obtain ⟨fields, read, -, display, -⟩ := parse_eq_ok_iff.1 parsed
  cases found : fields.lookup "display" with
  | none =>
      rw [found] at display
      rw [← Option.some.inj display]
      decide
  | some toml =>
      rw [found] at display
      exact DisplaySettings.numberAccuracy_lt_of_ofToml? ((fieldsFit_of_read? read).lookup found) display

theorem load_saved :
    (∀ content settings, parse content = .ok settings → load (some settings.render) = .ok settings) ∧
    (∀ settings, (∃ content, parse content = .ok settings) ↔
      settings.display.numberAccuracy < twoTo 63) ∧
    parse renderDefault = .ok {} := by
  refine ⟨fun content settings parsed => ?_, fun settings => ⟨?_, fun fits => ?_⟩, ?_⟩
  · rw [load]
    exact parse_render (numberAccuracy_lt_of_parse parsed)
  · rintro ⟨content, parsed⟩
    exact numberAccuracy_lt_of_parse parsed
  · exact ⟨settings.render, parse_render fits⟩
  · have fits : ({} : Settings).display.numberAccuracy < twoTo 63 := by decide
    exact parse_render fits

theorem eq_ok_of_toOption {outcome : Except SettingsError Settings}
    (found : outcome.toOption = some settings) : outcome = .ok settings := by
  cases outcome with
  | ok other => exact congrArg Except.ok (Option.some.inj found)
  | error failure => contradiction

/-- Settings in other notations than they are written in, with texts that need quotes of every kind. -/
theorem load_saved_awkward :
    let content := "display = [7, \'\'\'it\'s \"so\"\n\\\'\'\']\nlogging.level = \"\\u0001\\\"é\"\nlogging.directory = ''"
    let settings : Settings :=
      { display := { numberAccuracy := 7, noneText := "it's \"so\"\n\\" }
        logging := { level := "\x01\"é", directory := some "" } }
    parse content = .ok settings ∧ load (some settings.render) = .ok settings := by
  intro content settings
  have found : (parse content).toOption = some settings := by decide +kernel +zetaReduce
  have parsed : parse content = .ok settings := eq_ok_of_toOption found
  exact ⟨parsed, load_saved.1 content settings parsed⟩

end Settings

end HostTypes
