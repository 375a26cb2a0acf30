import HostTypes.Settings.Basic
import HostTypes.Toml.Reader
import HostTypes.Toml.Writer

/-!
Settings files: TOML documents with a section for each group of settings. Everything may be left out
and then has its default; names that mean nothing are ignored. A section may also be written as an
array of its settings in order.
-/

namespace HostTypes

/-- Why settings cannot be loaded: there is no file, or its content is no settings document. -/
inductive SettingsError where
  | missing
  | malformed
  deriving DecidableEq, Repr

namespace SettingsError

def message : SettingsError → String
  | missing => "failed to read config: No such file or directory (os error 2)"
  | malformed => "failed to parse config"

end SettingsError

namespace Toml

/-- The values of a section in the order of the given names, as far as they are present. -/
def sectionValues? (names : List String) : Toml → Option (List (Option Toml))
  | table _ fields => some (names.map fun name => fields.lookup name)
  | array members => some ((List.range names.length).map fun place => members[place]?)
  | tables members =>
    some ((List.range names.length).map fun place => members[place]?.map (table .header))
  | moment => some (names.map fun _ => none)
  | _ => none

/-- A setting that may be absent. -/
def settingOr {α : Type} (default : α) (read? : Toml → Option α) : Option Toml → Option α
  | none => some default
  | some value => read? value

def truth? : Toml → Option Bool
  | truth value => some value
  | _ => none

def text? : Toml → Option String
  | text content => some content
  | _ => none

def count? : Toml → Option Nat
  | integer value => if 0 ≤ value then some value.toNat else none
  | _ => none

def isVoid : Toml → Bool
  | table _ fields => fields.isEmpty
  | array members => members.isEmpty
  | _ => false

/-- A log format is a text with its name, or a table whose only key is its name and which has
nothing under it. -/
def format? : Toml → Option LogFormat
  | text content => LogFormat.named? content
  | table _ [(name, value)] => if value.isVoid then LogFormat.named? name else none
  | _ => none

end Toml

open Toml

namespace RegistrationSettings

def ofToml? (toml : Toml) : Option RegistrationSettings := do
  let names := ["soft_api_exceptions", "warn_unresolved_dependencies", "log_order"]
  let [soft, warn, order] ← toml.sectionValues? names | none
  return {
    softConflicts := ← settingOr false truth? soft
    warnUnresolved := ← settingOr true truth? warn
    logOrder := ← settingOr false truth? order }

def toToml (settings : RegistrationSettings) : List Char :=
  writeSection "registration" [
    writeField "soft_api_exceptions" (writeTruth settings.softConflicts),
    writeField "warn_unresolved_dependencies" (writeTruth settings.warnUnresolved),
    writeField "log_order" (writeTruth settings.logOrder)]

end RegistrationSettings

namespace DisplaySettings

def ofToml? (toml : Toml) : Option DisplaySettings := do
  let [accuracy, absent] ← toml.sectionValues? ["number_accuracy", "none_text"] | none
  let defaults : DisplaySettings := {}
  return {
    numberAccuracy := ← settingOr defaults.numberAccuracy count? accuracy
    noneText := ← settingOr defaults.noneText text? absent }

def toToml (settings : DisplaySettings) : List Char :=
  writeSection "display" [
    writeField "number_accuracy" (toString settings.numberAccuracy).toList,
    writeField "none_text" (writeText settings.noneText.toList)]

end DisplaySettings

namespace LoggingSettings

def ofToml? (toml : Toml) : Option LoggingSettings := do
  let [level, format, filter, directory] ←
      toml.sectionValues? ["level", "format", "filter", "directory"] | none
  let defaults : LoggingSettings := {}
  return {
    level := ← settingOr defaults.level text? level
    format := ← settingOr defaults.format format? format
    filter := ← settingOr none (fun value => value.text?.map some) filter
    directory := ← settingOr none (fun value => value.text?.map some) directory }

def toToml (settings : LoggingSettings) : List Char :=
  writeSection "logging" <|
    [writeField "level" (writeText settings.level.toList),
      writeField "format" (writeText settings.format.name.toList)] ++
    (settings.filter.map fun filter => writeField "filter" (writeText filter.toList)).toList ++
    (settings.directory.map fun directory =>
      writeField "directory" (writeText directory.toList)).toList

end LoggingSettings

namespace Settings

def parse (content : String) : Except SettingsError Settings :=
  let settings? : Option Settings := do
    let fields ← Toml.read? content.toList
    return {
      registration := ← settingOr {} RegistrationSettings.ofToml? (fields.lookup "registration")
      display := ← settingOr {} DisplaySettings.ofToml? (fields.lookup "display")
      logging := ← settingOr {} LoggingSettings.ofToml? (fields.lookup "logging") }
  match settings? with
  | some settings => .ok settings
  | none => .error .malformed

/-- Reads the content of a settings file, or reports that there is no such file. -/
def load : Option String → Except SettingsError Settings
  | none => .error .missing
  | some content => parse content

/-- The content of a settings file, with a blank line between sections. -/
def render (settings : Settings) : String :=
  String.ofList <|
    List.intercalate ['\n']
      [settings.registration.toToml, settings.display.toToml, settings.logging.toToml]

/-- The settings file that says what holds without one. -/
def renderDefault : String :=
  ({} : Settings).render

end Settings

end HostTypes
