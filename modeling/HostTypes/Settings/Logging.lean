import HostTypes.Settings.Basic
import HostTypes.Text.Digit

/-!
How a host logs: from the logging settings, then adjusted piece by piece.
-/

namespace HostTypes

inductive LogLevel where
  | error
  | warn
  | info
  | debug
  | trace
  deriving DecidableEq, Repr, Inhabited

namespace LogLevel

def all : List LogLevel :=
  [error, warn, info, debug, trace]

def name : LogLevel → String
  | error => "ERROR"
  | warn => "WARN"
  | info => "INFO"
  | debug => "DEBUG"
  | trace => "TRACE"

def ofNumber? (n : Nat) : Option LogLevel :=
  if n = 0 then none else all[n - 1]?

/-- A number in digits, with or without a plus sign. -/
def number? (text : List Char) : Option Nat :=
  let digits :=
    match text with
    | '+' :: rest => rest
    | _ => text
  if digits.isEmpty then none else asciiNumber? digits

/-- Reads a level from its number, or from its name in any mixture of cases. -/
def read? (text : String) : Option LogLevel :=
  match (number? text.toList).bind ofNumber? with
  | some level => some level
  | none => all.find? fun level => level.name == text.toUpper

end LogLevel

inductive LogOutput where
  | standardOutput
  | standardError
  /-- Files in a directory, a new one every day, whose names start with `stem`. -/
  | files (directory stem : String)
  deriving DecidableEq, Repr

namespace LogOutput

/-- The output of a name: one of the two standard outputs, or a directory for files. -/
def named (stem : String) : String → LogOutput
  | "stdout" => standardOutput
  | "stderr" => standardError
  | directory => files directory stem

end LogOutput

structure LogConfig where
  level : LogLevel := .info
  format : LogFormat := .pretty
  output : LogOutput := .standardError
  spanEvents : Bool := false
  filter : Option String := none
  deriving DecidableEq, Repr

namespace LogConfig

/-- The start of the names of log files. -/
def fileStem : String := "scriptreg"

/-- The configuration that settings ask for. A level that cannot be read counts as `info`. -/
def ofSettings (settings : LoggingSettings) : LogConfig where
  level := (LogLevel.read? settings.level).getD .info
  format := settings.format
  output :=
    match settings.directory with
    | some directory => .files directory fileStem
    | none => .standardError
  spanEvents := false
  filter := settings.filter

def withLevel (config : LogConfig) (level : LogLevel) : LogConfig :=
  { config with level }

def withFormat (config : LogConfig) (format : LogFormat) : LogConfig :=
  { config with format }

def withOutput (config : LogConfig) (output : LogOutput) : LogConfig :=
  { config with output }

def withSpanEvents (config : LogConfig) (spanEvents : Bool) : LogConfig :=
  { config with spanEvents }

def withFilter (config : LogConfig) (filter : String) : LogConfig :=
  { config with filter := some filter }

end LogConfig

end HostTypes
