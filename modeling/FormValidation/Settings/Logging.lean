import FormValidation.Settings.Config
import FormValidation.Settings.Environment
import FormValidation.Text.Case

/-!
# Settings of logs

How much is logged and in what form: first by the number of times that more was asked for, then by the section of the
settings, and last by variables of the environment.
-/

set_option autoImplicit false

namespace FormValidation

/-- A form of log lines. -/
inductive LogFormat where
  | compact
  | full
  | json
  deriving DecidableEq, Repr

/-- The form of a name in upper or lower case. -/
def LogFormat.ofName? (name : String) : Option LogFormat :=
  match Text.lowerString name with
  | "compact" => some compact
  | "full" => some full
  | "json" => some json
  | _ => none

/-- How logs are written. -/
structure LoggingSettings where
  level : String := "warn"
  format : LogFormat := .compact
  console : Bool := true
  threadIds : Bool := false
  sourceLocation : Bool := false
  deriving DecidableEq, Repr

namespace LoggingSettings

/-- The settings for a number of times that more was asked for. -/
def ofVerbosity : Nat → LoggingSettings
  | 0 => {}
  | 1 => { level := "info" }
  | 2 => { level := "debug", sourceLocation := true }
  | _ => { level := "trace", format := .full, threadIds := true, sourceLocation := true }

/-- The settings after a section of a file; a form that is not known changes nothing. -/
def applySection (settings : LoggingSettings) (part : LoggingSection) : LoggingSettings where
  level := part.level.getD settings.level
  format := (part.format.bind LogFormat.ofName?).getD settings.format
  console := settings.console
  threadIds := settings.threadIds
  sourceLocation := settings.sourceLocation

/-- Whether the value of a variable switches something on. -/
def isOn (value : String) : Bool := Text.equalIgnoringAsciiCase value.toList "true".toList || value == "1"

/-- The settings after the variables of the environment. -/
def applyEnvironment (settings : LoggingSettings) (environment : Environment) : LoggingSettings where
  level := (environment "RUST_LOG").getD settings.level
  format := ((environment "FORMCHECK_LOG_FORMAT").bind LogFormat.ofName?).getD settings.format
  console := ((environment "FORMCHECK_LOG_CONSOLE").map isOn).getD settings.console
  threadIds := settings.threadIds
  sourceLocation := settings.sourceLocation

/-- What is said about a variable that names no form. -/
def environmentNotice (environment : Environment) : String :=
  match environment "FORMCHECK_LOG_FORMAT" with
  | none => ""
  | some name =>
    match LogFormat.ofName? name with
    | some _ => ""
    | none => "Ignoring unknown FORMCHECK_LOG_FORMAT '" ++ name ++ "'\n"

end LoggingSettings

end FormValidation
