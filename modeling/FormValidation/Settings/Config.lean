import FormValidation.Host.Path
import FormValidation.Settings.Data

/-!
# Settings of the program

What a file of settings can say: which profiles to use when none are named, how messages are worded, and how output and
logs are written. Every setting may be left out, and settings of other names are passed over.
-/

set_option autoImplicit false

namespace FormValidation

/-- How output is written. -/
structure OutputSection where
  format : Option String := none
  messages : Bool := false
  showSensitive : Bool := false
  deriving DecidableEq, Repr

/-- How logs are written. -/
structure LoggingSection where
  level : Option String := none
  format : Option String := none
  deriving DecidableEq, Repr

/-- The settings of the program. -/
structure Config where
  profilesFile : Option String := none
  defaultProfile : Option String := none
  messages : Option MessageConfig := none
  output : OutputSection := {}
  logging : LoggingSection := {}
  deriving DecidableEq

open SettingsData in
/-- The section on output. -/
def OutputSection.ofData? (data : SettingsData) : Option OutputSection := do
  let settings ← data.settings? ["format", "messages", "show_sensitive"] false
  let format ← setting settings "format" none (optional text?)
  let messages ← setting settings "messages" false truth?
  let showSensitive ← setting settings "show_sensitive" false truth?
  return { format, messages, showSensitive }

open SettingsData in
/-- The section on logs. -/
def LoggingSection.ofData? (data : SettingsData) : Option LoggingSection := do
  let settings ← data.settings? ["level", "format"] false
  let level ← setting settings "level" none (optional text?)
  let format ← setting settings "format" none (optional text?)
  return { level, format }

open SettingsData in
/-- All settings. -/
def Config.ofData? (data : SettingsData) : Option Config := do
  let settings ← data.settings? ["profiles_file", "default_profile", "messages", "output", "logging"] false
  let profilesFile ← setting settings "profiles_file" none (optional text?)
  let defaultProfile ← setting settings "default_profile" none (optional text?)
  let messages ← setting settings "messages" none (optional messages?)
  let output ← setting settings "output" {} OutputSection.ofData?
  let logging ← setting settings "logging" {} LoggingSection.ofData?
  return { profilesFile, defaultProfile, messages, output, logging }

/-- The settings as data. -/
def Config.toJson (config : Config) : Json :=
  let text := fun (value : Option String) => (value.map Json.string).getD .null
  .object [
    ("profiles_file", text config.profilesFile),
    ("default_profile", text config.defaultProfile),
    ("messages", (config.messages.map MessageConfig.toJson).getD .null),
    ("output", .object [
      ("format", text config.output.format),
      ("messages", .bool config.output.messages),
      ("show_sensitive", .bool config.output.showSensitive)]),
    ("logging", .object [("level", text config.logging.level), ("format", text config.logging.format)])]

/-- A format of files of settings. -/
inductive SettingsFormat where
  | yaml
  | toml
  | json
  deriving DecidableEq, Repr

/-- Why a text holds no settings. -/
inductive SettingsFault where
  | yaml (fault : YamlFault)
  | toml (fault : TomlFault)
  | json (fault : JsonFault)
  | wrongShape (format : SettingsFormat)
  deriving DecidableEq, Repr

namespace SettingsFault

/-- The format of the text at fault. -/
def format : SettingsFault → SettingsFormat
  | yaml _ => .yaml
  | toml _ => .toml
  | json _ => .json
  | wrongShape format => format

/-- A short description of the fault. -/
def message : SettingsFault → String
  | yaml fault => fault.message
  | toml fault => fault.message
  | json fault => fault.message
  | wrongShape _ => "invalid type"

end SettingsFault

namespace SettingsFormat

/-- The format that the extension of a path stands for. -/
def ofPath? (path : String) : Option SettingsFormat :=
  match Path.extension? path with
  | some "yaml" => some yaml
  | some "yml" => some yaml
  | some "toml" => some toml
  | some "json" => some json
  | _ => none

/-- The data of a text. A YAML text without a document holds no settings. -/
def readData (format : SettingsFormat) (text : String) : Except SettingsFault SettingsData :=
  match format with
  | yaml =>
    match Yaml.parse text with
    | .error fault => .error (.yaml fault)
    | .ok none => .ok (.plain "")
    | .ok (some document) => .ok (.ofYaml document)
  | toml =>
    match Toml.parse text with
    | .error fault => .error (.toml fault)
    | .ok document => .ok (.ofToml document)
  | json =>
    match Json.parseAsWritten text with
    | .error fault => .error (.json fault)
    | .ok value => .ok (.ofJson value)

end SettingsFormat

/-- The settings in a text. -/
def Config.ofText (format : SettingsFormat) (text : String) : Except SettingsFault Config :=
  match format.readData text with
  | .error fault => .error fault
  | .ok data =>
    match Config.ofData? data with
    | none => .error (.wrongShape format)
    | some config => .ok config

end FormValidation
