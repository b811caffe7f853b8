import FormValidation.CommandLine.Arguments
import FormValidation.CommandLine.Fault
import FormValidation.Evaluation.Evaluate
import FormValidation.ProfileFile.Loader
import FormValidation.Report.Check
import FormValidation.Settings.Logging

/-!
# Running commands

The commands as scripts: settings are looked up, the profiles and the record are read, and what is to be printed comes
back as a text together with the failure, if there is one. `Program.run` is the whole program, from its arguments to
its exit code.
-/

set_option autoImplicit false

namespace FormValidation

/-! ## Settings -/

namespace Config

/-- The settings in the file at a path. -/
def readFile (path : String) : HostScript (Except CommandFault Config) := do
  if !(← HostScript.askExists path) then return .error (.fileNotFound path)
  match ← HostScript.askText path with
  | .error fault => return .error (.io fault)
  | .ok text =>
    match SettingsFormat.ofPath? path with
    | none => return .error (.invalidFormat path "YAML, JSON or TOML")
    | some format => return (Config.ofText format text).mapError .settings

/-- The settings in the first of several files that can be used; usual ones if there is none. -/
def readFirst : List String → HostScript Config
  | [] => return {}
  | path :: rest => do
    if ← HostScript.askExists path then
      match ← readFile path with
      | .ok config => return config
      | .error _ => readFirst rest
    else readFirst rest

/-- The settings at a path, or at the usual places if none is given. -/
def load (environment : Environment) (path : Option String) : HostScript (Except CommandFault Config) :=
  match path with
  | some path => readFile path
  | none => do return .ok (← readFirst environment.settingsPaths)

/-- The file of profiles that is named, or else the configured one. -/
def chooseProfilesFile (config : Config) (named : Option String) : Except CommandFault String :=
  match named.or config.profilesFile with
  | some path => .ok path
  | none => .error .noProfilesFile

/-- The name of the profile that is given, or else the configured one. -/
def chooseProfile (config : Config) (named : Option String) : Except CommandFault String :=
  match named.or config.defaultProfile with
  | some name => .ok name
  | none => .error .noProfileName

end Config

/-! ## Records -/

namespace Record

/-- The record that data stands for. -/
def ofData (data : Json) : Except CommandFault Record :=
  (Record.ofJson data).mapError fun fault => .profile (.invalidInput fault)

/-- The record in a JSON text. -/
def ofJsonText (text : String) : Except CommandFault Record :=
  match Json.parse text with
  | .error fault => .error (.recordJson fault)
  | .ok data => ofData data

/-- The record in a YAML text. -/
def ofYamlText (text : String) : Except CommandFault Record :=
  match Yaml.readRecordJson text with
  | .error fault => .error (.recordYaml fault)
  | .ok data => ofData data

/-- The record in a text that is JSON, or else YAML. -/
def ofText (text : String) : Except CommandFault Record :=
  match Json.parse text with
  | .error _ => ofYamlText text
  | .ok data => ofData data

/-- The record in the file at a path. -/
def readFile (path : String) : HostScript (Except CommandFault Record) := do
  if !(← HostScript.askExists path) then return .error (.fileNotFound path)
  match ← HostScript.askText path with
  | .error fault => return .error (.io fault)
  | .ok text =>
    match Path.extension? path with
    | some "yaml" => return ofYamlText text
    | some "yml" => return ofYamlText text
    | some "json" => return ofJsonText text
    | _ => return .error (.invalidFormat path "JSON or YAML")

/-- The record in the standard input. -/
def readInput : HostScript (Except CommandFault Record) := do
  match ← HostScript.askInput with
  | .error fault => return .error (.io fault)
  | .ok text => return ofText text

end Record

/-- The record to check: the query, or the file, or the standard input. -/
def CheckArguments.readRecord (arguments : CheckArguments) : HostScript (Except CommandFault Record) :=
  match arguments.query, arguments.input with
  | some query, _ => return .ok (Source.form (FormParams.ofQuery query)).toRecord
  | none, none => Record.readInput
  | none, some path => if path = "-" then Record.readInput else Record.readFile path

/-! ## Commands -/

/-- What a command prints, and its failure. -/
structure CommandResult where
  output : String := ""
  failure : Option CommandFault := none

/-- The result of a command that fails before it prints anything. -/
def CommandResult.failed (fault : CommandFault) : CommandResult := { failure := some fault }

/-- The report on a record, with messages if they are asked for or configured. -/
def CheckReport.make (registry : Registry) (config : Config) (messages : Bool) (name : String) (profile : Profile)
    (record : Record) : Except CommandFault CheckReport :=
  match (evaluate registry profile (.record record)).outcome with
  | .error fault => .error (.profile fault)
  | .ok results =>
    if messages || config.output.messages then
      let (results, texts) := results.messagesFor config.messages
      match texts with
      | .error fault => .error (.profile fault)
      | .ok texts => .ok (CheckReport.ofResults name results (some texts))
    else .ok (CheckReport.ofResults name results none)

/-- What is printed of a report; a record that is not accepted makes the command fail. -/
def CheckReport.result (style : OutputStyle) (config : Config) (report : CheckReport) : CommandResult where
  output := report.output style (!config.output.showSensitive)
  failure :=
    if report.success then none
    else some (.recordRejected report.results.missing.size report.results.invalid.size)

/-- Checks a record against a profile. -/
def runCheck (registry : Registry) (config : Config) (style : OutputStyle) (arguments : CheckArguments) :
    HostScript CommandResult := do
  match config.chooseProfilesFile arguments.profiles with
  | .error fault => return .failed fault
  | .ok path =>
    match config.chooseProfile arguments.profile with
    | .error fault => return .failed fault
    | .ok name =>
      match (← ProfileLoader.loadProfile {} path name).2 with
      | .error fault => return .failed (.load fault)
      | .ok profile =>
        match ← arguments.readRecord with
        | .error fault => return .failed fault
        | .ok record =>
          match CheckReport.make registry config arguments.messages name profile record with
          | .error fault => return .failed fault
          | .ok report => return report.result style config

/-- The headers of the list of profiles. -/
def ProfileSummary.headers : List String :=
  ["NAME", "REQUIRED", "OPTIONAL", "REQUIRE_SOME", "DEPENDENCIES", "CONSTRAINED", "REGEXP"]

/-- A row of the list of profiles. -/
def ProfileSummary.row (s : ProfileSummary) : List String :=
  s.name :: [s.required, s.optional, s.requireSome, s.dependencies, s.constrainedFields].map Number.natText ++
    [if s.hasPatternRules then "yes" else "no"]

/-- The list of the profiles of a set. -/
def ProfileSet.listing (style : OutputStyle) (path : String) (profiles : ProfileSet) : String :=
  if style.format == .human then
    style.info (Number.natText profiles.size ++ " profile(s) in " ++ path) ++
      style.table ProfileSummary.headers (profiles.summaries.map ProfileSummary.row)
  else style.data (.array (profiles.summaries.map ProfileSummary.toJson))

/-- Lists the profiles of a file. -/
def runProfiles (config : Config) (style : OutputStyle) (file : Option String) : HostScript CommandResult := do
  match config.chooseProfilesFile file with
  | .error fault => return .failed fault
  | .ok path =>
    match (← ProfileLoader.load {} path).2 with
    | .error fault => return .failed (.load fault)
    | .ok profiles => return { output := profiles.listing style path }

/-- Runs a command. -/
def Command.run (registry : Registry) (config : Config) (style : OutputStyle) : Command → HostScript CommandResult
  | check arguments => runCheck registry config style arguments
  | profiles file => runProfiles config style file

/-- The way in which an invocation writes its output. -/
def Invocation.style (invocation : Invocation) (config : Config) (terminal : Bool) : OutputStyle where
  format := invocation.outputFormat config.output.format
  color := terminal && !invocation.options.noColor
  quiet := invocation.options.quiet

/-! ## The program -/

/-- What a run of the program leaves behind. -/
structure ProgramResult where
  exitCode : Nat := 0
  output : String := ""
  errors : String := ""
  deriving DecidableEq, Repr

namespace Program

/-- How the program is used. -/
def usage : String :=
  "Usage: formcheck [OPTIONS] check [INPUT] [--profiles FILE] [--profile NAME] [--query QUERY] [--messages]\n" ++
  "       formcheck [OPTIONS] profiles [FILE]\n" ++
  "Options: -v, --verbose  -q, --quiet  -c, --config FILE  -o, --output human|json|yaml|json-pretty  --no-color\n"

/-- What is left behind when arguments are refused, or help is asked for. -/
def refuse (fault : ArgumentFault) : ProgramResult :=
  match fault with
  | .helpRequested => { output := usage }
  | .versionRequested => { output := "formcheck\n" }
  | other => { exitCode := 2, errors := "error: " ++ other.message ++ "\n\n" ++ usage }

/-- What is said about a failure. A rejection is not mentioned when the program is to be quiet. -/
def failureText (color quiet : Bool) (fault : CommandFault) : String :=
  (if quiet && fault.isRejection then "" else fault.report color ++ "\n") ++
    (if fault.isArgumentFault then "\nFor more information, try '--help'\n" else "")

/-- What is left behind by a command. -/
def finish (invocation : Invocation) (color : Bool) (notice : String) (result : CommandResult) : ProgramResult :=
  match result.failure with
  | none => { output := result.output, errors := notice }
  | some fault => {
      exitCode := fault.exitCode
      output := result.output
      errors := notice ++ failureText color invocation.options.quiet fault }

/-- Runs the program. Before a command is run, the settings of logs are made, which may be remarked on. -/
def run (registry : Registry) (environment : Environment) (terminal : Bool) (arguments : List String) :
    HostScript ProgramResult := do
  match Invocation.read environment arguments with
  | .error fault => return refuse fault
  | .ok invocation =>
    match ← Config.load environment invocation.options.config with
    | .error fault =>
      return finish invocation (terminal && !invocation.options.noColor) "" (.failed fault)
    | .ok config =>
      let style := invocation.style config terminal
      let result ← invocation.command.run registry config style
      return finish invocation style.color (LoggingSettings.environmentNotice environment) result

end Program

end FormValidation
