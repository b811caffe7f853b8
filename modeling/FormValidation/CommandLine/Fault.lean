import FormValidation.ProfileFile.Format
import FormValidation.Report.Output
import FormValidation.Settings.Config

/-!
# Failures of commands

Why a command fails, how that is reported, and with which code the program then exits. A record that is rejected is a
verdict on the data and no fault of its own.
-/

set_option autoImplicit false

namespace FormValidation

/-- A failure of a command. -/
inductive CommandFault where
  | recordRejected (missing invalid : Nat)
  | io (fault : FileFault)
  | profile (fault : Fault)
  | load (fault : LoadFault)
  | fileNotFound (path : String)
  | invalidFormat (path expected : String)
  | noProfilesFile
  | noProfileName
  | recordJson (fault : JsonFault)
  | recordYaml (fault : YamlFault)
  | settings (fault : SettingsFault)

namespace CommandFault

/-- The name under which a failure to read a format is reported. -/
def formatName : SettingsFormat → String
  | .json => "JSON"
  | .yaml => "YAML"
  | .toml => "TOML"

/-- The report of a failure. -/
def message : CommandFault → String
  | recordRejected missing invalid =>
    "Record rejected: " ++ Number.natText missing ++ " missing, " ++ Number.natText invalid ++ " invalid"
  | io fault => "IO error: " ++ fault.message
  | profile fault => "Profile error: " ++ fault.message
  | load fault => fault.message
  | fileNotFound path => "File not found: " ++ path
  | invalidFormat path expected => "Invalid file format for " ++ path ++ ": expected " ++ expected
  | noProfilesFile =>
    "Invalid arguments: no profile file given; pass --profiles or set profiles_file in the configuration"
  | noProfileName =>
    "Invalid arguments: no profile selected; pass --profile or set default_profile in the configuration"
  | recordJson fault => "JSON error: " ++ fault.message
  | recordYaml fault => "YAML error: " ++ fault.message
  | settings fault => formatName fault.format ++ " error: " ++ fault.message

/-- The exit code for a failure to read a format. -/
def formatExitCode : SettingsFormat → Nat
  | .json => 8
  | .yaml => 9
  | .toml => 10

/-- The code with which the program exits after a failure. -/
def exitCode : CommandFault → Nat
  | recordRejected _ _ => 1
  | io _ => 2
  | profile _ => 3
  | load _ => 4
  | fileNotFound _ => 5
  | invalidFormat _ _ => 6
  | noProfilesFile => 7
  | noProfileName => 7
  | recordJson _ => formatExitCode .json
  | recordYaml _ => formatExitCode .yaml
  | settings fault => formatExitCode fault.format

/-- Whether the failure is a verdict on the data. -/
def isRejection : CommandFault → Bool
  | recordRejected _ _ => true
  | _ => false

/-- Whether the failure comes from arguments that leave something open. -/
def isArgumentFault : CommandFault → Bool
  | noProfilesFile => true
  | noProfileName => true
  | _ => false

/-- The report of a failure as it is printed. -/
def report (color : Bool) (fault : CommandFault) : String :=
  (if color then Ink.bold.paint (Ink.red.paint "Error:") else "Error:") ++ " " ++ fault.message

end CommandFault

end FormValidation
