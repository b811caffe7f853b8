import FormValidation.Fault
import FormValidation.Host.Path
import FormValidation.Host.Script
import FormValidation.Text.Case
import FormValidation.Yaml.ToJson

/-!
# The formats of profile files

A profile file is YAML or JSON, told by the extension of its name, and maps names to profile definitions. Whatever is
wrong with a file, or with what it declares, is a `LoadFault`, which always says what path it is about.
-/

set_option autoImplicit false

namespace FormValidation

/-- Why the profiles of a file cannot be had. -/
inductive LoadFault where
  | unreadable (path : String) (fault : FileFault)
  | badYaml (path : String) (fault : YamlFault)
  | badJson (path : String) (fault : JsonFault)
  | keyWithoutName (path : String)
  | unsupportedFormat (path : String)
  | profileNotFound (name path : String)
  | invalidProfile (name path : String) (fault : Fault)
  | notMapping (path : String)
  | definitionNotMapping (name path : String)

namespace LoadFault

/-- The path that the fault is about. -/
def path : LoadFault → String
  | unreadable path _ => path
  | badYaml path _ => path
  | badJson path _ => path
  | keyWithoutName path => path
  | unsupportedFormat path => path
  | profileNotFound _ path => path
  | invalidProfile _ path _ => path
  | notMapping path => path
  | definitionNotMapping _ path => path

/-- Whether the file was read and well-formed, so that the fault lies in what it says. -/
def isContentFault : LoadFault → Bool
  | profileNotFound _ _ => true
  | invalidProfile _ _ _ => true
  | notMapping _ => true
  | definitionNotMapping _ _ => true
  | _ => false

/-- The report of a fault. -/
def message : LoadFault → String
  | unreadable path fault => "Failed to read file '" ++ path ++ "': " ++ fault.message
  | badYaml path fault => "Failed to parse YAML file '" ++ path ++ "': " ++ fault.message
  | badJson path fault => "Failed to parse JSON file '" ++ path ++ "': " ++ fault.message
  | keyWithoutName path => "Failed to parse JSON file '" ++ path ++ "': key must be a string"
  | unsupportedFormat path => "Unsupported file format for '" ++ path ++ "'. Expected .yaml, .yml, or .json"
  | profileNotFound name path => "Profile '" ++ name ++ "' not found in '" ++ path ++ "'"
  | invalidProfile name path fault => "Invalid profile '" ++ name ++ "' in '" ++ path ++ "': " ++ fault.message
  | notMapping path =>
    "Validation failed for '" ++ path ++ "': Profile file must map profile names to profile definitions"
  | definitionNotMapping name path =>
    "Validation failed for '" ++ path ++ "': Profile '" ++ name ++ "' must be a mapping of profile options"

end LoadFault

/-- A format of profile files. -/
inductive ProfileFormat where
  | yaml
  | json
  deriving DecidableEq, Repr

namespace ProfileFormat

/-- The format that the extension of a path stands for, in upper or lower case. -/
def ofPath (path : String) : Except LoadFault ProfileFormat :=
  match (Path.extension? path).map Text.lowerString with
  | some "yaml" => .ok yaml
  | some "yml" => .ok yaml
  | some "json" => .ok json
  | _ => .error (.unsupportedFormat path)

/-- The usual extension of a format. -/
def extension : ProfileFormat → String
  | yaml => "yaml"
  | json => "json"

/-- The data of a text in a format. -/
def readData (format : ProfileFormat) (path text : String) : Except LoadFault Json :=
  match format with
  | json =>
    match Json.parse text with
    | .error fault => .error (.badJson path fault)
    | .ok data => .ok data
  | yaml =>
    match Yaml.readResolved text with
    | .error fault => .error (.badYaml path fault)
    | .ok document =>
      match document.toJson? with
      | none => .error (.keyWithoutName path)
      | some data => .ok data

/-- The definitions that data maps names to; each has to be a mapping itself. -/
def definitionsOf (path : String) (data : Json) : Except LoadFault (FieldMap Json) :=
  match data.members? with
  | none => .error (.notMapping path)
  | some definitions =>
    match definitions.entries.find? (fun e => !e.2.isObject) with
    | some (name, _) => .error (.definitionNotMapping name path)
    | none => .ok definitions

/-- The definitions in a text of a format. -/
def readDefinitions (format : ProfileFormat) (path text : String) : Except LoadFault (FieldMap Json) :=
  match format.readData path text with
  | .error fault => .error fault
  | .ok data => definitionsOf path data

end ProfileFormat

end FormValidation
