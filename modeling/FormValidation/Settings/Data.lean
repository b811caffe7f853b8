import FormValidation.Json.Reader
import FormValidation.Message.Config
import FormValidation.Toml.Reader
import FormValidation.Yaml.Reader

/-!
# Data of settings

Settings are written in JSON, YAML or TOML, and read alike from each of them. What differs is how a single value is
understood: a plain scalar of YAML can be taken for a text, for a truth value or for nothing, whichever is asked for,
while in JSON and TOML a value says itself what it is.
-/

set_option autoImplicit false

namespace FormValidation

/-- Data of a file of settings. The entries of a map stand as they are written. -/
inductive SettingsData where
  | nothing
  | text (s : String)
  | plain (s : String)
  | truth (b : Bool)
  | other
  | list (items : List SettingsData)
  | map (entries : List (String × SettingsData))

namespace SettingsData

mutual

/-- JSON data. -/
def ofJson : Json → SettingsData
  | .null => nothing
  | .bool b => truth b
  | .number _ => other
  | .string s => text s
  | .array items => list (ofJsonItems items)
  | .object members => map (ofJsonMembers members)

/-- Items of an array. -/
def ofJsonItems : List Json → List SettingsData
  | [] => []
  | item :: rest => ofJson item :: ofJsonItems rest

/-- Members of an object. -/
def ofJsonMembers : List (String × Json) → List (String × SettingsData)
  | [] => []
  | (name, value) :: rest => (name, ofJson value) :: ofJsonMembers rest

end

mutual

/-- TOML data. -/
def ofToml : Toml → SettingsData
  | .text s => text s
  | .truth b => truth b
  | .integer _ => other
  | .float _ => other
  | .date _ => other
  | .array items => list (ofTomlItems items)
  | .table entries => map (ofTomlEntries entries)

/-- Items of an array. -/
def ofTomlItems : List Toml → List SettingsData
  | [] => []
  | item :: rest => ofToml item :: ofTomlItems rest

/-- Entries of a table. -/
def ofTomlEntries : List (String × Toml) → List (String × SettingsData)
  | [] => []
  | (key, value) :: rest => (key, ofToml value) :: ofTomlEntries rest

end

/-- Whether all keys of entries are scalars. -/
def haveScalarKeys : List (Yaml × Yaml) → Bool
  | [] => true
  | (.scalar _ _, _) :: rest => haveScalarKeys rest
  | _ => false

mutual

/-- YAML data; a map with a key that is no scalar holds no settings. -/
def ofYaml : Yaml → SettingsData
  | .scalar isPlain s => if isPlain then plain s else text s
  | .list items => list (ofYamlItems items)
  | .map entries => if haveScalarKeys entries then map (ofYamlEntries entries) else other

/-- Items of a list. -/
def ofYamlItems : List Yaml → List SettingsData
  | [] => []
  | item :: rest => ofYaml item :: ofYamlItems rest

/-- Entries of a map. -/
def ofYamlEntries : List (Yaml × Yaml) → List (String × SettingsData)
  | [] => []
  | (.scalar _ key, value) :: rest => (key, ofYaml value) :: ofYamlEntries rest
  | _ :: rest => ofYamlEntries rest

end

/-! ## What is asked for -/

/-- Whether a plain scalar stands for nothing. -/
def standsForNothing (s : String) : Bool :=
  match Yaml.plainValue s with
  | .nothing => true
  | _ => false

/-- A text. -/
def text? : SettingsData → Option String
  | text s => some s
  | plain s => some s
  | _ => none

/-- A value that may be left open. -/
def optional {α : Type} (read : SettingsData → Option α) (data : SettingsData) : Option (Option α) :=
  match data with
  | nothing => some none
  | plain s => if standsForNothing s then some none else (read data).map some
  | _ => (read data).map some

/-- A truth value. -/
def truth? : SettingsData → Option Bool
  | truth b => some b
  | plain s =>
    match Yaml.plainValue s with
    | .truth b => some b
    | _ => none
  | _ => none

/-- The settings of a section by their names, given all names it knows. A section is written as a map, in which no
known name may stand twice, or as a list of its first values in the order of the names. -/
def settings? (names : List String) (strict : Bool) : SettingsData → Option (FieldMap SettingsData)
  | map entries =>
    let known := entries.filter fun e => names.contains e.1
    if strict && known.length != entries.length then none
    else if (known.map (·.1)).Nodup then some (FieldMap.ofList known)
    else none
  | list items => if items.length ≤ names.length then some (FieldMap.ofList (names.zip items)) else none
  | plain s => if s.isEmpty then some FieldMap.empty else none
  | _ => none

/-- The value of a setting; one that is not made keeps its usual value. -/
def setting {α : Type} (settings : FieldMap SettingsData) (name : String) (usual : α)
    (read : SettingsData → Option α) : Option α :=
  match settings.get? name with
  | none => some usual
  | some data => read data

/-- A map from names to texts. -/
def texts? : SettingsData → Option (FieldMap String)
  | map entries => do
    let texts ← entries.mapM fun e => e.2.text?.map fun text => (e.1, text)
    return FieldMap.ofList texts
  | plain s => if s.isEmpty then some FieldMap.empty else none
  | _ => none

/-- A message configuration; it has no other settings than its own. -/
def messages? (data : SettingsData) : Option MessageConfig := do
  let settings ← data.settings? MessageConfig.settingNames true
  let text := fun (name : String) => setting settings name none (optional text?)
  let keyPrefix ← text "prefix"
  let missing ← text "missing"
  let invalid ← text "invalid"
  let invalidSeparator ← text "invalid_separator"
  let format ← text "format"
  let constraints ← setting settings "constraints" FieldMap.empty texts?
  let anyErrors ← text "any_errors"
  return { keyPrefix, missing, invalid, invalidSeparator, format, constraints, anyErrors }

end SettingsData

end FormValidation
