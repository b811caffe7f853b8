import FormValidation.Message.Format

/-!
# Message configurations

The settings that turn a classification into messages. Every setting may be left open; what is open falls back to a
default when messages are made. Configurations are laid over one another, the later setting counting, so a profile's
settings can be refined call by call.
-/

set_option autoImplicit false

namespace FormValidation

/-- Settings for messages: the text put before every field name in the output keys, the texts for missing and invalid
fields, the text between several failures, the format around a message, a text for each constraint name, and the key
that is set when anything is reported. -/
structure MessageConfig where
  keyPrefix : Option String := none
  missing : Option String := none
  invalid : Option String := none
  invalidSeparator : Option String := none
  format : Option String := none
  constraints : FieldMap String := FieldMap.empty
  anyErrors : Option String := none
  deriving DecidableEq

namespace MessageConfig

/-- The configuration in which everything is open. -/
def empty : MessageConfig := {}

instance : Inhabited MessageConfig := ⟨empty⟩

/-- The later of two settings, if it is made. -/
def later (first second : Option String) : Option String := second.or first

/-- The configuration with another one laid over it. -/
def merge (a b : MessageConfig) : MessageConfig where
  keyPrefix := later a.keyPrefix b.keyPrefix
  missing := later a.missing b.missing
  invalid := later a.invalid b.invalid
  invalidSeparator := later a.invalidSeparator b.invalidSeparator
  format := later a.format b.format
  constraints := a.constraints.overlay b.constraints
  anyErrors := later a.anyErrors b.anyErrors

/-- The configuration with a text for a constraint name. -/
def withConstraint (c : MessageConfig) (name text : String) : MessageConfig :=
  { c with constraints := c.constraints.insert name text }

/-- The configuration with a format. -/
def withFormat (c : MessageConfig) (format : String) : MessageConfig := { c with format := some format }

/-- The configuration with the key that is set when anything is reported. -/
def withAnyErrors (c : MessageConfig) (key : String) : MessageConfig := { c with anyErrors := some key }

/-- The configuration with a text put before the output keys. -/
def withKeyPrefix (c : MessageConfig) (text : String) : MessageConfig := { c with keyPrefix := some text }

/-- The names of the settings in data, in their declared order. -/
def settingNames : List String :=
  ["prefix", "missing", "invalid", "invalid_separator", "format", "constraints", "any_errors"]

/-- A setting that is a text or left open. -/
def readSetting : Option Json → Option (Option String)
  | none => some none
  | some .null => some none
  | some (.string s) => some (some s)
  | some _ => none

/-- The texts for constraint names. -/
def readConstraints : Option Json → Option (FieldMap String)
  | none => some FieldMap.empty
  | some value => do
    let members ← value.members?
    let entries ← members.entries.mapM fun e => e.2.text?.map fun text => (e.1, text)
    some (FieldMap.ofList entries)

/-- The configuration whose settings a function gives by name. -/
def readSettings (setting : String → Option Json) : Option MessageConfig := do
  let keyPrefix ← readSetting (setting "prefix")
  let missing ← readSetting (setting "missing")
  let invalid ← readSetting (setting "invalid")
  let invalidSeparator ← readSetting (setting "invalid_separator")
  let format ← readSetting (setting "format")
  let constraints ← readConstraints (setting "constraints")
  let anyErrors ← readSetting (setting "any_errors")
  some { keyPrefix, missing, invalid, invalidSeparator, format, constraints, anyErrors }

/-- The configuration that a JSON value stands for: an object without other members than the settings, or a list of
the settings in their declared order, the last ones left out at will. -/
def ofJson : Json → Option MessageConfig
  | .object members =>
    let settings := FieldMap.ofList members
    if settings.keys.all (fun key => settingNames.contains key) then readSettings settings.get? else none
  | .array items =>
    if items.length ≤ settingNames.length then
      readSettings (FieldMap.ofList (settingNames.zip items)).get?
    else none
  | _ => none

/-- The member for a text that is set. -/
def writeSetting (name : String) : Option String → List (String × Json)
  | none => []
  | some text => [(name, .string text)]

/-- The configuration as a JSON object that has only the settings that are made. -/
def toJson (c : MessageConfig) : Json :=
  .object (
    writeSetting "prefix" c.keyPrefix ++ writeSetting "missing" c.missing ++ writeSetting "invalid" c.invalid ++
    writeSetting "invalid_separator" c.invalidSeparator ++ writeSetting "format" c.format ++
    (if c.constraints.isEmpty then [] else [("constraints", .ofMap .string c.constraints)]) ++
    writeSetting "any_errors" c.anyErrors)

end MessageConfig

end FormValidation
