import FormValidation.Profile.ConstraintReader

/-!
# Reading profiles

Profile data is an object of options. An option that does not exist is refused before anything else is looked at, and
then every option has to have its shape before constraints, groups and defaults are read.
-/

set_option autoImplicit false

namespace FormValidation.Profile

/-- The options that profile data may have. -/
def knownOptions : List String := [
  "constraint_method_regexp_map", "constraint_methods", "constraint_regexp_map", "constraints", "defaults",
  "dependencies", "dependency_groups", "field_filter_regexp_map", "field_filters", "filters",
  "missing_optional_valid", "msgs", "optional", "optional_regexp", "require_some", "required", "required_regexp",
  "untaint_all_constraints", "untaint_constraint_fields", "untaint_regexp_map", "validator_packages"]

/-! ## Shapes of options -/

/-- A list of texts. -/
def texts? : Json → Option (List String)
  | .array items => items.mapM Json.text?
  | _ => none

/-- One text or a list of texts. -/
def oneOrMany? : Json → Option (List String)
  | .string s => some [s]
  | other => texts? other

/-- The items of a list. -/
def items? : Json → Option (List Json)
  | .array items => some items
  | _ => none

/-- An object whose members all have a shape. -/
def mapOf? {α : Type} (read : Json → Option α) (value : Json) : Option (FieldMap α) :=
  value.members?.bind fun members =>
    (members.entries.mapM fun e => (read e.2).map fun x => (e.1, x)).map FieldMap.ofList

/-- A dependency: fields, or fields by value. -/
def dependency? (value : Json) : Option Dependency :=
  match oneOrMany? value with
  | some names => some (.fields names)
  | none => (mapOf? oneOrMany? value).map .byValue

/-- The value of an option by its shape, or its value when it is absent. -/
def option {α : Type} (options : FieldMap Json) (name : String) (absent : α) (read : Json → Option α) :
    Except Fault α :=
  match options.get? name with
  | none => .ok absent
  | some value =>
    match read value with
    | none => profileError (.wrongShape name)
    | some x => .ok x

/-- The value of an option that may also be null, which is as if it were absent. -/
def nullable {α : Type} (options : FieldMap Json) (name : String) (absent : α) (read : Json → Option α) :
    Except Fault α :=
  option options name absent fun
    | .null => some absent
    | value => read value

/-- An option that is one text or a list of texts. -/
def listOption (options : FieldMap Json) (name : String) : Except Fault (List String) :=
  nullable options name [] oneOrMany?

/-- An option that is a pattern. -/
def patternOption (options : FieldMap Json) (name : String) : Except Fault (Option FieldPattern) :=
  nullable options name none fun value => value.text?.map fun text => some (.delimited text)

/-- An option that is a flag. -/
def flagOption (options : FieldMap Json) (name : String) : Except Fault Bool :=
  nullable options name false readFlag?

/-- An option that is an object of members of one shape. -/
def mapOption {α : Type} (options : FieldMap Json) (name : String) (read : Json → Option α) :
    Except Fault (FieldMap α) :=
  option options name FieldMap.empty (mapOf? read)

/-! ## The whole profile -/

/-- Filters by name. -/
def namedFilters (names : List String) : List FilterSpec := names.map .named

/-- A map keyed by pattern texts as a list of patterns, in the order of the texts. -/
def byPattern {α : Type} (m : FieldMap α) : List (FieldPattern × α) :=
  m.entries.map fun e => (.delimited e.1, e.2)

/-- A group of which some members are required. -/
def readGroup (items : List Json) : Except Fault RequireSome := do
  return RequireSome.ofList (← items.mapM (readScalarText "require_some"))

/-- The defaults. -/
def readDefaults : Option Json → Except Fault Record
  | none => .ok FieldMap.empty
  | some value =>
    match Record.ofJson value with
    | .error fault => profileError (.badDefaults fault)
    | .ok fields => .ok fields

/-- The profile of an object all of whose options exist. -/
def ofOptions (options : FieldMap Json) : Except Fault Profile := do
  let required ← listOption options "required"
  let optional ← listOption options "optional"
  let requiredPattern ← patternOption options "required_regexp"
  let optionalPattern ← patternOption options "optional_regexp"
  let groups ← mapOption options "require_some" items?
  let dependencies ← mapOption options "dependencies" dependency?
  let dependencyGroups ← mapOption options "dependency_groups" texts?
  let defaults ← nullable options "defaults" none fun value => if value.isObject then some (some value) else none
  let filters ← listOption options "filters"
  let fieldFilters ← mapOption options "field_filters" oneOrMany?
  let patternFilters ← mapOption options "field_filter_regexp_map" oneOrMany?
  let constraints ← mapOption options "constraints" some
  let constraintMethods ← mapOption options "constraint_methods" some
  let patternConstraints ← mapOption options "constraint_regexp_map" some
  let patternMethods ← mapOption options "constraint_method_regexp_map" some
  let untaintAll ← flagOption options "untaint_all_constraints"
  let untaintFields ← listOption options "untaint_constraint_fields"
  let untaintPatterns ← listOption options "untaint_regexp_map"
  let missingOptionalValid ← flagOption options "missing_optional_valid"
  let packages ← listOption options "validator_packages"
  let messages ← option options "msgs" MessageConfig.empty MessageConfig.ofJson
  let constraints ← constraints.mapE fun _ value => ConstraintSpec.listOfJson value
  let constraintMethods ← constraintMethods.mapE fun _ value => ConstraintSpec.methodsOfJson value
  let patternConstraints ← patternConstraints.mapE fun _ value => ConstraintSpec.listOfJson value
  let patternMethods ← patternMethods.mapE fun _ value => ConstraintSpec.methodsOfJson value
  let requireSome ← groups.mapE fun _ items => readGroup items
  let defaults ← readDefaults defaults
  return {
    required, optional, requiredPattern, optionalPattern, requireSome, dependencies, dependencyGroups, defaults
    filters := namedFilters filters
    fieldFilters := fieldFilters.map namedFilters
    patternFilters := byPattern (patternFilters.map namedFilters)
    constraints := constraints.extendAll constraintMethods
    patternConstraints := byPattern patternConstraints ++ byPattern patternMethods
    untaintAll, untaintFields
    untaintPatterns := untaintPatterns.map .delimited
    missingOptionalValid, packages, messages }

/-- The profile that a JSON value stands for. -/
def ofJson (value : Json) : Except Fault Profile :=
  match value.members? with
  | none => profileError .notMapping
  | some options =>
    match options.keys.find? (fun key => !knownOptions.contains key) with
    | some key => .error (.unknownOption key)
    | none => ofOptions options

/-- The profile that a JSON text stands for. -/
def ofText (text : String) : Except Fault Profile :=
  match Json.parse text with
  | .error fault => .error (.json fault)
  | .ok value => ofJson value

end FormValidation.Profile
