import FormValidation.Profile.Basic

/-!
# Describing profiles

What a profile declares, as data. Filters and dependencies that are functions can only be named as such; everything
else is described in full, whichever way the profile was made.
-/

set_option autoImplicit false

namespace FormValidation

/-- A text that may be left out, as data. -/
def Json.ofText? : Option String → Json
  | none => .null
  | some text => .string text

/-- A filter as data. -/
def FilterSpec.describe : FilterSpec → Json
  | named name => .object [("named", .string name)]
  | function _ => .string "func"

/-- A param as data. -/
def Param.describe : Param → Json
  | field name => .object [("field", .string name)]
  | literal text => .object [("literal", .string text)]

/-- A constraint as data. -/
def ConstraintSpec.describe (spec : ConstraintSpec) : Json :=
  let plain := fun (kind : String) (text : Json) =>
    [("type", Json.string kind), ("declared_name", .string spec.declaredName), ("text", text)]
  match spec with
  | named name => .object (plain "named" (.string name))
  | pattern p => .object (plain "pattern" (.string p.source))
  | callable name function =>
    .object (plain "callable" (Json.ofText? name) ++ [("takes_context", .bool function.isMethod)])
  | structured inner name params isMethod =>
    .object [
      ("type", .string "structured"),
      ("declared_name", .string spec.declaredName),
      ("constraint", inner.describe),
      ("name", Json.ofText? name),
      ("is_method", (isMethod.map Json.bool).getD .null),
      ("params", (params.map fun list => Json.array (list.map Param.describe)).getD .null)]

/-- A dependency as data. -/
def Dependency.describe : Dependency → Json
  | fields names => .object [("fields", .ofTexts names)]
  | byValue names => .object [("by_value", .ofMap .ofTexts names)]
  | computed _ => .string "computed"

/-- A group of fields as data; the least number is a text, because it can be larger than other readers can hold. -/
def RequireSome.describe (group : RequireSome) : Json :=
  .object [("minimum", .string (Number.natText group.minimum)), ("members", .ofTexts group.members)]

/-- What is declared for the names that patterns match, as data. -/
def describeByPattern {α : Type} (describe : α → Json) (rules : List (FieldPattern × List α)) : Json :=
  .array (rules.map fun rule => .array [.string rule.1.source, .array (rule.2.map describe)])

/-- A profile as data. -/
def Profile.describe (p : Profile) : Json :=
  .object [
    ("required", .ofTexts p.required),
    ("optional", .ofTexts p.optional),
    ("required_regexp", Json.ofText? (p.requiredPattern.map FieldPattern.source)),
    ("optional_regexp", Json.ofText? (p.optionalPattern.map FieldPattern.source)),
    ("require_some", .ofMap RequireSome.describe p.requireSome),
    ("dependencies", .ofMap Dependency.describe p.dependencies),
    ("dependency_groups", .ofMap .ofTexts p.dependencyGroups),
    ("defaults", p.defaults.toJson),
    ("filters", .array (p.filters.map FilterSpec.describe)),
    ("field_filters", .ofMap (fun list => .array (list.map FilterSpec.describe)) p.fieldFilters),
    ("field_filter_regexp_map", describeByPattern FilterSpec.describe p.patternFilters),
    ("constraints", .ofMap (fun list => .array (list.map ConstraintSpec.describe)) p.constraints),
    ("constraint_regexp_map", describeByPattern ConstraintSpec.describe p.patternConstraints),
    ("untaint_all_constraints", .bool p.untaintAll),
    ("untaint_constraint_fields", .ofTexts p.untaintFields),
    ("untaint_regexp_map", .ofTexts (p.untaintPatterns.map FieldPattern.source)),
    ("missing_optional_valid", .bool p.missingOptionalValid),
    ("validator_packages", .ofTexts p.packages),
    ("msgs", p.messages.toJson)]

end FormValidation
