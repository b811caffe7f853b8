import FormValidation.Profile.Basic

/-!
# Building profiles

A profile is built in steps from the empty one. Unlike profile data, steps can bring in functions: filters,
constraints, and dependencies computed from a value.
-/

set_option autoImplicit false

namespace FormValidation.Profile

/-- Adds required fields. -/
def addRequired (p : Profile) (fields : List String) : Profile := { p with required := p.required ++ fields }

/-- Adds optional fields. -/
def addOptional (p : Profile) (fields : List String) : Profile := { p with optional := p.optional ++ fields }

/-- Requires every submitted field that a pattern matches. -/
def requireMatching (p : Profile) (pattern : FieldPattern) : Profile := { p with requiredPattern := some pattern }

/-- Accepts every submitted field that a pattern matches as optional. -/
def acceptMatching (p : Profile) (pattern : FieldPattern) : Profile := { p with optionalPattern := some pattern }

/-- Requires a least number of the members of a group. -/
def addRequireSome (p : Profile) (group : String) (minimum : Nat) (members : List String) : Profile :=
  { p with requireSome := p.requireSome.insert group ⟨minimum, members⟩ }

/-- Requires fields whenever another one is present. -/
def addDependency (p : Profile) (trigger : String) (fields : List String) : Profile :=
  { p with dependencies := p.dependencies.insert trigger (.fields fields) }

/-- A dependency by value with further fields under a value; a dependency of another kind is replaced. -/
def extendByValue (value : String) (fields : List String) : Option Dependency → Dependency
  | some (.byValue names) => .byValue (names.extendAt value fields)
  | _ => .byValue (FieldMap.empty.insert value fields)

/-- Requires fields when another one has a value. -/
def addDependencyOnValue (p : Profile) (trigger value : String) (fields : List String) : Profile :=
  { p with dependencies := p.dependencies.update trigger (extendByValue value fields) }

/-- Requires the fields computed from the value of another one. -/
def addComputedDependency (p : Profile) (trigger : String) (names : FieldValue → List String) : Profile :=
  { p with dependencies := p.dependencies.insert trigger (.computed names) }

/-- Requires all members of a group when one of them is present. -/
def addDependencyGroup (p : Profile) (group : String) (members : List String) : Profile :=
  { p with dependencyGroups := p.dependencyGroups.insert group members }

/-- Gives a field a value for when it is absent. -/
def addDefault (p : Profile) (field : String) (value : FieldValue) : Profile :=
  { p with defaults := p.defaults.insert field value }

/-- Adds a filter for every field. -/
def addFilter (p : Profile) (filter : FilterSpec) : Profile := { p with filters := p.filters ++ [filter] }

/-- Adds a filter for one field. -/
def addFieldFilter (p : Profile) (field : String) (filter : FilterSpec) : Profile :=
  { p with fieldFilters := p.fieldFilters.extendAt field [filter] }

/-- Adds a filter for every field that a pattern matches. -/
def addPatternFilter (p : Profile) (pattern : FieldPattern) (filter : FilterSpec) : Profile :=
  { p with patternFilters := p.patternFilters ++ [(pattern, [filter])] }

/-- Adds a constraint to a field. -/
def addConstraint (p : Profile) (field : String) (spec : ConstraintSpec) : Profile :=
  { p with constraints := p.constraints.extendAt field [spec] }

/-- Adds a constraint flagged as a method to a field. -/
def addConstraintMethod (p : Profile) (field : String) (spec : ConstraintSpec) : Profile :=
  p.addConstraint field spec.asMethod

/-- Adds a constraint to every field that a pattern matches. -/
def addPatternConstraint (p : Profile) (pattern : FieldPattern) (spec : ConstraintSpec) : Profile :=
  { p with patternConstraints := p.patternConstraints ++ [(pattern, [spec])] }

/-- Untaints every constrained field. -/
def untaintEverything (p : Profile) : Profile := { p with untaintAll := true }

/-- Untaints the listed fields. -/
def addUntaintFields (p : Profile) (fields : List String) : Profile :=
  { p with untaintFields := p.untaintFields ++ fields }

/-- Untaints every field that a pattern matches. -/
def addUntaintPattern (p : Profile) (pattern : FieldPattern) : Profile :=
  { p with untaintPatterns := p.untaintPatterns ++ [pattern] }

/-- Reports optional fields that were submitted empty as valid. -/
def acceptEmptyOptional (p : Profile) : Profile := { p with missingOptionalValid := true }

/-- Merges a registered package before evaluation. -/
def addPackage (p : Profile) (name : String) : Profile := { p with packages := p.packages ++ [name] }

/-- Sets the message configuration. -/
def withMessages (p : Profile) (messages : MessageConfig) : Profile := { p with messages := messages }

end FormValidation.Profile
