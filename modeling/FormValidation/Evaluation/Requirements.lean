import FormValidation.Profile.Basic

/-!
# Requirements

Which fields a profile knows, which of them are required, and which are missing. Names that patterns match are looked
for among the submitted fields before empty values are dropped; dependencies look at what is left afterwards; missing
fields are computed last, when defaults have been put in.
-/

set_option autoImplicit false

namespace FormValidation

/-- The fields that are required, those that are optional, and the members of groups. -/
structure Requirements where
  required : NameSet
  optional : NameSet
  members : NameSet

namespace Requirements

/-- The names that a pattern matches, none without a pattern. -/
def matching (pattern : Option Regex) (names : List String) : List String :=
  match pattern with
  | none => []
  | some regex => regex.matchingNames names

/-- The declared fields, and the submitted ones that patterns match. -/
def declare (profile : Profile) (requiredPattern optionalPattern : Option Regex) (fields : Record) :
    Requirements where
  required := (NameSet.ofList profile.required).addAll (matching requiredPattern fields.keys)
  optional := (NameSet.ofList profile.optional).addAll (matching optionalPattern fields.keys)
  members := NameSet.ofList (profile.requireSome.values.flatMap fun group => group.members)

/-- Whether a field is declared in some way. -/
def isKnown (r : Requirements) (field : String) : Bool :=
  r.required.contains field || r.optional.contains field || r.members.contains field

/-- Whether a field is present with some content. -/
def hasContent (fields : Record) (field : String) : Bool := (fields.get? field).any fun value => !value.isEmpty

/-- The fields that a dependency requires, given what is present. -/
def dependents (fields : Record) (trigger : String) (dependency : Dependency) : List String :=
  match fields.get? trigger with
  | none => []
  | some value => if value.isEmpty then [] else dependency.triggeredBy value

/-- The members of a group of which one is present. -/
def touchedGroup (fields : Record) (members : List String) : List String :=
  if members.any (hasContent fields) then members else []

/-- The requirements with the fields that dependencies and touched groups require. -/
def addDependencies (profile : Profile) (fields : Record) (r : Requirements) : Requirements :=
  let byTrigger := profile.dependencies.entries.flatMap fun e => dependents fields e.1 e.2
  let byGroup := profile.dependencyGroups.values.flatMap (touchedGroup fields)
  { r with required := (r.required.addAll byTrigger).addAll byGroup }

end Requirements

namespace Record

/-- The fields without empty scalars and lists without elements. -/
def stripEmpty (fields : Record) : Record := fields.filter fun _ value => !value.isStripped

/-- The fields that are known. -/
def known (r : Requirements) (fields : Record) : Record := fields.filter fun name _ => r.isKnown name

/-- The names of the fields that are not known. -/
def unknown (r : Requirements) (fields : Record) : NameSet :=
  NameSet.ofList (fields.keys.filter fun name => !r.isKnown name)

/-- The fields with defaults put in for those that are absent and not unknown. -/
def withDefaults (fields defaults : Record) (unknown : NameSet) : Record :=
  defaults.entries.foldl (fun acc e =>
    if acc.contains e.1 || unknown.contains e.1 then acc else acc.insert e.1 e.2) fields

end Record

namespace Requirements

/-- Whether too few members of a group are present. -/
def lacks (fields : Record) (group : RequireSome) : Bool :=
  (group.members.filter fields.contains).length < group.minimum

/-- The required fields that are absent, and the names of the groups of which too few members are present. -/
def missing (profile : Profile) (r : Requirements) (fields : Record) : NameSet :=
  (NameSet.ofList (r.required.keys.filter fun name => !fields.contains name)).addAll
    ((profile.requireSome.filter fun _ group => lacks fields group).keys)

end Requirements

end FormValidation
