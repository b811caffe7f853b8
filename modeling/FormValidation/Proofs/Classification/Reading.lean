import FormValidation.Proofs.Resolution

/-!
# What a profile says about a record

A profile can be read without running it: for every field it says whether the field is required, known, missing, and
with what value it stands when constraints are checked. A `Reading` is a profile together with the registry that its
names refer to and the record that was submitted, and this file states what it says, field by field and without any
order of steps. That evaluation agrees with it is shown elsewhere.
-/

set_option autoImplicit false

namespace FormValidation

/-- That a dependency requires a field of its dependents, given the value of its trigger: fixed dependents always, those
under a key when the key is an element of the value, and computed ones as they are computed. -/
inductive Dependency.Requires (value : FieldValue) : Dependency → String → Prop
  | fields {names : List String} {field : String} (h : field ∈ names) : Requires value (.fields names) field
  | byValue {names : FieldMap (List String)} {key : String} {listed : List String} {field : String}
      (hkey : names.get? key = some listed) (helement : key ∈ value.elements) (h : field ∈ listed) :
      Requires value (.byValue names) field
  | computed {names : FieldValue → List String} {field : String} (h : field ∈ names value) :
      Requires value (.computed names) field

/-- A profile, the registry its names refer to, and the record that was submitted. -/
structure Reading where
  registry : Registry
  profile : Profile
  submitted : Record

namespace Reading

/-- The reading of a profile for an input, by the registry into which the packages of the profile were merged. -/
def of (registry : Registry) (profile : Profile) (input : Source) : Reading :=
  ⟨(registry.mergePackages profile.packages).1, profile, input.toRecord⟩

variable (r : Reading)

/-- The filters that are meant for a field: those for all fields, those for the field, and those for the patterns that
cover its name. -/
def filters (field : String) : List FilterSpec :=
  r.profile.filters ++ r.profile.fieldFilters.listAt field ++ declaredFor r.profile.patternFilters field

/-- The value of a submitted field after all filters. -/
def filtered? (field : String) : Option FieldValue :=
  (r.submitted.get? field).map fun value =>
    value.map fun text => (r.filters field).foldl (fun t spec => spec.run r.registry t) text

/-- The field was submitted, and filters left it a value that is neither the empty scalar nor the empty list. -/
def Stays (field : String) (value : FieldValue) : Prop :=
  r.filtered? field = some value ∧ value ≠ .scalar "" ∧ value ≠ .list []

/-- The field stays, and some element of it has content. -/
def Filled (field : String) (value : FieldValue) : Prop := r.Stays field value ∧ ∃ text ∈ value.elements, text ≠ ""

/-- The fields that are required: the declared ones, the submitted ones that the pattern for required fields covers,
the dependents of filled triggers, and the members of groups of which one is filled. -/
inductive Required : String → Prop
  | declared {field : String} (h : field ∈ r.profile.required) : Required field
  | pattern {p : FieldPattern} {field : String} (hpattern : r.profile.requiredPattern = some p)
      (hsubmitted : r.submitted.contains field) (h : p.covers field) : Required field
  | dependent {trigger : String} {dependency : Dependency} {value : FieldValue} {field : String}
      (hdependency : r.profile.dependencies.get? trigger = some dependency) (hfilled : r.Filled trigger value)
      (h : dependency.Requires value field) : Required field
  | grouped {group : String} {members : List String} {member : String} {value : FieldValue} {field : String}
      (hgroup : r.profile.dependencyGroups.get? group = some members) (hmember : member ∈ members)
      (hfilled : r.Filled member value) (h : field ∈ members) : Required field

/-- The fields that are optional: the declared ones, and the submitted ones that the pattern for optional fields
covers. -/
inductive Optional : String → Prop
  | declared {field : String} (h : field ∈ r.profile.optional) : Optional field
  | pattern {p : FieldPattern} {field : String} (hpattern : r.profile.optionalPattern = some p)
      (hsubmitted : r.submitted.contains field) (h : p.covers field) : Optional field

/-- The field is a member of a group of which a least number has to be present. -/
def Member (field : String) : Prop :=
  ∃ group spec, r.profile.requireSome.get? group = some spec ∧ field ∈ spec.members

/-- The field is required, optional, or a member of a group. -/
def Known (field : String) : Prop := r.Required field ∨ r.Optional field ∨ r.Member field

/-- The field stays and is not known. -/
def Unknown (field : String) : Prop := (∃ value, r.Stays field value) ∧ ¬ r.Known field

/-- The value with which a field stands when constraints are checked: the filtered one of a known field that stays, or
the default of a field that does not stay. -/
inductive Stands : String → FieldValue → Prop
  | submitted {field : String} {value : FieldValue} (hstays : r.Stays field value) (hknown : r.Known field) :
      Stands field value
  | default {field : String} {value : FieldValue} (hgone : ∀ v, ¬ r.Stays field v)
      (hdefault : r.profile.defaults.get? field = some value) : Stands field value

/-- The field stands with some value. -/
def Present (field : String) : Prop := ∃ value, r.Stands field value

open Classical in
/-- The name is that of a group of which too few members are present. -/
def Lacking (group : String) : Prop :=
  ∃ spec, r.profile.requireSome.get? group = some spec ∧
    (spec.members.filter fun member => decide (r.Present member)).length < spec.minimum

/-- The name is that of a required field that is not present, or of a group of which too few members are. -/
def Missing (name : String) : Prop := (r.Required name ∧ ¬ r.Present name) ∨ r.Lacking name

/-- The field was submitted and is optional, but neither present nor missing, and the profile asks for such fields. -/
def Backfilled (field : String) : Prop :=
  r.profile.missingOptionalValid ∧ r.submitted.contains field ∧ r.Optional field ∧ ¬ r.Present field ∧
    ¬ r.Missing field

/-- The field takes the texts that its constraints match: all fields do, or it is listed, or a pattern covers it. -/
def Untainted (field : String) : Prop :=
  r.profile.untaintAll ∨ field ∈ r.profile.untaintFields ∨ ∃ p ∈ r.profile.untaintPatterns, p.covers field

variable {r}

/-- An unknown field is not present: only known fields stand with what was submitted, and it is no default that stands,
for the field stays. -/
theorem not_present_of_unknown {field : String} (h : r.Unknown field) : ¬ r.Present field := by
  obtain ⟨⟨value, hstays⟩, hknown⟩ := h
  rintro ⟨other, hstands⟩
  cases hstands with
  | submitted _ hknown' => exact hknown hknown'
  | default hgone _ => exact hgone value hstays

/-- A missing name that is present or unknown as a field can only be the name of a group. -/
theorem lacking_of_missing {name : String} (h : r.Missing name) (hfield : r.Present name ∨ r.Unknown name) :
    r.Lacking name := by
  rcases h with ⟨hrequired, habsent⟩ | hlacking
  · rcases hfield with hpresent | hunknown
    · exact absurd hpresent habsent
    · exact absurd (Or.inl hrequired) hunknown.2
  · exact hlacking

end Reading

end FormValidation
