import FormValidation.Proofs.Classification.Comparison
import FormValidation.Proofs.Classification.Names

/-!
# Stray fields do not matter

A field that a profile does not mention is stray. It can be filtered, and constraints for a pattern may cover it, but it
is unknown, and nothing else of an evaluation depends on it: two records that agree on the mentioned fields have the same
valid, missing and invalid fields, or the same fault (`evaluate_ignores_stray`). The comparison goes through the
readings of the profile for the two records, which say the same about every field that is known.
-/

set_option autoImplicit false

namespace FormValidation

/-- The name is that of a field which the profile declares, requires under some condition, looks at for that, or gives a
default, or which one of its patterns for required and optional fields covers. -/
inductive Profile.Mentions (profile : Profile) : String → Prop
  | required {name : String} (h : name ∈ profile.required) : Mentions profile name
  | optional {name : String} (h : name ∈ profile.optional) : Mentions profile name
  | member {group : String} {spec : RequireSome} {name : String}
      (hgroup : profile.requireSome.get? group = some spec) (h : name ∈ spec.members) : Mentions profile name
  | trigger {name : String} (h : profile.dependencies.contains name) : Mentions profile name
  | dependent {trigger : String} {dependency : Dependency} {value : FieldValue} {name : String}
      (hdependency : profile.dependencies.get? trigger = some dependency) (h : dependency.Requires value name) :
      Mentions profile name
  | grouped {group : String} {members : List String} {name : String}
      (hgroup : profile.dependencyGroups.get? group = some members) (h : name ∈ members) : Mentions profile name
  | default {name : String} (h : profile.defaults.contains name) : Mentions profile name
  | requiredPattern {p : FieldPattern} {name : String} (hpattern : profile.requiredPattern = some p)
      (h : p.covers name) : Mentions profile name
  | optionalPattern {p : FieldPattern} {name : String} (hpattern : profile.optionalPattern = some p)
      (h : p.covers name) : Mentions profile name

namespace Reading

/-- The record has the same values as the submitted one in all fields that the profile mentions. -/
def AgreesOn (r : Reading) (fields : Record) : Prop :=
  ∀ name, r.profile.Mentions name → fields.get? name = r.submitted.get? name

variable {r : Reading} {fields : Record}

/-- Agreement on the mentioned fields is symmetric. -/
theorem AgreesOn.symm (h : r.AgreesOn fields) : (r.on fields).AgreesOn r.submitted :=
  fun name hname => (h name hname).symm

/-- Records that agree have the same mentioned fields. -/
theorem AgreesOn.contains (h : r.AgreesOn fields) {name : String} (hname : r.profile.Mentions name) :
    fields.contains name = r.submitted.contains name := by
  rw [FieldMap.contains, FieldMap.contains, h name hname]

/-- Of records that agree the same values of mentioned fields stay. -/
theorem AgreesOn.stays_iff (h : r.AgreesOn fields) {name : String} (hname : r.profile.Mentions name)
    (value : FieldValue) : (r.on fields).Stays name value ↔ r.Stays name value := by
  have hsame : (r.on fields).filtered? name = r.filtered? name := by
    have hvalue : (r.on fields).submitted.get? name = r.submitted.get? name := h name hname
    unfold filtered?
    rw [hvalue]
    rfl
  unfold Stays
  rw [hsame]

/-- A mentioned field that is filled in one record is filled in one that agrees with it. -/
theorem AgreesOn.filled (h : r.AgreesOn fields) {name : String} (hname : r.profile.Mentions name)
    {value : FieldValue} (hfilled : r.Filled name value) : (r.on fields).Filled name value :=
  ⟨(h.stays_iff hname value).2 hfilled.1, hfilled.2⟩

/-! ## Known fields are mentioned -/

/-- A required field is mentioned. -/
theorem Required.mentions {field : String} (h : r.Required field) : r.profile.Mentions field := by
  cases h with
  | declared hdeclared => exact .required hdeclared
  | pattern hpattern _ hcovers => exact .requiredPattern hpattern hcovers
  | dependent hdependency _ hrequires => exact .dependent hdependency hrequires
  | grouped hgroup _ _ hfield => exact .grouped hgroup hfield

/-- An optional field is mentioned. -/
theorem Optional.mentions {field : String} (h : r.Optional field) : r.profile.Mentions field := by
  cases h with
  | declared hdeclared => exact .optional hdeclared
  | pattern hpattern _ hcovers => exact .optionalPattern hpattern hcovers

/-- A known field is mentioned. -/
theorem Known.mentions {field : String} (h : r.Known field) : r.profile.Mentions field := by
  rcases h with hrequired | hoptional | ⟨group, spec, hgroup, hfield⟩
  · exact hrequired.mentions
  · exact hoptional.mentions
  · exact .member hgroup hfield

/-! ## The readings of two records that agree -/

/-- What makes a field required is mentioned, and so it is there in both records. -/
theorem Required.on {field : String} (hrequired : r.Required field) (h : r.AgreesOn fields) :
    (r.on fields).Required field := by
  have hmentions := hrequired.mentions
  cases hrequired with
  | declared hdeclared => exact .declared hdeclared
  | pattern hpattern hsubmitted hcovers =>
    refine .pattern hpattern ?_ hcovers
    rw [← h.contains hmentions] at hsubmitted
    exact hsubmitted
  | dependent hdependency hfilled hrequires =>
    exact .dependent hdependency (h.filled (.trigger (FieldMap.contains_of_get? hdependency)) hfilled) hrequires
  | grouped hgroup hmember hfilled hfield =>
    exact .grouped hgroup hmember (h.filled (.grouped hgroup hmember) hfilled) hfield

/-- What is optional for a record is so for one that agrees with it. -/
theorem Optional.on {field : String} (hoptional : r.Optional field) (h : r.AgreesOn fields) :
    (r.on fields).Optional field := by
  have hmentions := hoptional.mentions
  cases hoptional with
  | declared hdeclared => exact .declared hdeclared
  | pattern hpattern hsubmitted hcovers =>
    refine .pattern hpattern ?_ hcovers
    rw [← h.contains hmentions] at hsubmitted
    exact hsubmitted

/-- What is known for a record is so for one that agrees with it. -/
theorem Known.on {field : String} (hknown : r.Known field) (h : r.AgreesOn fields) : (r.on fields).Known field := by
  rcases hknown with hrequired | hoptional | hmember
  · exact Or.inl (hrequired.on h)
  · exact Or.inr (Or.inl (hoptional.on h))
  · exact Or.inr (Or.inr hmember)

/-- A field that stands is known or has a default, so it is mentioned and stands for both records. -/
theorem Stands.on {field : String} {value : FieldValue} (hstands : r.Stands field value) (h : r.AgreesOn fields) :
    (r.on fields).Stands field value := by
  cases hstands with
  | submitted hstays hknown => exact .submitted ((h.stays_iff hknown.mentions value).2 hstays) (hknown.on h)
  | default hgone hdefault =>
    have hmentions : r.profile.Mentions field := .default (FieldMap.contains_of_get? hdefault)
    refine .default (fun v hstays => ?_) hdefault
    exact hgone v ((h.stays_iff hmentions v).1 hstays)

/-- In records that agree the same values stand. -/
theorem AgreesOn.stands_iff (h : r.AgreesOn fields) (field : String) (value : FieldValue) :
    (r.on fields).Stands field value ↔ r.Stands field value :=
  ⟨fun hstands => hstands.on h.symm, fun hstands => hstands.on h⟩

/-- In records that agree the same fields are optional. -/
theorem AgreesOn.optional_iff (h : r.AgreesOn fields) (field : String) :
    (r.on fields).Optional field ↔ r.Optional field :=
  ⟨fun hoptional => hoptional.on h.symm, fun hoptional => hoptional.on h⟩

/-- In records that agree the same names are missing. -/
theorem AgreesOn.missing_iff (h : r.AgreesOn fields) (name : String) :
    (r.on fields).Missing name ↔ r.Missing name := by
  refine missing_congr (r := r) (r.on fields) rfl (fun field => ?_) (fun field => ?_) name
  · exact ⟨fun hrequired => hrequired.on h.symm, fun hrequired => hrequired.on h⟩
  · exact exists_congr fun value => h.stands_iff field value

/-- A mentioned field is unknown for both records or for none. -/
theorem AgreesOn.unknown_iff (h : r.AgreesOn fields) {name : String} (hname : r.profile.Mentions name) :
    (r.on fields).Unknown name ↔ r.Unknown name := by
  have hknown : (r.on fields).Known name ↔ r.Known name :=
    ⟨fun hknown => hknown.on h.symm, fun hknown => hknown.on h⟩
  unfold Unknown
  rw [hknown]
  exact and_congr_left' (exists_congr fun value => h.stays_iff hname value)

end Reading

/-! ## The evaluations of two records that agree -/

section Evaluations

variable {registry : Registry} {profile : Profile} {input input' : Source} {results results' : ValidationResults}
  {prep prep' : Preparation} {after after' : Progress}

/-- Evaluations of inputs that agree have the same missing names. -/
theorem Evaluated.missing_eq (h : Evaluated registry profile input results prep after)
    (h' : Evaluated registry profile input' results' prep' after')
    (hagrees : (Reading.of registry profile input).AgreesOn input'.toRecord) : results'.missing = results.missing := by
  refine NameSet.ext_contains fun name => ?_
  rw [h.missing_iff, h'.missing_iff]
  exact hagrees.missing_iff name

/-- Two evaluations that end with the same values find the same fields valid: a field that is put back is optional, so it
is mentioned and was submitted in both records. -/
theorem Evaluated.valid_eq (h : Evaluated registry profile input results prep after)
    (h' : Evaluated registry profile input' results' prep' after')
    (hagrees : (Reading.of registry profile input).AgreesOn input'.toRecord)
    (hworking : after'.working = after.working) (hinvalid : results'.invalid = results.invalid) :
    results'.valid = results.valid := by
  refine FieldMap.ext_get? fun field => ?_
  have hmissing : (Reading.of registry profile input').Missing field ↔
      (Reading.of registry profile input).Missing field := hagrees.missing_iff field
  have hoptional : (Reading.of registry profile input').Optional field ↔
      (Reading.of registry profile input).Optional field := hagrees.optional_iff field
  have hunclaimed := h.isUnclaimed_iff field
  have hunclaimed' := h'.isUnclaimed_iff field
  rw [hworking, hinvalid, hmissing, hoptional, ← hunclaimed] at hunclaimed'
  rw [h.get?_valid, h'.get?_valid, hworking, hinvalid]
  refine if_congr (and_congr_right fun _ => ?_) rfl rfl
  rw [hunclaimed']
  refine and_congr_left fun hclaim => ?_
  have hmentions := (hunclaimed.1 hclaim).2.2.2.mentions
  have hsubmitted : input'.toRecord.contains field = input.toRecord.contains field := hagrees.contains hmentions
  rw [hsubmitted]

end Evaluations

/-- Over the built-in registry, with a profile that was read from data, two records that agree on the fields which the
profile mentions are evaluated alike: with the same fault, or with the same valid, missing and invalid fields, and with
unknown fields that differ in stray names only. -/
theorem evaluate_ignores_stray {data : Json} {profile : Profile} (hread : Profile.ofJson data = .ok profile)
    {today : Date} {input input' : Source}
    (hagree : ∀ name, profile.Mentions name → input'.toRecord.get? name = input.toRecord.get? name) :
    ((evaluate (Registry.builtins today) profile input').outcome.map fun results =>
        (results.valid, results.missing, results.invalid)) =
      ((evaluate (Registry.builtins today) profile input).outcome.map fun results =>
        (results.valid, results.missing, results.invalid)) ∧
    ∀ results results', (evaluate (Registry.builtins today) profile input).outcome = .ok results →
      (evaluate (Registry.builtins today) profile input').outcome = .ok results' →
      ∀ name, profile.Mentions name → (results'.unknown.contains name ↔ results.unknown.contains name) := by
  have hagrees : (Reading.of (Registry.builtins today) profile input).AgreesOn input'.toRecord := hagree
  have hconfined : ∀ field, ∀ spec ∈ (Reading.of (Registry.builtins today) profile input).constraints field,
      spec.CallsOnly (Reading.of (Registry.builtins today) profile input).registry ConstraintFunction.Confined := by
    intro field
    rw [Reading.registry_builtins]
    refine Reading.forall_constraints_of_ofJson hread (fun _ => ConstraintSpec.CallsOnly.asMethod) ?_
    exact fun spec => ConstraintSpec.callsOnly_of_mem_constraintsFor fun _ _ => Registry.confined_of_builtins
  obtain ⟨hfaults, hresults⟩ := evaluate_of_sameStart rfl hconfined hagrees.stands_iff
  constructor
  · cases houtcome : (evaluate (Registry.builtins today) profile input).outcome with
    | error fault =>
      rw [hfaults fault houtcome]
    | ok results =>
      obtain ⟨results', prep, after, after', houtcome', h, h', hworking, hinvalid⟩ := hresults results houtcome
      have hmissing := h.missing_eq h' hagrees
      have hvalid := h.valid_eq h' hagrees hworking hinvalid
      rw [houtcome']
      simp only [Except.map, hvalid, hmissing, hinvalid]
  · intro results results' houtcome houtcome' name hname
    obtain ⟨prep, after, h⟩ := evaluated_of_ok houtcome
    obtain ⟨prep', after', h'⟩ := evaluated_of_ok houtcome'
    rw [h.unknown_iff, h'.unknown_iff]
    exact hagrees.unknown_iff hname

/-- Data whose constraint is for every field with an x in its name. -/
def boxData : Json := .object [
  ("required", .string "box"),
  ("optional_regexp", .string "/^opt/"),
  ("dependencies", .object [("lid", .array [.string "hinge"])]),
  ("constraint_regexp_map", .object [("/x/", .string "phone")])]

/-- The profile that is read from the data. -/
def boxProfile : Profile where
  required := ["box"]
  optionalPattern := some (.delimited "/^opt/")
  dependencies := FieldMap.ofList [("lid", .fields ["hinge"])]
  patternConstraints := [(.delimited "/x/", [.named "phone"])]

/-- A stray field next to a box number changes nothing. -/
theorem evaluate_ignores_stray_boxData :
    Profile.ofJson boxData = .ok boxProfile ∧ ¬ boxProfile.Mentions "extra" ∧
      ((evaluate (Registry.builtins ⟨2026, 1, 1⟩) boxProfile
          (.record (FieldMap.ofList [("box", .scalar "123 456"), ("extra", .list ["7"])]))).outcome.map fun results =>
            (results.valid, results.missing, results.invalid)) =
        ((evaluate (Registry.builtins ⟨2026, 1, 1⟩) boxProfile
          (.record (FieldMap.ofList [("box", .scalar "123 456")]))).outcome.map fun results =>
            (results.valid, results.missing, results.invalid)) := by
  have hread : Profile.ofJson boxData = .ok boxProfile := rfl
  have hstray : ¬ boxProfile.Mentions "extra" := by
    intro hmentions
    cases hmentions with
    | required h => simp [boxProfile] at h
    | optional h => simp [boxProfile] at h
    | member hgroup h => cases hgroup
    | trigger h => simp [boxProfile, FieldMap.contains_ofList] at h
    | dependent hdependency h =>
      have hmem := FieldMap.mem_of_get?_ofList hdependency
      simp only [List.mem_cons, Prod.mk.injEq, List.not_mem_nil, or_false] at hmem
      rw [hmem.2] at h
      cases h with
      | fields h => simp at h
    | grouped hgroup h => cases hgroup
    | default h => cases h
    | requiredPattern hpattern h => cases hpattern
    | optionalPattern hpattern h =>
      cases hpattern
      have hcovers : (FieldPattern.delimited "/^opt/").covers "extra" = false := by decide +kernel
      rw [hcovers] at h
      cases h
  refine ⟨hread, hstray, (evaluate_ignores_stray hread fun name hname => ?_).1⟩
  have hne : "extra" ≠ name := fun heq => hstray (heq ▸ hname)
  simp [Source.toRecord, FieldMap.ofList, FieldMap.get?_insert, hne]

end FormValidation
