import FormValidation.Proofs.Checking.Attachment
import FormValidation.Proofs.Checking.Confinement
import FormValidation.Proofs.Checking.Rejections
import FormValidation.Proofs.Checking.Separation
import FormValidation.Proofs.Classification.Agreement

/-!
# The four classes of an evaluation

An evaluation that comes to an end puts names into four classes: valid, missing, invalid, and unknown. What each class
holds is said here in terms of the reading of the profile. Where no constraint writes, the classes and the valid values
are determined by the reading and by the rejections. Whatever constraints write, the classes do not overlap, but for the
name of a group that is also the name of a field.
-/

set_option autoImplicit false

namespace FormValidation

/-! ## How an evaluation comes to its results -/

/-- The state of an evaluation before constraints are checked. -/
def Preparation.before (prep : Preparation) (profile : Profile) (input : Source) : Classification :=
  prep.classify profile input.toRecord

/-- The steps by which an evaluation comes to its results: the profile is resolved, the constraints are checked from
the classified fields on, and the valid fields are filled up. -/
structure Evaluated (registry : Registry) (profile : Profile) (input : Source) (results : ValidationResults)
    (prep : Preparation) (after : Progress) : Prop where
  resolved : prep.ResolvedFrom (registry.mergePackages profile.packages).1 profile
  checked : checkAll visitLimit (prep.constraints.expand (prep.before profile input).working) prep.untaint
    (prep.before profile input).closed input (prep.before profile input).working = (after, .ok results.invalid)
  visits : (evaluate registry profile input).visits = after.visits.reverse
  valid : results.valid = if profile.missingOptionalValid then
      (prep.before profile input).backfill input.toRecord.keys results.invalid after.working
    else after.working
  missing : results.missing = (prep.before profile input).missing
  unknown : results.unknown = (prep.before profile input).unknown

/-- An evaluation whose packages can be merged and whose profile can be resolved is a run. -/
theorem evaluate_eq_run {registry merged : Registry} {profile : Profile} {prep : Preparation}
    (hmerge : registry.mergePackages profile.packages = (merged, .ok ()))
    (hprep : Preparation.ofProfile merged profile = .ok prep) (input : Source) :
    evaluate registry profile input =
      ⟨merged, (prep.run visitLimit profile input).1, (prep.run visitLimit profile input).2⟩ := by
  unfold evaluate evaluateWithin
  rw [hmerge]
  simp only [hprep]

/-- Every evaluation with results came to them by these steps. -/
theorem evaluated_of_ok {registry : Registry} {profile : Profile} {input : Source} {results : ValidationResults}
    (h : (evaluate registry profile input).outcome = .ok results) :
    ∃ prep after, Evaluated registry profile input results prep after := by
  rcases hmerge : registry.mergePackages profile.packages with ⟨merged, fault | ⟨⟨⟩⟩⟩
  · simp [evaluate, evaluateWithin, hmerge] at h
  cases hprep : Preparation.ofProfile merged profile with
  | error fault => simp [evaluate, evaluateWithin, hmerge, hprep] at h
  | ok prep =>
    have hrun := evaluate_eq_run hmerge hprep input
    rw [hrun] at h
    unfold Preparation.run at h hrun
    rcases hcheck : checkAll visitLimit (prep.constraints.expand (prep.classify profile input.toRecord).working)
      prep.untaint (prep.classify profile input.toRecord).closed input
      (prep.classify profile input.toRecord).working with ⟨after, fault | invalid⟩
    · simp [hcheck] at h
    · simp only [hcheck, Except.ok.injEq] at h hrun
      subst h
      refine ⟨prep, after, ?_, hcheck, by rw [hrun], rfl, rfl, rfl⟩
      rw [hmerge]
      exact Preparation.resolvedFrom_of_ofProfile hprep

/-! ## Filling valid fields up -/

/-- A field that is put back is submitted and in no class; the others keep their values. -/
theorem Classification.get?_backfill (c : Classification) (submitted : List String) (invalid : FieldMap (List String))
    (working : Record) (field : String) :
    (c.backfill submitted invalid working).get? field =
      if field ∈ submitted ∧ c.isUnclaimed working invalid field then some (.scalar "") else working.get? field := by
  unfold backfill
  induction submitted generalizing working with
  | nil => simp
  | cons name rest ih =>
    rw [List.foldl_cons, ih]
    by_cases hname : c.isUnclaimed working invalid name
    · rw [if_pos hname]
      by_cases hfield : name = field
      · subst hfield
        -- the field was put back just now, so the rest has no claim to make for it
        have hclaimed : ¬ c.isUnclaimed (working.insert name (.scalar "")) invalid name := by
          simp [isUnclaimed]
        rw [if_neg fun h => hclaimed h.2, FieldMap.get?_insert, if_pos rfl, if_pos ⟨List.mem_cons_self, hname⟩]
      · have hsame : c.isUnclaimed (working.insert name (.scalar "")) invalid field =
            c.isUnclaimed working invalid field := by
          simp [isUnclaimed, hfield]
        have hne : ¬ field = name := fun e => hfield e.symm
        rw [hsame, FieldMap.get?_insert, if_neg hfield]
        simp [hne]
    · rw [if_neg hname]
      by_cases hfield : field = name
      · subst hfield
        simp [hname]
      · simp [hfield]

/-! ## The classes -/

namespace Evaluated

variable {registry : Registry} {profile : Profile} {input : Source} {results : ValidationResults}
  {prep : Preparation} {after : Progress}

/-- The unknown fields of an evaluation are those of the reading. -/
theorem unknown_iff (h : Evaluated registry profile input results prep after) (field : String) :
    results.unknown.contains field ↔ (Reading.of registry profile input).Unknown field := by
  rw [h.unknown]
  exact Preparation.ResolvedFrom.unknown_iff (r := Reading.of registry profile input) h.resolved field

/-- The missing names of an evaluation are those of the reading. -/
theorem missing_iff (h : Evaluated registry profile input results prep after) (name : String) :
    results.missing.contains name ↔ (Reading.of registry profile input).Missing name := by
  rw [h.missing]
  exact Preparation.ResolvedFrom.missing_iff (r := Reading.of registry profile input) h.resolved name

/-- The values before checking are those that stand in the reading. -/
theorem stands_iff (h : Evaluated registry profile input results prep after) (field : String) (value : FieldValue) :
    (prep.before profile input).working.get? field = some value ↔
      (Reading.of registry profile input).Stands field value :=
  Preparation.ResolvedFrom.stands_iff (r := Reading.of registry profile input) h.resolved field value

/-- The fields before checking are those that are present in the reading. -/
theorem present_iff (h : Evaluated registry profile input results prep after) (field : String) :
    (prep.before profile input).working.contains field ↔ (Reading.of registry profile input).Present field :=
  Preparation.ResolvedFrom.present_iff (r := Reading.of registry profile input) h.resolved field

/-- The fields that are closed before the first constraint are the missing and the unknown ones. -/
theorem closed_iff (h : Evaluated registry profile input results prep after) (field : String) :
    (prep.before profile input).closed.contains field ↔
      (Reading.of registry profile input).Missing field ∨ (Reading.of registry profile input).Unknown field := by
  rw [← h.missing_iff, ← h.unknown_iff, h.missing, h.unknown]
  unfold Classification.closed
  rw [NameSet.contains_union, Bool.or_eq_true]

/-- After checking, invalid and closed fields are kept apart from the values that stand. -/
theorem separated (h : Evaluated registry profile input results prep after) :
    Separated (prep.before profile input).closed (prep.before profile input).working
      (fun field => results.invalid.contains field) after.working after.closed :=
  (Sound.of_checkAll h.checked).now

/-- A field is invalid when a call for it was answered by a rejection. -/
theorem invalid_iff (h : Evaluated registry profile input results prep after) (field : String) :
    results.invalid.contains field ↔
      ∃ v ∈ (evaluate registry profile input).visits, v.field = field ∧ v.Rejected := by
  rw [h.visits]
  simpa using checkAll_invalid_iff h.checked field

/-- The optional fields that are in no class when constraints have been checked. -/
theorem isUnclaimed_iff (h : Evaluated registry profile input results prep after) (field : String) :
    (prep.before profile input).isUnclaimed after.working results.invalid field ↔
      ¬ after.working.contains field ∧ ¬ results.invalid.contains field ∧
      ¬ (Reading.of registry profile input).Missing field ∧ (Reading.of registry profile input).Optional field := by
  have hoptional := Preparation.ResolvedFrom.optional_iff (r := Reading.of registry profile input) h.resolved field
  have hunknown := h.unknown_iff field
  rw [← h.missing_iff, h.missing]
  rw [h.unknown] at hunknown
  have hoptional' : (prep.before profile input).requirements.optional.contains field ↔
    (Reading.of registry profile input).Optional field := hoptional
  unfold Classification.isUnclaimed
  simp only [Bool.and_eq_true, Bool.not_eq_true', Bool.not_eq_true]
  rw [hoptional']
  constructor
  · rintro ⟨⟨⟨⟨hstands, hinvalid⟩, hmissing⟩, -⟩, hopt⟩
    exact ⟨hstands, hinvalid, hmissing, hopt⟩
  · rintro ⟨hstands, hinvalid, hmissing, hopt⟩
    refine ⟨⟨⟨⟨hstands, hinvalid⟩, hmissing⟩, ?_⟩, hopt⟩
    -- an optional field is known
    rw [Bool.eq_false_iff]
    exact fun hcontains => (hunknown.1 hcontains).2 (Or.inr (Or.inl hopt))

/-- A valid value is one that stands in the end, or the empty text of a field that was put back. -/
theorem get?_valid (h : Evaluated registry profile input results prep after) (field : String) :
    results.valid.get? field =
      if profile.missingOptionalValid ∧ input.toRecord.contains field ∧
          (prep.before profile input).isUnclaimed after.working results.invalid field then
        some (.scalar "")
      else after.working.get? field := by
  rw [h.valid]
  by_cases hfill : profile.missingOptionalValid
  · simp only [hfill, if_true, true_and]
    simp only [Classification.get?_backfill, FieldMap.mem_keys_iff]
  · simp [hfill]

/-- A field is valid when it stands in the end or was put back. -/
theorem valid_iff (h : Evaluated registry profile input results prep after) (field : String) :
    results.valid.contains field ↔ after.working.contains field ∨
      profile.missingOptionalValid ∧ input.toRecord.contains field ∧
        (prep.before profile input).isUnclaimed after.working results.invalid field := by
  rw [FieldMap.contains_iff, FieldMap.contains_iff, h.get?_valid]
  split
  next hfill => simp [hfill]
  next hfill => simp [hfill]

/-- A name that was closed before the first constraint is valid or invalid in the end only if it stood before. -/
theorem present_of_closed (h : Evaluated registry profile input results prep after) {name : String}
    (hclosed : (Reading.of registry profile input).Missing name ∨ (Reading.of registry profile input).Unknown name)
    (hclass : after.working.contains name ∨ results.invalid.contains name) :
    (Reading.of registry profile input).Present name := by
  rw [← h.present_iff]
  -- a closed name that does not stand at the start can neither be written nor be rejected
  by_contra habsent
  obtain ⟨hgone, hfound⟩ := h.separated.classified_absent name ((h.closed_iff name).2 hclosed) habsent
  exact hclass.elim hgone hfound

/-- A valid name that was closed before the first constraint was not put back. -/
theorem stands_of_valid (h : Evaluated registry profile input results prep after) {name : String}
    (hclosed : (Reading.of registry profile input).Missing name ∨ (Reading.of registry profile input).Unknown name)
    (hvalid : results.valid.contains name) : after.working.contains name := by
  rcases (h.valid_iff name).1 hvalid with hstands | ⟨-, -, hunclaimed⟩
  · exact hstands
  · obtain ⟨-, -, hmissing, hoptional⟩ := (h.isUnclaimed_iff name).1 hunclaimed
    rcases hclosed with hmissing' | hunknown
    · exact absurd hmissing' hmissing
    · exact absurd (Or.inr (Or.inl hoptional)) hunknown.2

/-- When the constraints of a profile never write, no attached constraint ever writes. -/
theorem writes_eq_nil (h : Evaluated registry profile input results prep after)
    (hsilent : ∀ field, ∀ spec ∈ (Reading.of registry profile input).constraints field,
      spec.CallsOnly (Reading.of registry profile input).registry ConstraintFunction.WritesNothing)
    (field : String) (c : CompiledConstraint)
    (hc : c ∈ (prep.constraints.expand (prep.before profile input).working).listAt field) (context : Context) :
    (c.invoke context).writes = [] := by
  obtain ⟨spec, hspec, hcompile⟩ :=
    ConstraintPlan.exists_spec_of_mem (r := Reading.of registry profile input) h.resolved.constraints hc
  exact CompiledConstraint.writes_eq_nil hcompile (hsilent field spec hspec) context

/-- When the constraints of a profile never write, no call of the evaluation wrote anything. -/
theorem writesNothing (h : Evaluated registry profile input results prep after)
    (hsilent : ∀ field, ∀ spec ∈ (Reading.of registry profile input).constraints field,
      spec.CallsOnly (Reading.of registry profile input).registry ConstraintFunction.WritesNothing) :
    ∀ v ∈ after.visits, v.WritesNothing := by
  intro v hv answer hanswer
  obtain ⟨c, hc, -, hcalled⟩ := ((Sound.of_checkAll h.checked).genuine v hv).called
  rw [hcalled answer hanswer]
  exact h.writes_eq_nil hsilent v.field c hc (v.context input)

/-- When no call wrote anything, the present fields are those that stand in the end and the invalid ones. -/
theorem present_iff_of_writesNothing (h : Evaluated registry profile input results prep after)
    (hsilent : ∀ v ∈ after.visits, v.WritesNothing) (field : String) :
    (Reading.of registry profile input).Present field ↔
      after.working.contains field ∨ results.invalid.contains field := by
  obtain ⟨hnow, hvisits⟩ := checkAll_keeps_values h.checked hsilent
  rw [← h.present_iff]
  constructor
  · exact h.separated.accounted field
  · rintro (hstands | hinvalid)
    · exact hnow.contains hstands
    · obtain ⟨v, hv, rfl, -⟩ := (checkAll_invalid_iff h.checked field).1 hinvalid
      exact (hvisits v hv).contains ((Sound.of_checkAll h.checked).genuine v hv).contains

/-- When no call wrote anything, the fields that are put back are those of the reading. -/
theorem backfilled_iff (h : Evaluated registry profile input results prep after)
    (hsilent : ∀ v ∈ after.visits, v.WritesNothing) (field : String) :
    (Reading.of registry profile input).Backfilled field ↔
      profile.missingOptionalValid ∧ input.toRecord.contains field ∧
        (prep.before profile input).isUnclaimed after.working results.invalid field := by
  unfold Reading.Backfilled
  rw [h.isUnclaimed_iff, h.present_iff_of_writesNothing hsilent, not_or]
  constructor
  · rintro ⟨hfill, hsubmitted, hoptional, ⟨hgone, hinvalid⟩, hmissing⟩
    exact ⟨hfill, hsubmitted, hgone, hinvalid, hmissing, hoptional⟩
  · rintro ⟨hfill, hsubmitted, hgone, hinvalid, hmissing, hoptional⟩
    exact ⟨hfill, hsubmitted, hoptional, ⟨hgone, hinvalid⟩, hmissing⟩

end Evaluated

/-- An evaluation whose constraints never write agrees with the reading of the profile. The unknown and the missing
names are those of the reading; an invalid field is a present one of which a call rejected an element; the other present
fields are valid with the value with which they stand, up to elements that untainting replaced; and the fields to put
back are valid with an empty text. -/
theorem evaluate_agrees_with_reading {registry : Registry} {profile : Profile} {input : Source}
    {results : ValidationResults} (hok : (evaluate registry profile input).outcome = .ok results)
    (hsilent : ∀ field, ∀ spec ∈ (Reading.of registry profile input).constraints field,
      spec.CallsOnly (Reading.of registry profile input).registry ConstraintFunction.WritesNothing) :
    (∀ field, results.unknown.contains field ↔ (Reading.of registry profile input).Unknown field) ∧
    (∀ name, results.missing.contains name ↔ (Reading.of registry profile input).Missing name) ∧
    (∀ field, results.invalid.contains field ↔ (Reading.of registry profile input).Present field ∧
      ∃ v ∈ (evaluate registry profile input).visits, v.field = field ∧ v.Rejected) ∧
    (∀ field, results.valid.contains field ↔
      (Reading.of registry profile input).Present field ∧ ¬ results.invalid.contains field ∨
        (Reading.of registry profile input).Backfilled field) ∧
    (∀ field value, (Reading.of registry profile input).Stands field value → ¬ results.invalid.contains field →
      ∃ kept, results.valid.get? field = some kept ∧ kept.isList = value.isList ∧ kept.length = value.length ∧
        (¬ (Reading.of registry profile input).Untainted field → kept = value)) ∧
    ∀ field, (Reading.of registry profile input).Backfilled field → results.valid.get? field = some (.scalar "") := by
  obtain ⟨prep, after, h⟩ := evaluated_of_ok hok
  have hvisits := h.writesNothing hsilent
  have hpresent := h.present_iff_of_writesNothing hvisits
  have hapart : ∀ field, results.invalid.contains field → ¬ after.working.contains field :=
    h.separated.found_absent
  refine ⟨h.unknown_iff, h.missing_iff, fun field => ?_, fun field => ?_, fun field value hstands hvalid => ?_,
    fun field hfill => ?_⟩
  · rw [← h.invalid_iff]
    exact ⟨fun hinvalid => ⟨(hpresent field).2 (Or.inr hinvalid), hinvalid⟩, fun hboth => hboth.2⟩
  · rw [h.valid_iff, h.backfilled_iff hvisits, hpresent]
    refine or_congr_left ⟨fun hstands => ⟨Or.inl hstands, fun hinvalid => hapart field hinvalid hstands⟩, ?_⟩
    rintro ⟨hstands | hinvalid, hvalid⟩
    · exact hstands
    · exact absurd hinvalid hvalid
  · have hworking : after.working.contains field :=
      ((hpresent field).1 ⟨value, hstands⟩).resolve_right hvalid
    obtain ⟨kept, hkept⟩ := FieldMap.contains_iff.1 hworking
    obtain ⟨old, hold, hlist, hlength, huntouched⟩ := (checkAll_keeps_values h.checked hvisits).1 field kept hkept
    have hsame : old = value := by
      rw [(h.stands_iff field value).2 hstands, Option.some.injEq] at hold
      exact hold.symm
    have huntaint := UntaintPolicy.applies_iff h.resolved.untaint (registry.mergePackages profile.packages).1
      input.toRecord field
    subst hsame
    refine ⟨kept, ?_, hlist, hlength, fun hnot => huntouched ?_⟩
    · -- a field that stands is not put back
      rw [h.get?_valid, if_neg, hkept]
      rintro ⟨-, -, hunclaimed⟩
      exact ((h.isUnclaimed_iff field).1 hunclaimed).1 hworking
    · rw [Bool.eq_false_iff]
      exact fun happlies => hnot (huntaint.1 happlies)
  · rw [h.get?_valid, if_pos ((h.backfilled_iff hvisits field).1 hfill)]

/-- A sign-up form that refuses the name `x`. -/
def signup : Profile where
  required := ["name"]
  optional := ["nick", "plan"]
  requireSome := FieldMap.ofList [("contact", ⟨1, ["email", "phone"]⟩)]
  dependencies := FieldMap.ofList [("plan", .byValue (FieldMap.ofList [("paid", ["card"])]))]
  defaults := FieldMap.ofList [("country", .scalar "nl")]
  constraints := FieldMap.ofList [("name", [.predicate fun text => text ≠ "x"])]
  missingOptionalValid := true

/-- A sign-up with fields of all classes, among them one that is put back. -/
theorem evaluate_agrees_with_reading_signup :
    ∃ input results, (evaluate Registry.empty signup input).outcome = .ok results ∧
      results.valid.keys = ["country", "nick", "plan"] ∧
      (Reading.of Registry.empty signup input).Unknown "age" ∧
      (Reading.of Registry.empty signup input).Missing "card" ∧
      (Reading.of Registry.empty signup input).Missing "contact" ∧
      (Reading.of Registry.empty signup input).Present "name" := by
  have hok : (evaluate Registry.empty signup (.texts (FieldMap.ofList
      [("age", "7"), ("name", "x"), ("nick", ""), ("plan", "paid")]))).outcome = .ok _ := rfl
  have hagrees := evaluate_agrees_with_reading hok ?_
  · refine ⟨_, _, hok, by decide, ?_, ?_, ?_, ?_⟩
    · exact (hagrees.1 "age").1 (by decide)
    · exact (hagrees.2.1 "card").1 (by decide)
    · exact (hagrees.2.1 "contact").1 (by decide)
    · exact ((hagrees.2.2.1 "name").1 (by decide)).1
  · intro field spec hspec
    rw [Reading.eq_of_mem_constraints rfl rfl hspec]
    trivial

/-- No field of an evaluation is both valid and invalid, or both valid and unknown, or both invalid and unknown,
whatever methods write. The missing names overlap with the other classes in the names of groups with too few members that are
names of present or unknown fields at the same time, and in no other names. -/
theorem evaluate_overlap_iff {registry : Registry} {profile : Profile} {input : Source} {results : ValidationResults}
    (hok : (evaluate registry profile input).outcome = .ok results) :
    (∀ field, ¬ (results.valid.contains field ∧ results.invalid.contains field)) ∧
    (∀ field, ¬ (results.valid.contains field ∧ results.unknown.contains field)) ∧
    (∀ field, ¬ (results.invalid.contains field ∧ results.unknown.contains field)) ∧
    ∀ name, results.missing.contains name ∧
        (results.valid.contains name ∨ results.invalid.contains name ∨ results.unknown.contains name) ↔
      (Reading.of registry profile input).Lacking name ∧
        ((Reading.of registry profile input).Present name ∨ (Reading.of registry profile input).Unknown name) := by
  obtain ⟨prep, after, h⟩ := evaluated_of_ok hok
  refine ⟨?_, ?_, ?_, fun name => ?_⟩
  · rintro field ⟨hvalid, hinvalid⟩
    rcases (h.valid_iff field).1 hvalid with hstands | ⟨-, -, hunclaimed⟩
    · exact h.separated.found_absent field hinvalid hstands
    · exact ((h.isUnclaimed_iff field).1 hunclaimed).2.1 hinvalid
  · rintro field ⟨hvalid, hunknown⟩
    rw [h.unknown_iff] at hunknown
    have hstands := h.stands_of_valid (Or.inr hunknown) hvalid
    exact Reading.not_present_of_unknown hunknown (h.present_of_closed (Or.inr hunknown) (Or.inl hstands))
  · rintro field ⟨hinvalid, hunknown⟩
    rw [h.unknown_iff] at hunknown
    exact Reading.not_present_of_unknown hunknown (h.present_of_closed (Or.inr hunknown) (Or.inr hinvalid))
  · -- a field that stands ends as valid or invalid, so an unsatisfied group of its name overlaps with it
    rw [h.missing_iff, h.unknown_iff]
    constructor
    · rintro ⟨hmissing, hclass⟩
      have hfield : (Reading.of registry profile input).Present name ∨
          (Reading.of registry profile input).Unknown name := by
        rcases hclass with hvalid | hinvalid | hunknown
        · have hstands := h.stands_of_valid (Or.inl hmissing) hvalid
          exact Or.inl (h.present_of_closed (Or.inl hmissing) (Or.inl hstands))
        · exact Or.inl (h.present_of_closed (Or.inl hmissing) (Or.inr hinvalid))
        · exact Or.inr hunknown
      exact ⟨Reading.lacking_of_missing hmissing hfield, hfield⟩
    · rintro ⟨hlacking, hfield⟩
      refine ⟨Or.inr hlacking, ?_⟩
      rcases hfield with hpresent | hunknown
      · rcases h.separated.accounted name ((h.present_iff name).2 hpresent) with hstands | hinvalid
        · exact Or.inl ((h.valid_iff name).2 (Or.inl hstands))
        · exact Or.inr (Or.inl hinvalid)
      · exact Or.inr (Or.inr hunknown)

/-- A profile with a group that has the name of an optional field. -/
def groupNamedAsField : Profile where
  optional := ["contact"]
  requireSome := FieldMap.ofList [("contact", ⟨2, ["email", "phone"]⟩)]

/-- The classes do overlap: the field is valid, and the group of its name is missing. -/
theorem groupNamedAsField_valid_and_missing :
    ∃ results, (evaluate Registry.empty groupNamedAsField
        (.record (FieldMap.ofList [("contact", .scalar "x")]))).outcome = .ok results ∧
      results.valid.contains "contact" ∧ results.missing.contains "contact" := by
  refine ⟨_, rfl, ?_, ?_⟩
  · decide
  · decide

/-- The group of this name lacks members. -/
theorem evaluate_overlap_iff_groupNamedAsField :
    (Reading.of Registry.empty groupNamedAsField (.record (FieldMap.ofList [("contact", .scalar "x")]))).Lacking
      "contact" := by
  have hok : (evaluate Registry.empty groupNamedAsField
      (.record (FieldMap.ofList [("contact", .scalar "x")]))).outcome = .ok _ := rfl
  have hoverlap := (evaluate_overlap_iff hok).2.2.2 "contact"
  exact (hoverlap.1 ⟨by decide, Or.inl (by decide)⟩).1

end FormValidation
