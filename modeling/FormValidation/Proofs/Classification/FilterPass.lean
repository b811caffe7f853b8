import FormValidation.Proofs.Checking.Reads
import FormValidation.Proofs.Classification.Classes
import FormValidation.Proofs.Profile.Resolvable

/-!
# Filters are a pass of their own

Filters run before anything is decided, and nothing that comes later sees what they were given. They keep the names of
the record and the shapes of its values, and rewrite every element by the filters that the profile has for its field. An
evaluation is therefore the same as one of the filtered record by the profile without its filters, as long as no
constraint looks at the input as it was submitted.
-/

set_option autoImplicit false

namespace FormValidation

/-- The profile without filters. -/
def Profile.withoutFilters (profile : Profile) : Profile :=
  { profile with filters := [], fieldFilters := FieldMap.empty, patternFilters := [] }

/-- All filters of the profile are functions or registered names, and the patterns of its filters can be compiled. -/
structure Profile.FiltersResolveIn (registry : Registry) (profile : Profile) : Prop where
  filters : ∀ spec ∈ profile.filters, spec.Resolvable registry
  fieldFilters (field : String) (specs : List FilterSpec) (h : profile.fieldFilters.get? field = some specs) :
    ∀ spec ∈ specs, spec.Resolvable registry
  patternFilters : ∀ rule ∈ profile.patternFilters, rule.1.Compiles ∧ ∀ spec ∈ rule.2, spec.Resolvable registry

namespace FilterPlan

variable {registry : Registry} {profile : Profile} {plan : FilterPlan}

/-- Where all filters of a profile resolve, it has a plan for them. -/
theorem exists_ofProfile (h : profile.FiltersResolveIn registry) : ∃ plan, ofProfile registry profile = .ok plan :=
  (resolves_ofProfile registry profile).ok_iff.2 ⟨h.filters, h.fieldFilters, h.patternFilters⟩

/-! ## What filtering does to a record -/

/-- Filters that run on some fields keep all fields. -/
theorem keys_runWhere (holds : String → Bool) (filters : List TextFilter) (fields : Record) :
    (runWhere holds filters fields).keys = fields.keys :=
  FieldMap.keys_mapWithKey _ fields

/-- A plan keeps all fields. -/
theorem keys_apply (plan : FilterPlan) (fields : Record) : (plan.apply fields).keys = fields.keys := by
  have hfields : ∀ (rules : List (String × List TextFilter)) (fields : Record),
      (rules.foldl (fun acc e => runWhere (fun name => name == e.1) e.2 acc) fields).keys = fields.keys := by
    intro rules
    induction rules with
    | nil => exact fun fields => rfl
    | cons rule rest ih => exact fun fields => (ih _).trans (keys_runWhere _ rule.2 fields)
  have hpatterns : ∀ (rules : List (Regex × List TextFilter)) (fields : Record),
      (rules.foldl (fun acc e => runWhere e.1.isMatch e.2 acc) fields).keys = fields.keys := by
    intro rules
    induction rules with
    | nil => exact fun fields => rfl
    | cons rule rest ih => exact fun fields => (ih _).trans (keys_runWhere _ rule.2 fields)
  unfold apply
  rw [hpatterns, hfields]
  exact FieldMap.keys_mapWithKey _ fields

/-- The plan without filters. -/
def none : FilterPlan := ⟨[], FieldMap.empty, []⟩

/-- The plan without filters changes nothing. -/
theorem apply_none (fields : Record) : none.apply fields = fields := by
  refine FieldMap.ext_get? fun name => ?_
  have hempty : none.everywhere ++ none.byField.listAt name ++ matchedFor none.byPattern name = [] := rfl
  rw [get?_apply, hempty, run_nil, Option.map_id_fun, id]

end FilterPlan

/-! ## An evaluation of the filtered record -/

namespace Preparation

/-- The preparation with the plan without filters. -/
def withoutFilters (prep : Preparation) : Preparation := { prep with filters := FilterPlan.none }

/-- Where the filters of a profile can be looked up, the profile without them is prepared alike, or ends with the same
fault. -/
theorem ofProfile_withoutFilters {registry : Registry} {profile : Profile} {plan : FilterPlan}
    (h : FilterPlan.ofProfile registry profile = .ok plan) :
    ofProfile registry profile.withoutFilters = (ofProfile registry profile).map withoutFilters := by
  have hnone : FilterPlan.ofProfile registry profile.withoutFilters = .ok FilterPlan.none := rfl
  have hconstraints : ConstraintPlan.ofProfile registry profile.withoutFilters =
      ConstraintPlan.ofProfile registry profile := rfl
  have huntaint : UntaintPolicy.ofProfile profile.withoutFilters = UntaintPolicy.ofProfile profile := rfl
  unfold ofProfile
  rw [hnone, hconstraints, huntaint, h]
  show (Messages.checkConfig profile.messages >>= _) = _
  cases Messages.checkConfig profile.messages with
  | error fault => rfl
  | ok _ =>
    cases ConstraintPlan.ofProfile registry profile with
    | error fault => rfl
    | ok constraints =>
      cases UntaintPolicy.ofProfile profile with
      | error fault => rfl
      | ok untaint =>
        show (resolvePattern profile.requiredPattern >>= _) = _
        cases resolvePattern profile.requiredPattern with
        | error fault => rfl
        | ok requiredPattern =>
          show (resolvePattern profile.optionalPattern >>= _) = _
          cases resolvePattern profile.optionalPattern <;> rfl

/-- Fields that were filtered before are classified without filters as they are with them. -/
theorem classify_withoutFilters (prep : Preparation) (profile : Profile) (submitted : Record) :
    prep.withoutFilters.classify profile.withoutFilters (prep.filters.apply submitted) =
      prep.classify profile submitted := by
  have hfiltered : prep.withoutFilters.filters.apply (prep.filters.apply submitted) = prep.filters.apply submitted :=
    FilterPlan.apply_none _
  unfold classify
  rw [hfiltered]
  rfl

/-- The filtered record runs through the profile without filters as the record does through the profile. -/
theorem run_withoutFilters (prep : Preparation) (profile : Profile) (input : Source) (limit : Nat)
    (halike : ∀ field, ∀ c ∈ (prep.constraints.expand (prep.before profile input).working).listAt field,
      c.AlikeOn input (.record (prep.filters.apply input.toRecord))) :
    prep.withoutFilters.run limit profile.withoutFilters (.record (prep.filters.apply input.toRecord)) =
      prep.run limit profile input := by
  have hrecord : (Source.record (prep.filters.apply input.toRecord)).toRecord = prep.filters.apply input.toRecord := rfl
  have hclassify := prep.classify_withoutFilters profile input.toRecord
  have hkeys := prep.filters.keys_apply input.toRecord
  have hcheck : checkAll limit (prep.withoutFilters.constraints.expand (prep.classify profile input.toRecord).working)
      prep.withoutFilters.untaint (prep.classify profile input.toRecord).closed
      (.record (prep.filters.apply input.toRecord)) (prep.classify profile input.toRecord).working =
        checkAll limit (prep.constraints.expand (prep.classify profile input.toRecord).working) prep.untaint
          (prep.classify profile input.toRecord).closed input (prep.classify profile input.toRecord).working :=
    checkAll_otherInput limit halike _ _ _
  unfold run
  simp only [hrecord, hclassify, hkeys, hcheck]
  rfl

end Preparation

/-- Filtering keeps the names of a record and the shapes of its values, and every element becomes what the filters make
of it that the profile has for its field: those for all fields, those for the field, and those for the patterns that
cover its name, one after the other. -/
theorem FilterPlan.apply_spec {registry : Registry} {profile : Profile} {plan : FilterPlan}
    (h : ofProfile registry profile = .ok plan) (fields : Record) :
    (plan.apply fields).keys = fields.keys ∧
    ∀ field value, fields.get? field = some value → ∃ filtered, (plan.apply fields).get? field = some filtered ∧
      filtered.isList = value.isList ∧ filtered.length = value.length ∧
      ∀ index, filtered.element? index = (value.element? index).map fun text =>
        ((Reading.mk registry profile fields).filters field).foldl (fun t spec => spec.run registry t) text := by
  refine ⟨plan.keys_apply fields, fun field value hvalue => ?_⟩
  have hfiltered := get?_apply_of_ofProfile h fields field
  rw [Reading.filtered?, hvalue, Option.map_some] at hfiltered
  refine ⟨_, hfiltered, FieldValue.isList_map _ value, FieldValue.length_map _ value, fun index => ?_⟩
  rw [FieldValue.element?, FieldValue.elements_map, List.getElem?_map]
  rfl

/-- Where the packages of the profile and its filters are found, evaluating a record is evaluating the filtered record
without filters. -/
theorem evaluate_withoutFilters {registry : Registry} {profile : Profile} {plan : FilterPlan}
    (h : FilterPlan.ofProfile (registry.mergePackages profile.packages).1 profile = .ok plan) (input : Source)
    (hignore : ∀ field, ∀ spec ∈ (Reading.of registry profile input).constraints field,
      spec.CallsOnly (Reading.of registry profile input).registry ConstraintFunction.IgnoresInput) :
    evaluate registry profile.withoutFilters (.record (plan.apply input.toRecord)) =
      evaluate registry profile input := by
  have hpackages : profile.withoutFilters.packages = profile.packages := rfl
  unfold evaluate evaluateWithin
  rw [hpackages]
  rcases hmerge : registry.mergePackages profile.packages with ⟨merged, fault | ⟨⟨⟩⟩⟩
  · rfl
  · rw [hmerge] at h
    simp only [Preparation.ofProfile_withoutFilters h]
    cases hprep : Preparation.ofProfile merged profile with
    | error fault => rfl
    | ok prep =>
      have hresolved := Preparation.resolvedFrom_of_ofProfile hprep
      obtain rfl : prep.filters = plan := Except.ok.inj (hresolved.filters.symm.trans h)
      have hreading : Reading.of registry profile input = ⟨merged, profile, input.toRecord⟩ := by
        rw [Reading.of, hmerge]
      rw [hreading] at hignore
      have halike := ConstraintPlan.alikeOn_expand (r := ⟨merged, profile, input.toRecord⟩) hresolved.constraints
        (fun field spec hspec => (hignore field spec hspec).imp fun _ hfunction => hfunction.alikeOn input
          (.record (prep.filters.apply input.toRecord))) (prep.before profile input).working
      simp only [Except.map, prep.run_withoutFilters profile input visitLimit halike]

/-- Filters are a pass of their own. When the filters of a profile are found and their patterns can be compiled, every
record can be filtered: the names and the shapes stay, and every element becomes what the filters for its field make of
it, those for all fields first, then those for the field, then those for the patterns that cover its name. And the
evaluation of the filtered record by the profile without filters is the same, visit by visit, as that of the record by
the profile, unless a constraint looks at the input as it was submitted. -/
theorem evaluate_filters_first {registry : Registry} {profile : Profile} (hfilters : profile.FiltersResolveIn registry) :
    ∃ plan, FilterPlan.ofProfile registry profile = .ok plan ∧
      (∀ fields : Record, (plan.apply fields).keys = fields.keys ∧
        ∀ field value, fields.get? field = some value → ∃ filtered, (plan.apply fields).get? field = some filtered ∧
          filtered.isList = value.isList ∧ filtered.length = value.length ∧
          ∀ index, filtered.element? index = (value.element? index).map fun text =>
            ((Reading.mk registry profile fields).filters field).foldl (fun t spec => spec.run registry t) text) ∧
      ∀ (before : Registry) (input : Source), (before.mergePackages profile.packages).1 = registry →
        (∀ field, ∀ spec ∈ (Reading.of before profile input).constraints field,
          spec.CallsOnly (Reading.of before profile input).registry ConstraintFunction.IgnoresInput) →
        evaluate before profile.withoutFilters (.record (plan.apply input.toRecord)) =
          evaluate before profile input := by
  obtain ⟨plan, hplan⟩ := FilterPlan.exists_ofProfile hfilters
  refine ⟨plan, hplan, FilterPlan.apply_spec hplan, fun before input hmerge hignore => ?_⟩
  rw [← hmerge] at hplan
  exact evaluate_withoutFilters hplan input hignore

/-- A form with several addresses, of which the last one that is checked becomes a field of its own. -/
def mailingForm : Profile where
  required := ["emails"]
  optional := ["code", "reply"]
  filters := [.named "trim"]
  fieldFilters := FieldMap.ofList [("emails", [.named "lc"])]
  patternFilters := [(.delimited "/^co/", [.named "digit", .function fun text => "#" ++ text])]
  constraints := FieldMap.ofList [("emails", [.method fun context _ =>
    { outcome := .ok (.matched context.value), writes := [("reply", .scalar context.value)] }])]

/-- What is submitted of the form. -/
def submittedMail : Record :=
  FieldMap.ofList [("code", .scalar " 12-3"), ("emails", .list [" Ann@Site.org", " "])]

/-- The addresses are filtered element by element, and the filtered record is evaluated like the submitted one. -/
theorem evaluate_filters_first_mailingForm :
    ∃ plan, FilterPlan.ofProfile (Registry.builtins ⟨2026, 1, 1⟩) mailingForm = .ok plan ∧
      (plan.apply submittedMail).get? "code" = some (.scalar "#123") ∧
      evaluate (Registry.builtins ⟨2026, 1, 1⟩) mailingForm.withoutFilters (.record (plan.apply submittedMail)) =
        evaluate (Registry.builtins ⟨2026, 1, 1⟩) mailingForm (.record submittedMail) ∧
      ((evaluate (Registry.builtins ⟨2026, 1, 1⟩) mailingForm (.record submittedMail)).outcome.toOption.map
        fun results => results.valid.entries) = some [("code", .scalar "#123"),
          ("emails", .list ["ann@site.org", ""]), ("reply", .scalar "ann@site.org")] := by
  have hfilters : mailingForm.FiltersResolveIn (Registry.builtins ⟨2026, 1, 1⟩) := by
    refine ⟨?_, ?_, ?_⟩
    · intro spec hspec
      rw [List.mem_singleton.1 hspec]
      show (Registry.builtins ⟨2026, 1, 1⟩).filters.contains "trim" = true
      decide +kernel
    · intro field specs hfield spec hspec
      have hentry := FieldMap.mem_of_get?_ofList hfield
      simp only [List.mem_singleton, Prod.mk.injEq] at hentry
      rw [hentry.2, List.mem_singleton] at hspec
      rw [hspec]
      show (Registry.builtins ⟨2026, 1, 1⟩).filters.contains "lc" = true
      decide +kernel
    · intro rule hrule
      rw [List.mem_singleton.1 hrule]
      refine ⟨⟨_, rfl⟩, ?_⟩
      rw [List.forall_mem_cons, List.forall_mem_singleton]
      refine ⟨?_, trivial⟩
      show (Registry.builtins ⟨2026, 1, 1⟩).filters.contains "digit" = true
      decide +kernel
  obtain ⟨plan, hplan, hfiltered, hevaluate⟩ := evaluate_filters_first hfilters
  refine ⟨plan, hplan, ?_, ?_, ?_⟩
  · obtain ⟨value, hvalue, hlist, -, htexts⟩ := (hfiltered submittedMail).2 "code" (.scalar " 12-3") rfl
    have htext : value.element? 0 = some "#123" := by
      rw [htexts 0]
      decide +kernel
    cases value with
    | list texts => cases hlist
    | scalar text =>
      simp only [FieldValue.element?, FieldValue.elements, List.getElem?_cons_zero, Option.some.injEq] at htext
      rw [hvalue, htext]
  · refine hevaluate _ (.record submittedMail) rfl fun field spec hspec => ?_
    rw [Reading.eq_of_mem_constraints rfl rfl hspec]
    exact fun context input params => rfl
  · decide +kernel

end FormValidation
