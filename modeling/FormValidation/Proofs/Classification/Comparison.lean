import FormValidation.Proofs.Checking.Reads
import FormValidation.Proofs.Classification.Classes

/-!
# Comparing two evaluations

Two evaluations of one profile, of different inputs, are prepared alike. They also check the same constraints when the
same fields stand with the same values by the reading of the profile. If the constraints call confined functions only,
they then end with the same fault, or find the same fields invalid and leave the same values (`evaluate_of_sameStart`).
-/

set_option autoImplicit false

namespace FormValidation

/-! ## What is prepared before an input is looked at -/

/-- The preparation of a profile after its packages were merged. -/
def Profile.prepare (registry : Registry) (profile : Profile) : Except Fault Preparation := do
  (registry.mergePackages profile.packages).2
  Preparation.ofProfile (registry.mergePackages profile.packages).1 profile

section Preparations

variable {registry : Registry} {profile : Profile} {prep : Preparation} {input : Source} {after : Progress}

/-- A profile can be prepared when its packages can be merged and its parts resolved in the registry after that. -/
theorem Profile.prepare_eq_ok_iff :
    profile.prepare registry = .ok prep ↔
      registry.mergePackages profile.packages = ((registry.mergePackages profile.packages).1, .ok ()) ∧
        Preparation.ofProfile (registry.mergePackages profile.packages).1 profile = .ok prep := by
  unfold prepare
  rw [Outcome.bind_eq_ok_iff]
  constructor
  · rintro ⟨⟨⟩, hmerge, hprep⟩
    exact ⟨Prod.ext rfl hmerge, hprep⟩
  · rintro ⟨hmerge, hprep⟩
    exact ⟨(), congrArg Prod.snd hmerge, hprep⟩

/-- What was prepared holds what the parts of the profile are resolved to, after its packages were merged. -/
theorem Profile.resolvedFrom_of_prepare (h : profile.prepare registry = .ok prep) :
    prep.ResolvedFrom (registry.mergePackages profile.packages).1 profile :=
  Preparation.resolvedFrom_of_ofProfile (prepare_eq_ok_iff.1 h).2

/-- An evaluation prepares its profile, and then runs the input through it. -/
theorem outcome_eq_prepare (registry : Registry) (profile : Profile) (input : Source) :
    (evaluate registry profile input).outcome =
      profile.prepare registry >>= fun prep => (prep.run visitLimit profile input).2 := by
  unfold evaluate evaluateWithin Profile.prepare
  rcases registry.mergePackages profile.packages with ⟨merged, fault | ⟨⟨⟩⟩⟩
  · rfl
  · show _ = Preparation.ofProfile merged profile >>= _
    cases hprep : Preparation.ofProfile merged profile <;> simp only [hprep] <;> rfl

/-- A profile that cannot be prepared is refused with the same fault for every input. -/
theorem outcome_of_prepare_error {fault : Fault} (h : profile.prepare registry = .error fault) (input : Source) :
    (evaluate registry profile input).outcome = .error fault := by
  rw [outcome_eq_prepare, h]
  rfl

/-- A prepared evaluation ends with a fault just when its check does. -/
theorem outcome_eq_error_iff (h : profile.prepare registry = .ok prep) {fault : Fault} :
    (evaluate registry profile input).outcome = .error fault ↔
      ∃ after, checkAll visitLimit (prep.constraints.expand (prep.before profile input).working) prep.untaint
        (prep.before profile input).closed input (prep.before profile input).working = (after, .error fault) := by
  have hrun : (evaluate registry profile input).outcome = (prep.run visitLimit profile input).2 := by
    rw [outcome_eq_prepare, h]
    rfl
  rw [hrun]
  unfold Preparation.run Preparation.before
  rcases hcheck : checkAll visitLimit (prep.constraints.expand (prep.classify profile input.toRecord).working)
    prep.untaint (prep.classify profile input.toRecord).closed input
    (prep.classify profile input.toRecord).working with ⟨after, raised | invalid⟩ <;> simp [hcheck]

/-- A prepared evaluation whose check comes to its end has results. -/
theorem exists_evaluated_of_checkAll_ok (h : profile.prepare registry = .ok prep) {invalid : FieldMap (List String)}
    (hcheck : checkAll visitLimit (prep.constraints.expand (prep.before profile input).working) prep.untaint
      (prep.before profile input).closed input (prep.before profile input).working = (after, .ok invalid)) :
    ∃ results, (evaluate registry profile input).outcome = .ok results ∧ results.invalid = invalid ∧
      Evaluated registry profile input results prep after := by
  obtain ⟨hmerge, hprep⟩ := Profile.prepare_eq_ok_iff.1 h
  have hrun := evaluate_eq_run hmerge hprep input
  have hcheck' := hcheck
  unfold Preparation.before at hcheck'
  simp only [Preparation.run, hcheck'] at hrun
  exact ⟨_, by rw [hrun], rfl, Profile.resolvedFrom_of_prepare h, hcheck, by rw [hrun], rfl, rfl, rfl⟩

end Preparations

/-! ## Readings of two inputs -/

/-- The reading of the same profile for another record. -/
def Reading.on (r : Reading) (fields : Record) : Reading := { r with submitted := fields }

/-- Readings of one profile by which the same fields are required and present miss the same names. -/
theorem Reading.missing_congr {r : Reading} (r' : Reading) (hprofile : r'.profile = r.profile)
    (hrequired : ∀ field, r'.Required field ↔ r.Required field)
    (hpresent : ∀ field, r'.Present field ↔ r.Present field) (name : String) : r'.Missing name ↔ r.Missing name := by
  classical
  have hlacking : r'.Lacking name ↔ r.Lacking name := by
    unfold Lacking
    rw [hprofile]
    refine exists_congr fun spec => and_congr_right fun _ => ?_
    have hcount : (spec.members.filter fun member => decide (r'.Present member)) =
        spec.members.filter fun member => decide (r.Present member) :=
      List.filter_congr fun member _ => decide_eq_decide.2 (hpresent member)
    rw [hcount]
  unfold Missing
  rw [hrequired, hpresent, hlacking]

/-- Where the same fields stand with the same values, and constraints call confined functions only, two evaluations
fault alike, or find the same fields invalid and leave the same values. -/
theorem evaluate_of_sameStart {registry registry' : Registry} {profile : Profile} {input input' : Source}
    (hmerge : registry'.mergePackages profile.packages = registry.mergePackages profile.packages)
    (hconfined : ∀ field, ∀ spec ∈ (Reading.of registry profile input).constraints field,
      spec.CallsOnly (Reading.of registry profile input).registry ConstraintFunction.Confined)
    (hstands : ∀ field value, (Reading.of registry' profile input').Stands field value ↔
      (Reading.of registry profile input).Stands field value) :
    (∀ fault, (evaluate registry profile input).outcome = .error fault →
      (evaluate registry' profile input').outcome = .error fault) ∧
    ∀ results, (evaluate registry profile input).outcome = .ok results → ∃ results' prep after after',
      (evaluate registry' profile input').outcome = .ok results' ∧
      Evaluated registry profile input results prep after ∧
      Evaluated registry' profile input' results' prep after' ∧
      after'.working = after.working ∧ results'.invalid = results.invalid := by
  have hprepare : profile.prepare registry' = profile.prepare registry := by
    unfold Profile.prepare
    rw [hmerge]
  cases hprep : profile.prepare registry with
  | error fault =>
    rw [outcome_of_prepare_error hprep, outcome_of_prepare_error (hprepare.trans hprep)]
    exact ⟨fun _ h => h, fun _ h => nomatch h⟩
  | ok prep =>
    have hprep' := hprepare.trans hprep
    have hresolved := Profile.resolvedFrom_of_prepare hprep
    have hworking : (prep.before profile input').working = (prep.before profile input).working := by
      refine FieldMap.ext_get? fun field => Option.ext fun value => ?_
      have hthere := Preparation.ResolvedFrom.stands_iff (r := Reading.of registry' profile input')
        (Profile.resolvedFrom_of_prepare hprep') field value
      have hhere := Preparation.ResolvedFrom.stands_iff (r := Reading.of registry profile input) hresolved field value
      exact hthere.trans ((hstands field value).trans hhere.symm)
    have hreads : ∀ field, ∀ c ∈ (prep.constraints.expand (prep.before profile input).working).listAt field,
        c.ReadsValues := by
      intro field c hc
      obtain ⟨spec, hspec, hcompile⟩ :=
        ConstraintPlan.exists_spec_of_mem (r := Reading.of registry profile input) hresolved.constraints hc
      exact CompiledConstraint.readsValues_of_compile hcompile (hconfined field spec hspec)
    -- the two checks are of the same constraints for the same values, so they run alike
    obtain ⟨after, after', result, hrun, hrun', hkept⟩ := (checkAll_sameRun visitLimit hreads prep.untaint
      (prep.before profile input).closed (prep.before profile input').closed input input'
      (prep.before profile input).working).exists_result
    rw [← hworking] at hrun'
    cases result with
    | error fault =>
      rw [(outcome_eq_error_iff hprep).2 ⟨after, hrun⟩, (outcome_eq_error_iff hprep').2 ⟨after', hrun'⟩]
      exact ⟨fun _ h => h, fun _ h => nomatch h⟩
    | ok invalid =>
      obtain ⟨results, hhere, hinvalid, hevaluated⟩ := exists_evaluated_of_checkAll_ok hprep hrun
      obtain ⟨results', hthere, hinvalid', hevaluated'⟩ := exists_evaluated_of_checkAll_ok hprep' hrun'
      rw [hhere, hthere]
      refine ⟨fun _ h => (nomatch h), ?_⟩
      rintro _ ⟨⟩
      exact ⟨results', prep, after, after', rfl, hevaluated, hevaluated', hkept.symm, hinvalid'.trans hinvalid.symm⟩

end FormValidation
