import FormValidation.Proofs.Checking.Faults
import FormValidation.Proofs.Classification.Comparison
import FormValidation.Proofs.Profile.Resolvable

/-!
# Structural faults do not depend on the data

Names and patterns of a profile are resolved before a field is looked at, and what comes afterwards has structural
faults only if a constraint function raises one. So a profile that cannot be resolved is refused whatever is submitted,
always with the same fault, and one that can be resolved is never refused (`evaluate_structural_fault`).
-/

set_option autoImplicit false

namespace FormValidation

variable {registry : Registry} {profile : Profile}

/-- A profile can be prepared when it is resolvable. -/
theorem Profile.resolves_prepare : Resolves (profile.prepare registry) (profile.Resolvable registry) := by
  have hsteps := (registry.resolves_mergePackages profile.packages).bind fun _ _ =>
    Preparation.resolves_ofProfile (registry.mergePackages profile.packages).1 profile
  refine hsteps.congr ⟨fun h => ?_, fun h => ?_⟩
  · exact ⟨h.1, h.2⟩
  · exact ⟨h.packages, h.resolvesIn⟩

/-- Once a profile is prepared, its functions are the only source of faults but for fields that never come to an end. -/
theorem not_isStructural_of_prepare_ok {prep : Preparation} (hprep : profile.prepare registry = .ok prep)
    {input : Source} (hfunctions : ∀ field, ∀ spec ∈ (Reading.of registry profile input).constraints field,
      spec.CallsOnly (Reading.of registry profile input).registry ConstraintFunction.FailsByParams)
    {fault : Fault} (h : (evaluate registry profile input).outcome = .error fault) : ¬ fault.IsStructural := by
  obtain ⟨after, hcheck⟩ := (outcome_eq_error_iff hprep).1 h
  obtain ⟨field, rfl | ⟨c, hc, hraises⟩⟩ := checkAll_fault hcheck
  · exact id
  · obtain ⟨spec, hspec, hcompile⟩ := ConstraintPlan.exists_spec_of_mem (r := Reading.of registry profile input)
      (Profile.resolvedFrom_of_prepare hprep).constraints hc
    obtain ⟨constraint, message, rfl⟩ := hraises.invalidParams hcompile (hfunctions field spec hspec)
    exact id

/-- Let the constraint functions that a profile has called, registered ones and its own, complain about their parameters
only. Then an evaluation ends with a structural fault for one input just when it ends with the same fault for any other.
It does so for the profiles that cannot be resolved, and for no others: a package, name or pattern anywhere in the
profile that cannot be used is enough, whether or not a field reaches it. -/
theorem evaluate_structural_fault (input input' : Source)
    (hfunctions : ∀ field, ∀ spec ∈ (Reading.of registry profile input).constraints field,
      spec.CallsOnly (Reading.of registry profile input).registry ConstraintFunction.FailsByParams) :
    (∀ fault, fault.IsStructural → ((evaluate registry profile input).outcome = .error fault ↔
      (evaluate registry profile input').outcome = .error fault)) ∧
    ((∃ fault, fault.IsStructural ∧ (evaluate registry profile input).outcome = .error fault) ↔
      ¬ profile.Resolvable registry) := by
  have hresolves : Resolves (profile.prepare registry) (profile.Resolvable registry) := Profile.resolves_prepare
  cases hprep : profile.prepare registry with
  | error fault =>
    have hunresolvable : ¬ profile.Resolvable registry := by
      intro hresolvable
      obtain ⟨prep, hok⟩ := hresolves.ok_iff.2 hresolvable
      rw [hprep] at hok
      cases hok
    rw [outcome_of_prepare_error hprep, outcome_of_prepare_error hprep]
    refine ⟨fun other _ => Iff.rfl, iff_of_true ?_ hunresolvable⟩
    exact ⟨fault, hresolves.structural fault hprep, rfl⟩
  | ok prep =>
    have hresolvable : profile.Resolvable registry := hresolves.ok_iff.1 ⟨prep, hprep⟩
    -- the constraints that a profile has do not depend on the input
    have hfunctions' : ∀ field, ∀ spec ∈ (Reading.of registry profile input').constraints field,
        spec.CallsOnly (Reading.of registry profile input').registry ConstraintFunction.FailsByParams := hfunctions
    have hnone : ∀ fault, (evaluate registry profile input).outcome = .error fault → ¬ fault.IsStructural :=
      fun _ h => not_isStructural_of_prepare_ok hprep hfunctions h
    have hnone' : ∀ fault, (evaluate registry profile input').outcome = .error fault → ¬ fault.IsStructural :=
      fun _ h => not_isStructural_of_prepare_ok hprep hfunctions' h
    refine ⟨fun fault hstructural => ?_, iff_of_false ?_ (not_not_intro hresolvable)⟩
    · exact iff_of_false (fun h => hnone fault h hstructural) fun h => hnone' fault h hstructural
    · rintro ⟨fault, hstructural, h⟩
      exact hnone fault h hstructural

/-- A profile whose filter for one field does not exist. -/
def misspelledFilter : Profile where
  required := ["name"]
  optional := ["nick"]
  fieldFilters := FieldMap.ofList [("nick", [.named "trimm"])]
  constraints := FieldMap.ofList [("name", [.predicate fun text => text ≠ "x"])]

/-- A profile with a misspelled filter fails, and it is not resolvable. -/
theorem evaluate_structural_fault_misspelledFilter :
    (evaluate Registry.empty misspelledFilter (.texts (FieldMap.ofList [("name", "n")]))).outcome =
        .error (.unknownFilter "trimm") ∧
      ¬ misspelledFilter.Resolvable Registry.empty := by
  have hfunctions : ∀ input field,
      ∀ spec ∈ (Reading.of Registry.empty misspelledFilter input).constraints field,
        spec.CallsOnly (Reading.of Registry.empty misspelledFilter input).registry ConstraintFunction.FailsByParams := by
    intro input field spec hspec
    rw [Reading.eq_of_mem_constraints rfl rfl hspec]
    intro params fault hfault
    cases hfault
  have hreached : (evaluate Registry.empty misspelledFilter (.texts (FieldMap.ofList [("name", "n"), ("nick", "k")]))
      ).outcome = .error (.unknownFilter "trimm") := rfl
  have hstructural : (Fault.unknownFilter "trimm").IsStructural := trivial
  obtain ⟨hsame, hresolvable⟩ := evaluate_structural_fault _ (.texts (FieldMap.ofList [("name", "n")])) (hfunctions _)
  exact ⟨(hsame _ hstructural).1 hreached, hresolvable.1 ⟨_, hstructural, hreached⟩⟩

end FormValidation
