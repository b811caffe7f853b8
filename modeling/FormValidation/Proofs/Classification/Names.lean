import FormValidation.Proofs.Classification.Classes
import FormValidation.Proofs.Profile.Constraints

/-!
# From profile data to the names of failures

The built-in functions are confined, so over the built-in registry what a field fails can be told from the profile
data, the value with which the field stands, and nothing else.
-/

set_option autoImplicit false

namespace FormValidation

/-- The built-in registry has no packages, so no evaluation over it merges one. -/
theorem Reading.registry_builtins (today : Date) (profile : Profile) (input : Source) :
    (Reading.of (Registry.builtins today) profile input).registry = Registry.builtins today := by
  show ((Registry.builtins today).mergePackages profile.packages).1 = Registry.builtins today
  cases profile.packages with
  | nil => rfl
  | cons name rest =>
    have hnone : (Registry.builtins today).mergePackage name = .error (.unknownPackage name) := rfl
    rw [Registry.mergePackages, hnone]

/-- Over the built-in registry, the constraints of a profile that was read from data call built-in functions only. -/
theorem Reading.callsOnly_of_builtins {data : Json} {profile : Profile} (hread : Profile.ofJson data = .ok profile)
    {today : Date} {P : ConstraintFunction → Prop}
    (hbuiltin : ∀ name function, (Registry.builtins today).constraint name = .ok function → P function)
    {input : Source} {field : String} {spec : ConstraintSpec}
    (hspec : spec ∈ (Reading.of (Registry.builtins today) profile input).constraints field) :
    spec.CallsOnly (Reading.of (Registry.builtins today) profile input).registry P := by
  rw [Reading.registry_builtins]
  have hdeclared : ∀ spec ∈ data.constraintsFor field, spec.CallsOnly (Registry.builtins today) P :=
    fun spec => ConstraintSpec.callsOnly_of_mem_constraintsFor hbuiltin
  have hflag : ∀ spec : ConstraintSpec, spec.CallsOnly (Registry.builtins today) P →
      spec.asMethod.CallsOnly (Registry.builtins today) P := fun _ => ConstraintSpec.CallsOnly.asMethod
  exact Reading.forall_constraints_of_ofJson hread hflag hdeclared spec hspec

/-- Over the built-in registry, with a profile that was read from data, a field that stands and is not untainted is
invalid just when a constraint that the data declares for it rejects some element of its value that has content. It is
then invalid by the declared names of the constraints that do, each once, in the order of the data. The parameters of
these constraints have to be fixed texts or the field itself. -/
theorem evaluate_names_failures {data : Json} {profile : Profile} (hread : Profile.ofJson data = .ok profile)
    {today : Date} {input : Source} {results : ValidationResults}
    (hok : (evaluate (Registry.builtins today) profile input).outcome = .ok results)
    {field : String} {value : FieldValue}
    (hstands : (Reading.of (Registry.builtins today) profile input).Stands field value)
    (huntaint : ¬ (Reading.of (Registry.builtins today) profile input).Untainted field)
    (hparams : ∀ spec ∈ data.constraintsFor field, spec.OwnParams field) :
    (results.invalid.contains field ↔ ∃ spec ∈ data.constraintsFor field, ∃ element ∈ value.elements,
      element ≠ "" ∧ spec.rejects (Registry.builtins today) field value element) ∧
    (results.invalid.contains field → results.invalid.get? field =
      some (failingNames (Registry.builtins today) field value (data.constraintsFor field))) := by
  obtain ⟨prep, after, h⟩ := evaluated_of_ok hok
  have hregistry := Reading.registry_builtins today profile input
  have hbuiltin : ∀ name function, (Registry.builtins today).constraint name = .ok function → function.Confined :=
    fun _ _ => Registry.confined_of_builtins
  -- the constraints of the profile are the declared ones, so they stay at their field and never write
  have hcalls : ∀ other, ∀ spec ∈ (Reading.of (Registry.builtins today) profile input).constraints other,
      spec.CallsOnly (Registry.builtins today) ConstraintFunction.Confined := by
    intro other
    refine Reading.forall_constraints_of_ofJson hread (fun _ => ConstraintSpec.CallsOnly.asMethod) ?_
    exact fun spec => ConstraintSpec.callsOnly_of_mem_constraintsFor hbuiltin
  have hstay : ∀ spec ∈ (Reading.of (Registry.builtins today) profile input).constraints field,
      spec.StaysAt (Registry.builtins today) field := by
    have hown : ∀ spec ∈ (Reading.of (Registry.builtins today) profile input).constraints field,
        spec.OwnParams field :=
      Reading.forall_constraints_of_ofJson hread (fun _ hspec => hspec.asMethod) hparams
    exact fun spec hspec => ⟨hcalls field spec hspec, hown spec hspec⟩
  have hsilent : ∀ other, ∀ spec ∈ (Reading.of (Registry.builtins today) profile input).constraints other,
      spec.CallsOnly (Reading.of (Registry.builtins today) profile input).registry
        ConstraintFunction.WritesNothing := by
    rw [hregistry]
    exact fun other spec hspec => (hcalls other spec hspec).imp fun _ hconfined => hconfined.writesNothing
  have hcompile := ConstraintPlan.forall₂_listAt_expand (r := Reading.of (Registry.builtins today) profile input)
    h.resolved.constraints (prep.before profile input).working field
  rw [if_pos ((h.present_iff field).2 ⟨value, hstands⟩), hregistry] at hcompile
  have hnot : prep.untaint.applies field = false := by
    rw [Bool.eq_false_iff]
    exact fun happlies => huntaint ((UntaintPolicy.applies_iff h.resolved.untaint _ _ field).1 happlies)
  have hget := checkAll_names_failures h.checked (h.writes_eq_nil hsilent) ((h.stands_iff field value).2 hstands) hnot
    hcompile hstay
  -- flags apart, the constraints that were checked are the declared ones
  have hnames := Reading.failingNames_of_ofJson (r := Reading.of (Registry.builtins today) profile input) hread
    (Registry.builtins today) field value
  have hget' : results.invalid.get? field =
      failedWith (failingNames (Registry.builtins today) field value (data.constraintsFor field)) := by
    rw [← hnames]
    exact hget
  rw [← failingNames_ne_nil_iff, FieldMap.contains_iff, hget', failedWith]
  split
  next hnil => simp [hnil]
  next hne => simp [hne]

/-- Data with three constraints for one field, of which the last is declared as a method. -/
def codeData : Json := .object [
  ("required", .string "code"),
  ("constraints", .object [("code", .array [
    .object [("constraint", .string "min_length"), ("params", .array [.number (.integer 5)])],
    .string "state"])]),
  ("constraint_methods", .object [("code",
    .object [("constraint", .string "max_length"), ("params", .array [.number (.integer 2)])])])]

/-- The profile that is read from the data. -/
def codeProfile : Profile where
  required := ["code"]
  constraints := FieldMap.ofList [("code", [
    .structured (.named "min_length") none (some [.literal "5"]) none,
    .named "state",
    .structured (.named "max_length") none (some [.literal "2"]) (some true)])]

/-- A code that fails all three constraints is invalid with their names in order. -/
theorem evaluate_names_failures_codeData :
    ∃ results, Profile.ofJson codeData = .ok codeProfile ∧
      (evaluate (Registry.builtins ⟨2026, 1, 1⟩) codeProfile
        (.texts (FieldMap.ofList [("code", "abc")]))).outcome = .ok results ∧
      results.invalid.get? "code" = some ["min_length", "state", "max_length"] := by
  have hread : Profile.ofJson codeData = .ok codeProfile := rfl
  have hends : (evaluate (Registry.builtins ⟨2026, 1, 1⟩) codeProfile
      (.texts (FieldMap.ofList [("code", "abc")]))).outcome.isOk = true := by decide +kernel
  cases hok : (evaluate (Registry.builtins ⟨2026, 1, 1⟩) codeProfile
      (.texts (FieldMap.ofList [("code", "abc")]))).outcome with
  | error fault =>
    rw [hok] at hends
    cases hends
  | ok results =>
    have hstands : (Reading.of (Registry.builtins ⟨2026, 1, 1⟩) codeProfile
        (.texts (FieldMap.ofList [("code", "abc")]))).Stands "code" (.scalar "abc") :=
      .submitted ⟨by decide +kernel, by decide, by decide⟩ (Or.inl (.declared (by decide)))
    have huntaint : ¬ (Reading.of (Registry.builtins ⟨2026, 1, 1⟩) codeProfile
        (.texts (FieldMap.ofList [("code", "abc")]))).Untainted "code" := by
      simp [Reading.Untainted, Reading.of, codeProfile]
    have hparams : ∀ spec ∈ codeData.constraintsFor "code", spec.OwnParams "code" := by
      have hspecs : codeData.constraintsFor "code" = [
          .structured (.named "min_length") none (some [.literal "5"]) none, .named "state",
          .structured (.named "max_length") none (some [.literal "2"]) none] := rfl
      rw [hspecs]
      simp [ConstraintSpec.OwnParams]
    have hnames := evaluate_names_failures hread hok hstands huntaint hparams
    have hfailing : failingNames (Registry.builtins ⟨2026, 1, 1⟩) "code" (.scalar "abc")
        (codeData.constraintsFor "code") = ["min_length", "state", "max_length"] := by decide +kernel
    refine ⟨results, hread, rfl, ?_⟩
    rw [← hfailing]
    refine hnames.2 (hnames.1.2 ?_)
    rw [← failingNames_ne_nil_iff, hfailing]
    simp

end FormValidation
