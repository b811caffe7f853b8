import FormValidation.Proofs.Checking.KeptContent
import FormValidation.Proofs.Classification.Names

/-!
# No empty scalar is valid

Submitted fields that filters left empty are stripped before constraints are checked, and a default stands as the
profile has it. From then on only untainting changes values, and over the built-in registry it never leaves an empty
text. So no valid field holds the empty scalar, unless the profile asks for empty optional fields to be put back.
-/

set_option autoImplicit false

namespace FormValidation

/-- Where no default is the empty scalar, no field stands with it when constraints are checked. -/
theorem Reading.Stands.ne_emptyScalar {r : Reading} {field : String} {value : FieldValue} (h : r.Stands field value)
    (hdefaults : ∀ other, r.profile.defaults.get? other ≠ some (.scalar "")) : value ≠ .scalar "" := by
  cases h with
  | submitted hstays _ => exact hstays.2.1
  | default _ hdefault =>
    rintro rfl
    exact hdefaults field hdefault

/-- A profile that was read from data never makes the empty scalar valid over the built-in registry, whatever its
constraints are, what they are called with, and which fields are untainted, if it has no such default and does not put
empty fields back. -/
theorem evaluate_valid_holds_content {data : Json} {profile : Profile} (hread : Profile.ofJson data = .ok profile)
    (hfill : profile.missingOptionalValid = false)
    (hdefaults : ∀ field, profile.defaults.get? field ≠ some (.scalar ""))
    {today : Date} {input : Source} {results : ValidationResults}
    (hok : (evaluate (Registry.builtins today) profile input).outcome = .ok results) (field : String) :
    results.valid.get? field ≠ some (.scalar "") := by
  obtain ⟨prep, after, h⟩ := evaluated_of_ok hok
  have hbuiltin : ∀ name function, (Registry.builtins today).constraint name = .ok function →
      function.WritesNothing ∧ function.KeepsContent := by
    intro name function hfunction
    have hconfined : function.Confined := Registry.confined_of_builtins hfunction
    exact ⟨hconfined.writesNothing, Registry.keepsContent_of_builtins hfunction⟩
  have hattached : ∀ other, ∀ c ∈ (prep.constraints.expand (prep.before profile input).working).listAt other,
      c.KeepsContent := by
    intro other c hc
    obtain ⟨spec, hspec, hcompile⟩ := ConstraintPlan.exists_spec_of_mem
      (r := Reading.of (Registry.builtins today) profile input) h.resolved.constraints hc
    exact CompiledConstraint.keepsContent_of_compile hcompile (Reading.callsOnly_of_builtins hread hbuiltin hspec)
  have hbefore : Record.HoldsContent (prep.before profile input).working := by
    intro other hother
    exact ((h.stands_iff other _).1 hother).ne_emptyScalar hdefaults rfl
  rw [h.get?_valid, if_neg fun hput => by simp [hfill] at hput]
  exact checkAll_holdsContent h.checked hattached hbefore field

/-- Data with a constraint that is called with the value of another field; what it keeps of it takes the place of the
value of its own. -/
def billingData : Json := .object [
  ("required", .array [.string "code", .string "zip"]),
  ("constraints", .object [
    ("code", .object [("constraint", .string "zip_or_postcode"), ("params", .array [.string "zip"])])]),
  ("untaint_all_constraints", .bool true)]

/-- The profile that is read from the data. -/
def billingProfile : Profile where
  required := ["code", "zip"]
  constraints := FieldMap.ofList [("code", [.structured (.named "zip_or_postcode") none (some [.field "zip"]) none])]
  untaintAll := true

/-- The code becomes what is kept of the other field, and no field is the empty scalar. -/
theorem evaluate_valid_holds_content_billingData :
    ∃ results, Profile.ofJson billingData = .ok billingProfile ∧
      (evaluate (Registry.builtins ⟨2026, 1, 1⟩) billingProfile
        (.texts (FieldMap.ofList [("code", "as above"), ("zip", " 12345 ")]))).outcome = .ok results ∧
      results.valid.get? "code" = some (.scalar "12345") ∧
      ∀ field, results.valid.get? field ≠ some (.scalar "") := by
  have hread : Profile.ofJson billingData = .ok billingProfile := rfl
  have hvalid : ((evaluate (Registry.builtins ⟨2026, 1, 1⟩) billingProfile
      (.texts (FieldMap.ofList [("code", "as above"), ("zip", " 12345 ")]))).outcome.toOption.map fun results =>
        results.valid.get? "code") = some (some (.scalar "12345")) := by decide +kernel
  cases hok : (evaluate (Registry.builtins ⟨2026, 1, 1⟩) billingProfile
      (.texts (FieldMap.ofList [("code", "as above"), ("zip", " 12345 ")]))).outcome with
  | error fault =>
    rw [hok] at hvalid
    cases hvalid
  | ok results =>
    rw [hok] at hvalid
    refine ⟨results, hread, rfl, Option.some.inj hvalid, ?_⟩
    exact evaluate_valid_holds_content hread rfl (fun field hdefault => by cases hdefault) hok

end FormValidation
