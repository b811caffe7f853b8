import FormValidation.Proofs.Checking.FixedView
import FormValidation.Proofs.Checking.Splitting
import FormValidation.Proofs.Classification.Names
import FormValidation.Proofs.Classification.Untainting
import FormValidation.Proofs.Registry.Builtins

/-!
# Comparing a field with another one

The method `eq_with` is called for each element of its field and compares it with the text of its parameter, which is
the first element of the other field. So it is no comparison of two values: a field is valid when each of its elements
that has content equals the first element of the other field (`evaluate_compares_elements`). For two scalars this is
equality; for lists it is not, in either direction.
-/

set_option autoImplicit false

namespace FormValidation

/-! ## One constraint that names a function -/

namespace ConstraintSpec

/-- The constraint calls the function that a registry has under a name. -/
def Calls (name : String) : ConstraintSpec → Prop
  | named other => other = name
  | structured base _ _ _ => base.Calls name
  | _ => False

variable {registry : Registry} {spec : ConstraintSpec} {c : CompiledConstraint}

/-- What such a constraint compiles to calls the function of the registry. -/
theorem Calls.callable_of_compile {name : String} (hcalls : spec.Calls name) (h : spec.compile registry = .ok c) :
    ∃ function, registry.constraint name = .ok function ∧ c.callable = .ofFunction function := by
  induction spec generalizing c with
  | named other =>
    obtain ⟨function, hfunction, rfl⟩ := compile_named_eq_ok_iff.1 h
    exact ⟨function, hcalls ▸ hfunction, rfl⟩
  | pattern p => exact hcalls.elim
  | callable name function => exact hcalls.elim
  | structured base name params isMethod ih =>
    obtain ⟨inner, hinner, rfl⟩ := compile_structured_eq_ok_iff.1 h
    exact ih (c := inner) hcalls hinner

end ConstraintSpec

/-- A field is compared with another one: `eq_with` is its only constraint and has the other field as its only
parameter, the other field has no constraints, and the field is not untainted. -/
structure Reading.Compares (r : Reading) (field other : String) : Prop where
  compared : ∃ spec, r.constraints field = [spec] ∧ spec.Calls "eq_with" ∧ spec.callParams = some [.field other]
  unchecked : r.constraints other = []
  distinct : other ≠ field
  plain : ¬ r.Untainted field

/-! ## The comparison of one element -/

/-- The constraint that accepts one text only. -/
def acceptsOnly (name : String) (wanted : Option String) : CompiledConstraint :=
  ⟨name, .plain fun params =>
    { outcome := .ok (Verdict.check (wanted == paramText params 0) ((paramText params 0).getD "")) }, none⟩

/-- It refuses every text with content but the wanted one. -/
theorem acceptsOnly_refuses {name field text : String} {wanted : Option String} :
    (acceptsOnly name wanted).refuses field text ↔ text ≠ "" ∧ wanted ≠ some text := by
  have houtcome : ((acceptsOnly name wanted).invoke (Context.alone field (.scalar text) text)).outcome =
      .ok (Verdict.check (wanted == some text) text) := rfl
  unfold CompiledConstraint.refuses CompiledConstraint.rejects
  rw [houtcome]
  by_cases hwanted : wanted = some text <;> simp [hwanted, Verdict.check]

/-- As long as the other field keeps its value, each element is compared with the first element of this value. -/
theorem eqWith_actsAs {c : CompiledConstraint} {site : CheckSite} {other : String} {start : Record} {value : FieldValue}
    (hcallable : c.callable = .ofFunction (.ofContext Method.eqWith)) (hparams : c.params = some [.field other])
    (hdistinct : other ≠ site.field) (hvalue : start.get? other = some value) :
    c.ActsAs (acceptsOnly c.name (value.element? 0)) site [other] start where
  name := rfl
  seesElement := ⟨by simp [acceptsOnly], by simp [acceptsOnly, CompiledConstraint.OwnParams]⟩
  others := by simpa using hdistinct.symm
  invoke p hp text := by
    have hother : p.working.get? other = some value := (hp other List.mem_cons_self).trans hvalue
    have hvalues : c.paramValues site.field text p.working = [some value] := by
      rw [CompiledConstraint.paramValues, hparams]
      dsimp only
      rw [List.map_singleton, CompiledConstraint.paramValue, if_neg hdistinct, hother]
    unfold CompiledConstraint.invoke Progress.context
    dsimp only
    rw [hcallable, hvalues]
    rfl

/-- The check of a field by the comparison fails when some element with content differs from the first element of the
other field. -/
theorem checkConstraints_eqWith {c : CompiledConstraint} {limit : Nat} {site : CheckSite} {other : String}
    {p after : Progress} {value otherValue : FieldValue} {failures : List String}
    (hcallable : c.callable = .ofFunction (.ofContext Method.eqWith)) (hparams : c.params = some [.field other])
    (hdistinct : other ≠ site.field) (hvalue : p.working.get? site.field = some value)
    (hother : p.working.get? other = some otherValue)
    (hrun : checkConstraints limit site [c] [] p = (after, .ok failures)) :
    failures = [] ↔ ∀ text ∈ value.elements, text ≠ "" → otherValue.element? 0 = some text := by
  have hacts : c.ActsAs (acceptsOnly c.name (otherValue.element? 0)) site [other] p.working :=
    eqWith_actsAs hcallable hparams hdistinct hother
  rw [checkConstraints_eq_of_actsAs hacts fun _ _ => rfl] at hrun
  have hlocal : ∀ c' ∈ [acceptsOnly c.name (otherValue.element? 0)], c'.Local site.field :=
    List.forall_mem_singleton.2 hacts.seesElement
  rw [(checkConstraints_of_local hlocal hvalue hrun).2, refusedNames_cons]
  have hrest : ∀ texts, refusedNames site.untaint site.field [] texts = [] := fun _ => rfl
  rw [hrest, List.append_nil, ite_eq_right_iff]
  simp only [List.cons_ne_nil, imp_false, List.any_eq_true, not_exists, not_and, acceptsOnly_refuses, not_not]

/-! ## A form with a password -/

/-- A required field that no filter is meant for stands with what was submitted, if this is neither the empty scalar nor
the empty list. -/
theorem Reading.stands_of_unfiltered {r : Reading} {field : String} {value : FieldValue}
    (hfilters : r.filters field = []) (hrequired : field ∈ r.profile.required)
    (hvalue : r.submitted.get? field = some value) (hcontent : value ≠ .scalar "" ∧ value ≠ .list []) :
    r.Stands field value := by
  have hkept : r.filtered? field = some value := by
    unfold Reading.filtered?
    rw [hfilters, hvalue]
    cases value with
    | scalar text => rfl
    | list texts => exact congrArg (fun kept => some (FieldValue.list kept)) (List.map_id' texts)
  exact .submitted ⟨hkept, hcontent⟩ (Or.inl (.declared hrequired))

/-- A form with a password that has to be confirmed. -/
def passwordForm : Profile where
  required := ["password", "confirm"]
  constraints := FieldMap.ofList [
    ("confirm", [.structured (.named "eq_with") none (some [.field "password"]) (some true)])]

/-- A password and what was submitted to confirm it. -/
def submittedPasswords (password confirm : FieldValue) : Source :=
  .record (FieldMap.ofList [("confirm", confirm), ("password", password)])

section PasswordForm

variable (today : Date) (password confirm : FieldValue)

/-- The form compares the confirmation with the password. -/
theorem passwordForm_compares : (Reading.of (Registry.builtins today) passwordForm
    (submittedPasswords password confirm)).Compares "confirm" "password" :=
  ⟨⟨_, rfl, rfl, rfl⟩, rfl, by decide, by simp [Reading.Untainted, Reading.of, passwordForm]⟩

/-- Both passwords stand when neither is empty. -/
theorem passwordForm_stands (hpassword : password ≠ .scalar "" ∧ password ≠ .list [])
    (hconfirm : confirm ≠ .scalar "" ∧ confirm ≠ .list []) :
    (Reading.of (Registry.builtins today) passwordForm
      (submittedPasswords password confirm)).Stands "confirm" confirm ∧
    (Reading.of (Registry.builtins today) passwordForm
      (submittedPasswords password confirm)).Stands "password" password := by
  have hread : ∀ name, (submittedPasswords password confirm).toRecord.get? name =
      FieldMap.lookup name [("confirm", confirm), ("password", password)] :=
    FieldMap.get?_ofList (l := [("confirm", confirm), ("password", password)]) (by simp)
  exact ⟨Reading.stands_of_unfiltered rfl (List.mem_cons_of_mem _ List.mem_cons_self) (hread "confirm") hconfirm,
    Reading.stands_of_unfiltered rfl List.mem_cons_self (hread "password") hpassword⟩

end PasswordForm

/-! ## The comparison in an evaluation -/

namespace Evaluated

variable {registry : Registry} {profile : Profile} {input : Source} {results : ValidationResults} {prep : Preparation}
  {after : Progress} {field : String} {value : FieldValue}

/-- A present field is valid unless it was found invalid. -/
theorem valid_iff_of_present (h : Evaluated registry profile input results prep after)
    (hpresent : (Reading.of registry profile input).Present field) :
    results.valid.contains field ↔ ¬ results.invalid.contains field := by
  rw [h.valid_iff]
  constructor
  · rintro (hstands | ⟨-, -, hunclaimed⟩) hrejected
    · exact h.separated.found_absent field hrejected hstands
    · exact ((h.isUnclaimed_iff field).1 hunclaimed).2.1 hrejected
  · intro hpassed
    exact Or.inl ((h.separated.accounted field ((h.present_iff field).2 hpresent)).resolve_right hpassed)

/-- The constraints that are attached to a field that stands are those that the profile has for it. -/
theorem forall₂_attached (h : Evaluated registry profile input results prep after)
    (hstands : (Reading.of registry profile input).Stands field value) :
    List.Forall₂ (fun spec c => spec.compile (Reading.of registry profile input).registry = .ok c)
      ((Reading.of registry profile input).constraints field)
      ((prep.constraints.expand (prep.before profile input).working).listAt field) := by
  have hcompile := ConstraintPlan.forall₂_listAt_expand (r := Reading.of registry profile input)
    h.resolved.constraints (prep.before profile input).working field
  rw [if_pos ((h.present_iff field).2 ⟨value, hstands⟩)] at hcompile
  exact hcompile

/-- When a field that stands with constraints has its turn, it still has the value with which it stands, and so has
every field that stands without constraints, when no call for an earlier field wrote them. The field is valid when none
of its constraints fails then. -/
theorem exists_turn (h : Evaluated registry profile input results prep after)
    (hvalue : (Reading.of registry profile input).Stands field value)
    (hchecked : (prep.constraints.expand (prep.before profile input).working).listAt field ≠ [])
    (hunwritten : ∀ v ∈ (evaluate registry profile input).visits, v.field < field → ¬ v.Writes field) :
    ∃ before middle failures, before.working.get? field = some value ∧
      (∀ other otherValue, (Reading.of registry profile input).Stands other otherValue →
        (Reading.of registry profile input).constraints other = [] →
        (∀ v ∈ (evaluate registry profile input).visits, v.field < field → ¬ v.Writes other) →
        before.working.get? other = some otherValue) ∧
      checkConstraints visitLimit ⟨field, prep.untaint.applies field, input⟩
        ((prep.constraints.expand (prep.before profile input).working).listAt field) [] before =
          (middle, .ok failures) ∧
      (results.valid.contains field ↔ failures = []) := by
  rw [h.visits] at hunwritten ⊢
  simp only [List.mem_reverse] at hunwritten ⊢
  obtain ⟨before, middle, failures, hkept, hrun, hfound⟩ := FormValidation.exists_turn h.checked
    ((h.present_iff field).2 ⟨value, hvalue⟩) hchecked hunwritten
  refine ⟨before, middle, failures, ?_, fun other otherValue hother hunchecked hquiet => ?_, hrun, ?_⟩
  · rw [hkept field (Or.inl rfl) hunwritten]
    exact (h.stands_iff field value).2 hvalue
  · have hnone := h.forall₂_attached hother
    rw [hunchecked, List.forall₂_nil_left_iff] at hnone
    rw [hkept other (Or.inr hnone) hquiet]
    exact (h.stands_iff other otherValue).2 hother
  · rw [h.valid_iff_of_present ⟨value, hvalue⟩, FieldMap.contains_iff, hfound, failedWith]
    split
    next hnil => simp [hnil]
    next hne => simp [hne]

/-- To a field that is compared with another one, the comparison is attached, and nothing else. -/
theorem exists_comparison {today : Date} {other : String}
    (h : Evaluated (Registry.builtins today) profile input results prep after)
    (hcompares : (Reading.of (Registry.builtins today) profile input).Compares field other)
    (hvalue : (Reading.of (Registry.builtins today) profile input).Stands field value) :
    ∃ c, (prep.constraints.expand (prep.before profile input).working).listAt field = [c] ∧
      c.callable = .ofFunction (.ofContext Method.eqWith) ∧ c.params = some [.field other] := by
  obtain ⟨spec, hspec, hcalls, hcallParams⟩ := hcompares.compared
  have hattached := h.forall₂_attached hvalue
  rw [hspec, Reading.registry_builtins, List.forall₂_cons_left_iff] at hattached
  obtain ⟨c, rest, hcompile, hrest, hlist⟩ := hattached
  rw [List.forall₂_nil_left_iff.1 hrest] at hlist
  obtain ⟨function, hfunction, hcallable⟩ := hcalls.callable_of_compile hcompile
  have hknown : (Registry.builtins today).constraint "eq_with" = .ok (.ofContext Method.eqWith) :=
    Registry.constraint_of_lookup rfl
  rw [Except.ok.inj (hfunction.symm.trans hknown)] at hcallable
  exact ⟨c, hlist, hcallable, (ConstraintSpec.params_of_compile hcompile).trans hcallParams⟩

end Evaluated

/-- Over the built-in registry, a field that stands and is compared with another one that stands is valid just when each
of its elements with content equals the first element of the other one, if no call for an earlier field writes either of
them. So two scalars are compared as a whole. -/
theorem evaluate_compares_elements {today : Date} {profile : Profile} {input : Source} {results : ValidationResults}
    (hok : (evaluate (Registry.builtins today) profile input).outcome = .ok results) {field other : String}
    {value otherValue : FieldValue}
    (hcompares : (Reading.of (Registry.builtins today) profile input).Compares field other)
    (hvalue : (Reading.of (Registry.builtins today) profile input).Stands field value)
    (hother : (Reading.of (Registry.builtins today) profile input).Stands other otherValue)
    (hunwritten : ∀ v ∈ (evaluate (Registry.builtins today) profile input).visits, v.field < field →
      ¬ v.Writes field ∧ ¬ v.Writes other) :
    (results.valid.contains field ↔ ∀ text ∈ value.elements, text ≠ "" → otherValue.element? 0 = some text) ∧
    (¬ value.isList → ¬ otherValue.isList → value ≠ .scalar "" →
      (results.valid.contains field ↔ value = otherValue)) := by
  obtain ⟨prep, after, h⟩ := evaluated_of_ok hok
  obtain ⟨c, hlist, hcallable, hparams⟩ := h.exists_comparison hcompares hvalue
  have hchecked : (prep.constraints.expand (prep.before profile input).working).listAt field ≠ [] := by
    rw [hlist]
    exact List.cons_ne_nil c []
  obtain ⟨before, middle, failures, hnow, hothers, hrun, hvalid⟩ :=
    h.exists_turn hvalue hchecked fun v hv hearlier => (hunwritten v hv hearlier).1
  have hotherNow : before.working.get? other = some otherValue :=
    hothers other otherValue hother hcompares.unchecked fun v hv hearlier => (hunwritten v hv hearlier).2
  rw [hlist] at hrun
  have hiff : results.valid.contains field ↔
      ∀ text ∈ value.elements, text ≠ "" → otherValue.element? 0 = some text :=
    hvalid.trans (checkConstraints_eqWith hcallable hparams hcompares.distinct hnow hotherNow hrun)
  refine ⟨hiff, fun hscalar hotherScalar hcontent => hiff.trans ?_⟩
  cases value with
  | list texts => exact absurd rfl hscalar
  | scalar text =>
    cases otherValue with
    | list texts => exact absurd rfl hotherScalar
    | scalar otherText =>
      have htext : text ≠ "" := fun hempty => hcontent (congrArg FieldValue.scalar hempty)
      simp [FieldValue.elements, FieldValue.element?, htext, eq_comm]

/-- Two passwords are confirmed by the first of them, given twice. -/
theorem evaluate_compares_elements_passwords :
    ∃ results, (evaluate (Registry.builtins ⟨2026, 1, 1⟩) passwordForm
        (submittedPasswords (.list ["a", "b"]) (.list ["a", "", "a"]))).outcome = .ok results ∧
      results.valid.contains "confirm" := by
  have hsilent : ∀ v ∈ (evaluate (Registry.builtins ⟨2026, 1, 1⟩) passwordForm
      (submittedPasswords (.list ["a", "b"]) (.list ["a", "", "a"]))).visits, v.WritesNothing := by decide +kernel
  have houtcome : (evaluate (Registry.builtins ⟨2026, 1, 1⟩) passwordForm
      (submittedPasswords (.list ["a", "b"]) (.list ["a", "", "a"]))).outcome.isOk = true := by decide +kernel
  obtain ⟨hconfirm, hpassword⟩ :=
    passwordForm_stands ⟨2026, 1, 1⟩ (.list ["a", "b"]) (.list ["a", "", "a"]) (by decide) (by decide)
  cases hok : (evaluate (Registry.builtins ⟨2026, 1, 1⟩) passwordForm
      (submittedPasswords (.list ["a", "b"]) (.list ["a", "", "a"]))).outcome with
  | error fault =>
    rw [hok] at houtcome
    cases houtcome
  | ok results =>
    have hfirst := (evaluate_compares_elements hok (passwordForm_compares _ _ _) hconfirm hpassword
      fun v hv _ => ⟨(hsilent v hv).not_writes "confirm", (hsilent v hv).not_writes "password"⟩).1
    exact ⟨results, rfl, hfirst.2 (by decide)⟩

/-! ## Lists are not compared as a whole -/

/-- Whether equality of the two values decides about a field that is compared with another one, where nothing is
untainted and all elements have content. -/
def EqualityDecides (today : Date) (profile : Profile) (input : Source) (field other : String) : Prop :=
  ∀ results value otherValue, (evaluate (Registry.builtins today) profile input).outcome = .ok results →
    (Reading.of (Registry.builtins today) profile input).Compares field other →
    (∀ name, ¬ (Reading.of (Registry.builtins today) profile input).Untainted name) →
    (Reading.of (Registry.builtins today) profile input).Stands field value →
    (Reading.of (Registry.builtins today) profile input).Stands other otherValue →
    (∀ text ∈ value.elements, text ≠ "") → (∀ text ∈ otherValue.elements, text ≠ "") →
    (results.valid.contains field ↔ value = otherValue)

/-- Equality does not decide where a field is valid although the values differ, or not valid although they are equal. -/
theorem not_equalityDecides {today : Date} {profile : Profile} {input : Source} {field other : String}
    {value otherValue : FieldValue}
    (hcompares : (Reading.of (Registry.builtins today) profile input).Compares field other)
    (huntaint : ∀ name, ¬ (Reading.of (Registry.builtins today) profile input).Untainted name)
    (hvalue : (Reading.of (Registry.builtins today) profile input).Stands field value)
    (hother : (Reading.of (Registry.builtins today) profile input).Stands other otherValue)
    (hcontent : (∀ text ∈ value.elements, text ≠ "") ∧ ∀ text ∈ otherValue.elements, text ≠ "")
    (hdiffers : ((evaluate (Registry.builtins today) profile input).outcome.toOption.map fun results =>
      results.valid.contains field) = some !decide (value = otherValue)) :
    ¬ EqualityDecides today profile input field other := by
  intro hdecides
  cases hok : (evaluate (Registry.builtins today) profile input).outcome with
  | error fault =>
    rw [hok] at hdiffers
    cases hdiffers
  | ok results =>
    rw [hok] at hdiffers
    have hvalid : results.valid.contains field = !decide (value = otherValue) := Option.some.inj hdiffers
    have hiff := hdecides results value otherValue hok hcompares huntaint hvalue hother hcontent.1 hcontent.2
    by_cases hsame : value = otherValue <;> simp [hvalid, hsame] at hiff

/-- The form with an alias whose method writes the password. -/
def aliasForm : Profile where
  required := ["password", "confirm"]
  optional := ["alias"]
  constraints := FieldMap.ofList [
    ("alias", [.method fun context _ =>
      { outcome := .ok (.matched context.value), writes := [("password", .scalar "x")] }]),
    ("confirm", [.structured (.named "eq_with") none (some [.field "password"]) (some true)])]

/-- A password, its confirmation, and an alias. -/
def submittedAlias : Source :=
  .record (FieldMap.ofList [("alias", .scalar "z"), ("confirm", .scalar "a"), ("password", .scalar "a")])

/-- Equal lists of two elements are invalid, different ones can be valid, and equal scalars are invalid when the
password is replaced before it is compared. -/
theorem equality_does_not_decide :
    ¬ EqualityDecides ⟨2026, 1, 1⟩ passwordForm (submittedPasswords (.list ["a", "b"]) (.list ["a", "b"])) "confirm"
        "password" ∧
    ¬ EqualityDecides ⟨2026, 1, 1⟩ passwordForm (submittedPasswords (.list ["a", "b"]) (.list ["a", "a"])) "confirm"
        "password" ∧
    ¬ EqualityDecides ⟨2026, 1, 1⟩ aliasForm submittedAlias "confirm" "password" := by
  refine ⟨?_, ?_, ?_⟩
  · obtain ⟨hconfirm, hpassword⟩ :=
      passwordForm_stands ⟨2026, 1, 1⟩ (.list ["a", "b"]) (.list ["a", "b"]) (by decide) (by decide)
    exact not_equalityDecides (passwordForm_compares _ _ _) (by simp [Reading.Untainted, Reading.of, passwordForm])
      hconfirm hpassword (by decide) (by decide +kernel)
  · obtain ⟨hconfirm, hpassword⟩ :=
      passwordForm_stands ⟨2026, 1, 1⟩ (.list ["a", "b"]) (.list ["a", "a"]) (by decide) (by decide)
    exact not_equalityDecides (passwordForm_compares _ _ _) (by simp [Reading.Untainted, Reading.of, passwordForm])
      hconfirm hpassword (by decide) (by decide +kernel)
  · have hcompares : (Reading.of (Registry.builtins ⟨2026, 1, 1⟩) aliasForm submittedAlias).Compares "confirm"
        "password" := ⟨⟨_, rfl, rfl, rfl⟩, rfl, by decide, by simp [Reading.Untainted, Reading.of, aliasForm]⟩
    exact not_equalityDecides hcompares (by simp [Reading.Untainted, Reading.of, aliasForm])
      (Reading.stands_of_unfiltered rfl (List.mem_cons_of_mem _ List.mem_cons_self) rfl (by decide))
      (Reading.stands_of_unfiltered rfl List.mem_cons_self rfl (by decide)) (by decide) (by decide +kernel)

end FormValidation
