import FormValidation.Proofs.Checking.Narrowing
import FormValidation.Proofs.Classification.Classes

/-!
# Untainting only narrows

A valid field that carries patterns only has the value that it stands with by the reading of the profile, narrowed
element by element when the field is untainted, and unchanged when it is not. There is one exception: a field that was
submitted as a list without elements may be put back, and is then valid with an empty text in place of the list.
-/

set_option autoImplicit false

namespace FormValidation

namespace ConstraintSpec

/-- The constraint is a pattern. -/
def IsPattern : ConstraintSpec → Prop
  | pattern _ => True
  | structured base _ _ _ => base.IsPattern
  | _ => False

/-- The parameters with which the constraint is called: those of the outermost layer that has some. -/
def callParams : ConstraintSpec → Option (List Param)
  | structured base _ params _ => params.or base.callParams
  | _ => none

/-- The constraint is a pattern, without parameters or with the checked field only. -/
structure MatchesOwn (field : String) (spec : ConstraintSpec) : Prop where
  isPattern : spec.IsPattern
  params (listed : List Param) (h : spec.callParams = some listed) : ∀ param ∈ listed, param = .field field

variable {registry : Registry} {spec : ConstraintSpec} {c : CompiledConstraint}

/-- A compiled constraint has the parameters of its specification. -/
theorem params_of_compile (h : spec.compile registry = .ok c) : c.params = spec.callParams := by
  induction spec generalizing c with
  | named name =>
    obtain ⟨function, -, rfl⟩ := compile_named_eq_ok_iff.1 h
    rfl
  | pattern p =>
    obtain ⟨regex, -, rfl⟩ := compile_pattern_eq_ok_iff.1 h
    rfl
  | callable name function =>
    cases compile_callable_eq_ok_iff.1 h
    rfl
  | structured base name params isMethod ih =>
    obtain ⟨inner, hinner, rfl⟩ := compile_structured_eq_ok_iff.1 h
    show params.or inner.params = params.or base.callParams
    rw [ih hinner]

/-- A pattern compiles to a pattern. -/
theorem IsPattern.callable_of_compile (hpattern : spec.IsPattern) (h : spec.compile registry = .ok c) :
    ∃ regex, c.callable = .pattern regex := by
  induction spec generalizing c with
  | named name => exact hpattern.elim
  | pattern p =>
    obtain ⟨regex, -, rfl⟩ := compile_pattern_eq_ok_iff.1 h
    exact ⟨regex, rfl⟩
  | callable name function => exact hpattern.elim
  | structured base name params isMethod ih =>
    obtain ⟨inner, hinner, rfl⟩ := compile_structured_eq_ok_iff.1 h
    exact ih (c := inner) hpattern hinner

/-- A pattern that sees the checked field only compiles to a constraint that matches its own element. -/
theorem MatchesOwn.compiled {field : String} (hown : spec.MatchesOwn field) (h : spec.compile registry = .ok c) :
    c.MatchesOwn field := by
  refine ⟨hown.isPattern.callable_of_compile h, ?_⟩
  rw [params_of_compile h]
  exact hown.params

end ConstraintSpec

section Valid

variable {registry : Registry} {profile : Profile} {input : Source} {results : ValidationResults} {prep : Preparation}
  {after : Progress} {field : String} {value : FieldValue}

/-- A submitted field that is optional and does not stand was left with an empty text or a list without elements. -/
theorem Reading.filtered?_of_not_present {r : Reading} (hsubmitted : r.submitted.contains field)
    (hoptional : r.Optional field) (habsent : ¬ r.Present field) :
    r.filtered? field = some (.scalar "") ∨ r.filtered? field = some (.list []) := by
  obtain ⟨submitted, hvalue⟩ := FieldMap.contains_iff.1 hsubmitted
  have hfiltered : ∃ value, r.filtered? field = some value := by
    rw [filtered?, hvalue]
    exact ⟨_, rfl⟩
  obtain ⟨value, hfiltered⟩ := hfiltered
  by_cases hscalar : value = .scalar ""
  · exact Or.inl (hscalar ▸ hfiltered)
  · by_cases hlist : value = .list []
    · exact Or.inr (hlist ▸ hfiltered)
    · -- any other value stays, and so does a known field
      exact absurd ⟨value, .submitted ⟨hfiltered, hscalar, hlist⟩ (Or.inr (Or.inl hoptional))⟩ habsent

/-- A field that is put back does not stand by the reading of the profile, and was left empty. -/
theorem Evaluated.eq_of_unclaimed (h : Evaluated registry profile input results prep after)
    (hsubmitted : input.toRecord.contains field)
    (hunclaimed : (prep.before profile input).isUnclaimed after.working results.invalid field) :
    ¬ (Reading.of registry profile input).Present field ∧
      ((Reading.of registry profile input).filtered? field = some (.scalar "") ∨
        (Reading.of registry profile input).filtered? field = some (.list [])) := by
  obtain ⟨hgone, hinvalid, -, hoptional⟩ := (h.isUnclaimed_iff field).1 hunclaimed
  have habsent : ¬ (Reading.of registry profile input).Present field := by
    intro hpresent
    exact (h.separated.accounted field ((h.present_iff field).2 hpresent)).elim hgone hinvalid
  exact ⟨habsent, Reading.filtered?_of_not_present hsubmitted hoptional habsent⟩

end Valid

/-- Untainting only narrows. Let a field carry patterns only, without parameters or with the field itself, and let no
call write it. If it is valid, then its value is narrowed from the one that it stands with by the reading of the
profile, or from the filtered one if it does not stand, and is the same where the field is not untainted; unless it was
left with a list without elements and put back, which makes it an empty text. -/
theorem evaluate_untaint_narrows {registry : Registry} {profile : Profile} {input : Source}
    {results : ValidationResults} (hok : (evaluate registry profile input).outcome = .ok results) {field : String}
    (hpatterns : ∀ spec ∈ (Reading.of registry profile input).constraints field, spec.MatchesOwn field)
    (hunwritten : ∀ v ∈ (evaluate registry profile input).visits, ¬ v.Writes field) {value : FieldValue}
    (hvalid : results.valid.get? field = some value) :
    (∃ original, ((Reading.of registry profile input).Stands field original ∨
        ¬ (Reading.of registry profile input).Present field ∧
          (Reading.of registry profile input).filtered? field = some original) ∧
      original.NarrowedFrom value ∧ (¬ (Reading.of registry profile input).Untainted field → value = original)) ∨
    profile.missingOptionalValid ∧ ¬ (Reading.of registry profile input).Present field ∧
      (Reading.of registry profile input).filtered? field = some (.list []) ∧ value = .scalar "" := by
  obtain ⟨prep, after, h⟩ := evaluated_of_ok hok
  rw [h.visits] at hunwritten
  have hunwritten : ∀ v ∈ after.visits, ¬ v.Writes field := fun v hv => hunwritten v (List.mem_reverse.2 hv)
  rw [h.get?_valid] at hvalid
  split at hvalid
  next hfill =>
    obtain ⟨hfilled, hsubmitted, hunclaimed⟩ := hfill
    obtain ⟨habsent, hscalar | hlist⟩ := h.eq_of_unclaimed hsubmitted hunclaimed
    · left
      cases hvalid
      exact ⟨_, Or.inr ⟨habsent, hscalar⟩, FieldValue.narrowedFrom_refl _, fun _ => rfl⟩
    · right
      exact ⟨hfilled, habsent, hlist, (Option.some.inj hvalid).symm⟩
  next =>
    left
    have hattached : ∀ c ∈ (prep.constraints.expand (prep.before profile input).working).listAt field,
        c.MatchesOwn field := by
      intro c hc
      obtain ⟨spec, hspec, hcompile⟩ :=
        ConstraintPlan.exists_spec_of_mem (r := Reading.of registry profile input) h.resolved.constraints hc
      exact (hpatterns spec hspec).compiled hcompile
    have hfound : results.invalid.get? field = none := by
      rw [FieldMap.get?_eq_none_iff]
      exact fun hinvalid => h.separated.found_absent field hinvalid (FieldMap.contains_of_get? hvalid)
    cases hstart : (prep.before profile input).working.get? field with
    | none =>
      -- a field that is never written does not come to stand
      have hgone := get?_of_checkAll_unwritten h.checked hstart fun v hv _ => hunwritten v hv
      rw [hgone] at hvalid
      cases hvalid
    | some original =>
      obtain ⟨kept, hkept, hnarrowed, huntouched⟩ := checkAll_narrows h.checked hattached hunwritten hstart hfound
      obtain rfl : kept = value := Option.some.inj (hkept.symm.trans hvalid)
      refine ⟨original, Or.inl ((h.stands_iff field original).1 hstart), hnarrowed, fun hnot => huntouched ?_⟩
      have huntaint := UntaintPolicy.applies_iff h.resolved.untaint (registry.mergePackages profile.packages).1
        input.toRecord field
      rw [Bool.eq_false_iff]
      exact fun happlies => hnot (huntaint.1 happlies)

/-- A form with codes and tags, of which the matched parts are kept. -/
def partsForm : Profile where
  optional := ["codes", "tags"]
  constraints := FieldMap.ofList [
    ("codes", [.pattern (.delimited "/[a-z]?[0-9]+/"),
      .structured (.pattern (.delimited "/[0-9]+/")) (some "digits") (some [.field "codes"]) none]),
    ("tags", [.pattern (.delimited "/[a-z]+/")])]
  untaintAll := true
  missingOptionalValid := true

/-- What is submitted of the form: some codes, and no tag. -/
def submittedParts : Source :=
  .record (FieldMap.ofList [("codes", .list ["-a12x", "", "7b"]), ("tags", .list [])])

/-- All constraints of the form are patterns that are matched against their own field. -/
theorem partsForm_matchesOwn {field : String} {spec : ConstraintSpec}
    (h : spec ∈ (Reading.of Registry.empty partsForm submittedParts).constraints field) : spec.MatchesOwn field := by
  have hown : spec ∈ partsForm.constraints.listAt field := by
    simpa [Reading.constraints, Reading.of, partsForm, declaredFor] using h
  unfold FieldMap.listAt at hown
  cases hspecs : partsForm.constraints.get? field with
  | none => simp [hspecs] at hown
  | some specs =>
    have hentry := FieldMap.mem_of_get?_ofList hspecs
    rw [hspecs, Option.getD_some] at hown
    simp only [List.mem_cons, Prod.mk.injEq, List.not_mem_nil, or_false] at hentry
    rcases hentry with ⟨rfl, rfl⟩ | ⟨rfl, rfl⟩
    · rcases List.mem_pair.1 hown with rfl | rfl
      · refine ⟨trivial, fun listed hlisted => ?_⟩
        cases hlisted
      · refine ⟨trivial, fun listed hlisted param hparam => ?_⟩
        cases hlisted
        exact List.mem_singleton.1 hparam
    · rw [List.mem_singleton.1 hown]
      refine ⟨trivial, fun listed hlisted => ?_⟩
      cases hlisted

/-- Patterns write nothing. -/
theorem partsForm_unwritten (field : String) :
    ∀ v ∈ (evaluate Registry.empty partsForm submittedParts).visits, ¬ v.Writes field := by
  have hsilent : ∀ v ∈ (evaluate Registry.empty partsForm submittedParts).visits, v.WritesNothing := by decide +kernel
  exact fun v hv => (hsilent v hv).not_writes field

/-- Of each code the digits are kept, and the empty element stays in its place. -/
theorem evaluate_untaint_narrows_partsForm :
    ∃ results, (evaluate Registry.empty partsForm submittedParts).outcome = .ok results ∧
      results.valid.get? "codes" = some (.list ["12", "", "7"]) ∧
      (FieldValue.list ["-a12x", "", "7b"]).NarrowedFrom (.list ["12", "", "7"]) := by
  have hvalid : ((evaluate Registry.empty partsForm submittedParts).outcome.toOption.map fun results =>
      results.valid.get? "codes") = some (some (.list ["12", "", "7"])) := by decide +kernel
  cases hok : (evaluate Registry.empty partsForm submittedParts).outcome with
  | error fault =>
    rw [hok] at hvalid
    cases hvalid
  | ok results =>
    rw [hok] at hvalid
    have hvalue : results.valid.get? "codes" = some (.list ["12", "", "7"]) := Option.some.inj hvalid
    have hfiltered : (Reading.of Registry.empty partsForm submittedParts).filtered? "codes" =
        some (.list ["-a12x", "", "7b"]) := rfl
    refine ⟨results, rfl, hvalue, ?_⟩
    rcases evaluate_untaint_narrows hok (fun spec hspec => partsForm_matchesOwn hspec) (partsForm_unwritten "codes")
      hvalue with ⟨original, hstands | ⟨-, hleft⟩, hnarrowed, -⟩ | ⟨-, -, -, hempty⟩
    · cases hstands with
      | submitted hstays _ =>
        rw [hstays.1, Option.some.injEq] at hfiltered
        exact hfiltered ▸ hnarrowed
      | default _ hdefault => cases hdefault
    · rw [hleft, Option.some.injEq] at hfiltered
      exact hfiltered ▸ hnarrowed
    · cases hempty

/-- The exception does occur: the tags carry patterns only, are untainted, and are not written, and yet their list
becomes an empty text. -/
theorem partsForm_tags_lose_shape :
    (∀ spec ∈ (Reading.of Registry.empty partsForm submittedParts).constraints "tags", spec.MatchesOwn "tags") ∧
      (Reading.of Registry.empty partsForm submittedParts).Untainted "tags" ∧
      (∀ v ∈ (evaluate Registry.empty partsForm submittedParts).visits, ¬ v.Writes "tags") ∧
      ∃ results value original, (evaluate Registry.empty partsForm submittedParts).outcome = .ok results ∧
        results.valid.get? "tags" = some value ∧
        (Reading.of Registry.empty partsForm submittedParts).filtered? "tags" = some original ∧
        ¬ original.NarrowedFrom value := by
  have hvalid : ((evaluate Registry.empty partsForm submittedParts).outcome.toOption.map fun results =>
      results.valid.get? "tags") = some (some (.scalar "")) := by decide +kernel
  refine ⟨fun spec hspec => partsForm_matchesOwn hspec, Or.inl rfl, partsForm_unwritten "tags", ?_⟩
  cases hok : (evaluate Registry.empty partsForm submittedParts).outcome with
  | error fault =>
    rw [hok] at hvalid
    cases hvalid
  | ok results =>
    rw [hok] at hvalid
    refine ⟨results, .scalar "", .list [], rfl, Option.some.inj hvalid, rfl, fun hnarrowed => ?_⟩
    cases hnarrowed.isList

end FormValidation
