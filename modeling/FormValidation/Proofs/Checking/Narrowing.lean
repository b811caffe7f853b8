import FormValidation.Proofs.Checking.Pointwise

/-!
# Patterns narrow texts

A pattern that is matched against the checked element keeps of it what it finds, and finding nothing but the empty text
counts as a rejection. So what any number of patterns leave of a text, one after the other, is a contiguous part of it,
and is empty only if the text was. A value keeps its shape under them, and each of its elements is narrowed in its place.
-/

set_option autoImplicit false

namespace FormValidation

/-! ## Narrowed texts and values -/

/-- What is kept of a text is a contiguous part of it, and is empty only if the text is. -/
structure NarrowedFrom (text kept : String) : Prop where
  part : kept.toList <:+: text.toList
  content (h : kept = "") : text = ""

namespace NarrowedFrom

/-- Every text is narrowed from itself. -/
theorem refl (text : String) : NarrowedFrom text text := ⟨List.infix_refl _, id⟩

/-- What is narrowed from a narrowed text is narrowed from the first one. -/
theorem trans {text middle kept : String} (h : NarrowedFrom text middle) (h' : NarrowedFrom middle kept) :
    NarrowedFrom text kept :=
  ⟨h'.part.trans h.part, fun hempty => h.content (h'.content hempty)⟩

end NarrowedFrom

/-- The value that is kept has the shape of the other, and each of its elements is narrowed from the one in its
place. -/
structure FieldValue.NarrowedFrom (value kept : FieldValue) : Prop where
  isList : kept.isList = value.isList
  elements : List.Forall₂ FormValidation.NarrowedFrom value.elements kept.elements

/-- Every value is narrowed from itself. -/
theorem FieldValue.narrowedFrom_refl (value : FieldValue) : value.NarrowedFrom value :=
  ⟨rfl, List.forall₂_same.2 fun text _ => FormValidation.NarrowedFrom.refl text⟩

/-- A value whose elements were narrowed is narrowed from it. -/
theorem FieldValue.narrowedFrom_map {f : String → String} (h : ∀ text, FormValidation.NarrowedFrom text (f text))
    (value : FieldValue) : value.NarrowedFrom (value.map f) := by
  refine ⟨isList_map f value, ?_⟩
  rw [elements_map, List.forall₂_map_right_iff]
  exact List.forall₂_same.2 fun text _ => h text

/-! ## Patterns -/

/-- What a pattern keeps of a text is a contiguous part of it, and not empty. -/
theorem Regex.narrowed_of_verdict {regex : Regex} {text kept : String} (h : regex.verdict text = .matched kept) :
    kept.toList <:+: text.toList ∧ kept ≠ "" := by
  unfold verdict firstMatch at h
  cases hfind : regex.find text with
  | none => simp [hfind] at h
  | some split =>
    have htext : split.before ++ split.matched ++ split.after = text.toList := Expr.text_of_findFrom hfind
    simp only [hfind, Option.map_some, Verdict.check] at h
    split at h
    next hcontent =>
      simp only [Verdict.matched.injEq] at h
      subst h
      refine ⟨⟨split.before, split.after, by simpa using htext⟩, ?_⟩
      simpa using hcontent
    next => simp at h

/-- The constraint is a pattern, and is called with the checked element only. -/
structure CompiledConstraint.MatchesOwn (field : String) (c : CompiledConstraint) : Prop where
  pattern : ∃ regex, c.callable = .pattern regex
  params (listed : List Param) (h : c.params = some listed) : ∀ param ∈ listed, param = .field field

namespace CompiledConstraint.MatchesOwn

variable {field : String} {c : CompiledConstraint}

/-- A constraint that matches its own element is local to the field. -/
theorem isLocal (h : c.MatchesOwn field) : c.Local field := by
  obtain ⟨regex, hpattern⟩ := h.pattern
  refine ⟨fun run hrun => ?_, fun listed hlisted other hother => ?_⟩
  · rw [hpattern] at hrun
    cases hrun
  · simpa using h.params listed hlisted _ hother

/-- The pattern is matched against the element, or against nothing when it has an empty list of parameters. -/
theorem exists_verdict (h : c.MatchesOwn field) (text : String) :
    ∃ (regex : Regex) (subject : String), (c.answer field text).outcome = .ok (regex.verdict subject) ∧
      (subject = text ∨ subject = "") := by
  obtain ⟨regex, hpattern⟩ := h.pattern
  have hanswer : (c.answer field text).outcome = .ok (regex.verdict
      ((paramText (c.paramValues field text (Context.alone field (.scalar text) text).valid) 0).getD "")) := by
    unfold answer invoke
    simp only [hpattern]
    rfl
  refine ⟨regex, _, hanswer, ?_⟩
  unfold paramValues
  cases hparams : c.params with
  | none =>
    left
    simp only [hpattern]
    rfl
  | some listed =>
    cases listed with
    | nil => exact Or.inr rfl
    | cons param rest =>
      left
      rw [h.params _ hparams param List.mem_cons_self]
      simp [paramValue, paramText, FieldValue.element?, FieldValue.elements]

/-- What such a constraint leaves of a text is narrowed from it. -/
theorem narrowedFrom_leaves (h : c.MatchesOwn field) (untaint : Bool) (text : String) :
    NarrowedFrom text (c.leaves untaint field text) := by
  obtain ⟨regex, subject, hanswer, hsubject⟩ := h.exists_verdict text
  unfold leaves
  rw [hanswer]
  split
  · exact NarrowedFrom.refl text
  · split
    next kept hkept =>
      obtain ⟨hpart, hcontent⟩ := Regex.narrowed_of_verdict (Except.ok.inj hkept)
      have hnarrowed : NarrowedFrom text kept := by
        rcases hsubject with rfl | rfl
        · exact ⟨hpart, fun hempty => absurd hempty hcontent⟩
        · -- the empty text has no part with content
          exact absurd (String.toList_eq_nil_iff.1 (List.infix_nil.1 hpart)) hcontent
      split
      · exact hnarrowed
      · exact NarrowedFrom.refl text
    next => exact NarrowedFrom.refl text

end CompiledConstraint.MatchesOwn

/-- What patterns leave of a text, one after the other, is narrowed from it. -/
theorem narrowedFrom_leftBy {field : String} {constraints : List CompiledConstraint}
    (h : ∀ c ∈ constraints, c.MatchesOwn field) (untaint : Bool) (text : String) :
    NarrowedFrom text (leftBy untaint field constraints text) := by
  induction constraints generalizing text with
  | nil => exact NarrowedFrom.refl text
  | cons c rest ih =>
    have hfirst := (h c List.mem_cons_self).narrowedFrom_leaves untaint text
    exact hfirst.trans (ih (fun c' hc' => h c' (List.mem_cons_of_mem _ hc')) _)

/-- In a check that ends without a failure of the field, patterns narrow the value of the field, and leave it as it is
where it is not untainted. -/
theorem checkAll_narrows {limit : Nat} {attached : FieldMap (List CompiledConstraint)} {untaint : UntaintPolicy}
    {classified : NameSet} {input : Source} {start : Record} {after : Progress} {invalid : FieldMap (List String)}
    (hrun : checkAll limit attached untaint classified input start = (after, .ok invalid)) {field : String}
    (hpatterns : ∀ c ∈ attached.listAt field, c.MatchesOwn field) (hunwritten : ∀ v ∈ after.visits, ¬ v.Writes field)
    {value : FieldValue} (hvalue : start.get? field = some value) (hvalid : invalid.get? field = none) :
    ∃ kept, after.working.get? field = some kept ∧ value.NarrowedFrom kept ∧
      (untaint.applies field = false → kept = value) := by
  obtain ⟨before, middle, failures, hbefore, hc, hfailed, hkept⟩ :=
    exists_ownTurn hrun hvalue fun v hv _ => hunwritten v hv
  obtain ⟨hleft, -⟩ := checkConstraints_of_local (fun c hmem => (hpatterns c hmem).isLocal) hbefore hc
  have hnone : failures = [] := by
    rw [hfailed, failedWith] at hvalid
    split at hvalid
    next hnil => exact hnil
    next => simp at hvalid
  refine ⟨_, (hkept hnone).trans hleft, FieldValue.narrowedFrom_map (narrowedFrom_leftBy hpatterns _) value, ?_⟩
  intro huntaint
  apply FieldValue.eq_of_elements (FieldValue.isList_map _ value)
  rw [FieldValue.elements_map, huntaint]
  exact List.map_id'' (leftBy_of_not_untaint _) value.elements

end FormValidation
