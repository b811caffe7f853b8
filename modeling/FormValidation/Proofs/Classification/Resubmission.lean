import FormValidation.Proofs.Classification.Comparison
import FormValidation.Proofs.Registry.Merging

/-!
# Submitting the valid fields again

The valid fields of a successful evaluation can be submitted to the same profile once more. The second record has fewer
fields: what was empty or unknown is gone, and fields that were put back are there as empty texts. A profile is
repeatable when none of this matters: it has no defaults, replaces no text by what a constraint matched, its triggers
are known by themselves, and filters change nothing the second time. Then the second reading says for every field what
the first one said, and the second evaluation ends as the first one did (`evaluate_valid_again`).
-/

set_option autoImplicit false

namespace FormValidation

/-! ## The two readings -/

namespace Reading

/-- The text that the filters of a field make of a text. -/
def filterText (r : Reading) (field text : String) : String :=
  (r.filters field).foldl (fun t spec => spec.run r.registry t) text

/-- The profile says the same about a record and about what it leaves of it. -/
structure Repeatable (r : Reading) : Prop where
  noDefaults : r.profile.defaults = FieldMap.empty
  noUntaint (field : String) : ¬ r.Untainted field
  plain (field : String) (spec : ConstraintSpec) (hspec : spec ∈ r.constraints field) :
    spec.CallsOnly r.registry fun function => function.isMethod = false
  trigger (name : String) (h : r.profile.dependencies.contains name) :
    name ∈ r.profile.required ∨ name ∈ r.profile.optional ∨ r.Member name
  filterText_empty (field : String) : r.filterText field "" = ""
  filterText_again (field text : String) : r.filterText field (r.filterText field text) = r.filterText field text

/-- The fields are those that a record without missing fields leaves as valid: what stands, and what is put back. -/
structure Leaves (r : Reading) (fields : Record) : Prop where
  get?_iff (field : String) (value : FieldValue) :
    fields.get? field = some value ↔ r.Stands field value ∨ r.Backfilled field ∧ value = .scalar ""
  complete (name : String) : ¬ r.Missing name

variable {r : Reading} {fields : Record}

/-- In a repeatable reading what stands is what stays of known fields. -/
theorem Repeatable.stands_iff (hr : r.Repeatable) {field : String} {value : FieldValue} :
    r.Stands field value ↔ r.Stays field value ∧ r.Known field := by
  constructor
  · intro hstands
    cases hstands with
    | submitted hstays hknown => exact ⟨hstays, hknown⟩
    | default _ hdefault =>
      rw [hr.noDefaults, FieldMap.get?_empty] at hdefault
      cases hdefault
  · rintro ⟨hstays, hknown⟩
    exact .submitted hstays hknown

/-- A field that stays was submitted. -/
theorem Stays.submitted {field : String} {value : FieldValue} (h : r.Stays field value) :
    r.submitted.contains field := by
  obtain ⟨submitted, hsubmitted, -⟩ := Option.map_eq_some_iff.1 h.1
  exact FieldMap.contains_of_get? hsubmitted

/-- The fields that are left are the present ones and those that are put back. -/
theorem Leaves.contains_iff (h : r.Leaves fields) (field : String) :
    fields.contains field ↔ r.Present field ∨ r.Backfilled field := by
  rw [FieldMap.contains_iff]
  simp only [h.get?_iff, exists_or, exists_and_left, exists_eq, and_true]
  rfl

/-- Every field that is left was submitted. -/
theorem Leaves.submitted (hr : r.Repeatable) (h : r.Leaves fields) {field : String} (hfield : fields.contains field) :
    r.submitted.contains field := by
  rcases (h.contains_iff field).1 hfield with ⟨value, hstands⟩ | hfill
  · exact (hr.stands_iff.1 hstands).1.submitted
  · exact hfill.2.1

/-- The fields that stay the second time are those that stood the first time, with the same values. -/
theorem Leaves.stays_iff (hr : r.Repeatable) (h : r.Leaves fields) (field : String) (value : FieldValue) :
    (r.on fields).Stays field value ↔ r.Stands field value := by
  have hfiltered : (r.on fields).filtered? field = (fields.get? field).map fun v => v.map (r.filterText field) := rfl
  -- what stands was filtered already, so filters leave it
  have hagain : ∀ v, r.Stands field v → v.map (r.filterText field) = v := by
    intro v hstands
    obtain ⟨submitted, -, hv⟩ := Option.map_eq_some_iff.1 (hr.stands_iff.1 hstands).1.1
    have hv' : submitted.map (r.filterText field) = v := hv
    rw [← hv', FieldValue.map_map]
    congr 1
    funext text
    exact hr.filterText_again field text
  unfold Stays
  rw [hfiltered, Option.map_eq_some_iff]
  constructor
  · rintro ⟨⟨v, hv, rfl⟩, hcontent⟩
    rcases (h.get?_iff field v).1 hv with hstands | ⟨-, rfl⟩
    · rwa [hagain v hstands]
    · exact absurd (congrArg FieldValue.scalar (hr.filterText_empty field)) hcontent.1
  · intro hstands
    exact ⟨⟨value, (h.get?_iff field value).2 (Or.inl hstands), hagain value hstands⟩, (hr.stands_iff.1 hstands).1.2⟩

/-- Among the fields that are left the filled ones are the known ones that were filled. -/
theorem Leaves.filled_iff (hr : r.Repeatable) (h : r.Leaves fields) (field : String) (value : FieldValue) :
    (r.on fields).Filled field value ↔ r.Filled field value ∧ r.Known field := by
  unfold Filled
  rw [h.stays_iff hr, hr.stands_iff]
  constructor
  · rintro ⟨⟨hstays, hknown⟩, hcontent⟩
    exact ⟨⟨hstays, hcontent⟩, hknown⟩
  · rintro ⟨⟨hstays, hcontent⟩, hknown⟩
    exact ⟨⟨hstays, hknown⟩, hcontent⟩

/-- The same fields are required: a required field is present, so its pattern meets it again, and what made it required
was known, so it stands. -/
theorem Leaves.required_iff (hr : r.Repeatable) (h : r.Leaves fields) (field : String) :
    (r.on fields).Required field ↔ r.Required field := by
  constructor
  · intro hrequired
    cases hrequired with
    | declared hdeclared => exact .declared hdeclared
    | pattern hpattern hsubmitted hcovers => exact .pattern hpattern (h.submitted hr hsubmitted) hcovers
    | dependent hdependency hfilled hrequires =>
      exact .dependent hdependency ((h.filled_iff hr _ _).1 hfilled).1 hrequires
    | grouped hgroup hmember hfilled hfield =>
      exact .grouped hgroup hmember ((h.filled_iff hr _ _).1 hfilled).1 hfield
  · intro hrequired
    have hpresent : r.Present field := by
      by_contra habsent
      exact h.complete field (Or.inl ⟨hrequired, habsent⟩)
    cases hrequired with
    | declared hdeclared => exact .declared hdeclared
    | pattern hpattern _ hcovers => exact .pattern hpattern ((h.contains_iff field).2 (Or.inl hpresent)) hcovers
    | @dependent trigger _ _ _ hdependency hfilled hrequires =>
      have hknown : r.Known trigger := by
        rcases hr.trigger trigger (FieldMap.contains_of_get? hdependency) with hlisted | hlisted | hmember
        · exact Or.inl (.declared hlisted)
        · exact Or.inr (Or.inl (.declared hlisted))
        · exact Or.inr (Or.inr hmember)
      exact .dependent hdependency ((h.filled_iff hr _ _).2 ⟨hfilled, hknown⟩) hrequires
    | grouped hgroup hmember hfilled hfield =>
      -- a filled member makes itself required, too
      have hknown : r.Known _ := Or.inl (.grouped hgroup hmember hfilled hmember)
      exact .grouped hgroup hmember ((h.filled_iff hr _ _).2 ⟨hfilled, hknown⟩) hfield

/-- The optional fields of the second reading are those of the first, but for submitted ones that are not left. -/
theorem Leaves.optional_iff (hr : r.Repeatable) (h : r.Leaves fields) {field : String}
    (hfield : r.Optional field → fields.contains field) : (r.on fields).Optional field ↔ r.Optional field := by
  constructor
  · intro hoptional
    cases hoptional with
    | declared hdeclared => exact .declared hdeclared
    | pattern hpattern hsubmitted hcovers => exact .pattern hpattern (h.submitted hr hsubmitted) hcovers
  · intro hoptional
    have hleft := hfield hoptional
    cases hoptional with
    | declared hdeclared => exact .declared hdeclared
    | pattern hpattern _ hcovers => exact .pattern hpattern hleft hcovers

/-- A field that stands is known among the fields that are left. -/
theorem Leaves.known (hr : r.Repeatable) (h : r.Leaves fields) {field : String} {value : FieldValue}
    (hstands : r.Stands field value) : (r.on fields).Known field := by
  have hleft : fields.contains field := (h.contains_iff field).2 (Or.inl ⟨value, hstands⟩)
  rcases (hr.stands_iff.1 hstands).2 with hrequired | hoptional | hmember
  · exact Or.inl ((h.required_iff hr field).2 hrequired)
  · exact Or.inr (Or.inl ((h.optional_iff hr fun _ => hleft).2 hoptional))
  · exact Or.inr (Or.inr hmember)

/-- Whether a reading is repeatable does not depend on the record. -/
theorem Repeatable.on (hr : r.Repeatable) (fields : Record) : (r.on fields).Repeatable :=
  ⟨hr.noDefaults, hr.noUntaint, hr.plain, hr.trigger, hr.filterText_empty, hr.filterText_again⟩

/-- The same fields stand, with the same values. -/
theorem Leaves.stands_iff (hr : r.Repeatable) (h : r.Leaves fields) (field : String) (value : FieldValue) :
    (r.on fields).Stands field value ↔ r.Stands field value := by
  rw [(hr.on fields).stands_iff, h.stays_iff hr]
  exact ⟨fun hboth => hboth.1, fun hstands => ⟨hstands, h.known hr hstands⟩⟩

/-- Among the fields that are left the same ones are present. -/
theorem Leaves.present_iff (hr : r.Repeatable) (h : r.Leaves fields) (field : String) :
    (r.on fields).Present field ↔ r.Present field :=
  exists_congr fun value => h.stands_iff hr field value

/-- No field is unknown the second time. -/
theorem Leaves.not_unknown (hr : r.Repeatable) (h : r.Leaves fields) (field : String) :
    ¬ (r.on fields).Unknown field := by
  rintro ⟨⟨value, hstays⟩, hunknown⟩
  exact hunknown (h.known hr ((h.stays_iff hr field value).1 hstays))

/-- No field is missing the second time. -/
theorem Leaves.not_missing (hr : r.Repeatable) (h : r.Leaves fields) (name : String) :
    ¬ (r.on fields).Missing name := by
  have hsame : (r.on fields).Missing name ↔ r.Missing name :=
    missing_congr (r := r) (r.on fields) rfl (h.required_iff hr) (h.present_iff hr) name
  rw [hsame]
  exact h.complete name

/-- The same fields are put back. -/
theorem Leaves.backfilled_iff (hr : r.Repeatable) (h : r.Leaves fields) (field : String) :
    (r.on fields).Backfilled field ↔ r.Backfilled field := by
  have hgone : ¬ (r.on fields).Missing field ↔ ¬ r.Missing field :=
    iff_of_true (h.not_missing hr field) (h.complete field)
  unfold Backfilled
  rw [h.present_iff hr, hgone]
  constructor
  · rintro ⟨hfill, hleft, hoptional, habsent, hmissing⟩
    exact ⟨hfill, h.submitted hr hleft, (h.optional_iff hr fun _ => hleft).1 hoptional, habsent, hmissing⟩
  · rintro ⟨hfill, hsubmitted, hoptional, habsent, hmissing⟩
    have hleft : fields.contains field :=
      (h.contains_iff field).2 (Or.inr ⟨hfill, hsubmitted, hoptional, habsent, hmissing⟩)
    exact ⟨hfill, hleft, (h.optional_iff hr fun _ => hleft).2 hoptional, habsent, hmissing⟩

end Reading

/-! ## The two evaluations -/

section Evaluations

variable {registry : Registry} {profile : Profile} {input : Source} {results : ValidationResults}
  {prep : Preparation} {after : Progress}

/-- The registry of an evaluation with results is the one into which all packages were merged. -/
theorem mergePackages_of_ok (h : (evaluate registry profile input).outcome = .ok results) :
    registry.mergePackages profile.packages = ((evaluate registry profile input).registry, .ok ()) := by
  rw [outcome_eq_prepare] at h
  obtain ⟨prep, hprepare, -⟩ := Outcome.bind_eq_ok_iff.1 h
  obtain ⟨hmerge, hprep⟩ := Profile.prepare_eq_ok_iff.1 hprepare
  rw [evaluate_eq_run hmerge hprep]
  exact hmerge

/-- Functions that are no methods are confined. -/
theorem ConstraintSpec.CallsOnly.confined_of_plain {spec : ConstraintSpec}
    (h : spec.CallsOnly registry fun function => function.isMethod = false) :
    spec.CallsOnly registry ConstraintFunction.Confined := by
  refine h.imp fun function hplain => ?_
  cases function with
  | plain run => trivial
  | method run => cases hplain

/-- Where no call wrote anything, nothing is untainted and no field is invalid, the values that stand in the end are
those with which the fields stood before. -/
theorem Evaluated.get?_working_iff (h : Evaluated registry profile input results prep after)
    (hsilent : ∀ v ∈ after.visits, v.WritesNothing) {field : String}
    (huntaint : ¬ (Reading.of registry profile input).Untainted field) (hvalid : ¬ results.invalid.contains field)
    (value : FieldValue) :
    after.working.get? field = some value ↔ (Reading.of registry profile input).Stands field value := by
  have hnot : prep.untaint.applies field = false := by
    rw [Bool.eq_false_iff]
    exact fun happlies => huntaint ((UntaintPolicy.applies_iff h.resolved.untaint _ _ field).1 happlies)
  have hsame : ∀ v, after.working.get? field = some v → (prep.before profile input).working.get? field = some v := by
    intro v hv
    obtain ⟨old, hold, -, -, huntouched⟩ := (checkAll_keeps_values h.checked hsilent).1 field v hv
    rw [hold, huntouched hnot]
  rw [← h.stands_iff]
  refine ⟨hsame value, fun hvalue => ?_⟩
  have hstands : after.working.contains field :=
    ((h.present_iff_of_writesNothing hsilent field).1 ⟨value, (h.stands_iff field value).1 hvalue⟩).resolve_right hvalid
  obtain ⟨v, hv⟩ := FieldMap.contains_iff.1 hstands
  rw [hv, ← hsame v hv, hvalue]

/-- A successful evaluation of a repeatable profile leaves as valid what stands and what is put back. -/
theorem Evaluated.leaves (h : Evaluated registry profile input results prep after)
    (hr : (Reading.of registry profile input).Repeatable) (hsuccess : results.success) :
    (Reading.of registry profile input).Leaves results.valid := by
  simp only [ValidationResults.success, Bool.and_eq_true] at hsuccess
  have hvalid : ∀ field, ¬ results.invalid.contains field := FieldMap.isEmpty_iff.1 hsuccess.2
  have hsilent : ∀ v ∈ after.visits, v.WritesNothing := by
    refine h.writesNothing fun field spec hspec => ?_
    exact (hr.plain field spec hspec).confined_of_plain.imp fun _ hconfined => hconfined.writesNothing
  refine ⟨fun field value => ?_, fun name hmissing => ?_⟩
  · have hkept := h.get?_working_iff hsilent (hr.noUntaint field) (hvalid field) value
    have hfill := h.backfilled_iff hsilent field
    rw [h.get?_valid]
    split
    next hback =>
      have hback := hfill.2 hback
      have habsent : ¬ (Reading.of registry profile input).Stands field value :=
        fun hstands => hback.2.2.2.1 ⟨value, hstands⟩
      simp [hback, habsent, eq_comm]
    next hback =>
      have hback : ¬ (Reading.of registry profile input).Backfilled field := fun h' => hback (hfill.1 h')
      simp [hback, hkept]
  · rw [← h.missing_iff] at hmissing
    exact FieldMap.isEmpty_iff.1 hsuccess.1 name hmissing

end Evaluations

/-- A successful evaluation of a repeatable profile leaves valid fields that can be submitted again: their evaluation,
over the registry from before or the one from afterwards, succeeds, leaves the same valid fields, and finds no field
unknown. -/
theorem evaluate_valid_again {registry : Registry} {profile : Profile} {input : Source} {results : ValidationResults}
    (hr : (Reading.of registry profile input).Repeatable)
    (hok : (evaluate registry profile input).outcome = .ok results) (hsuccess : results.success) :
    ∀ start ∈ [registry, (evaluate registry profile input).registry],
      ∃ again, (evaluate start profile (.record results.valid)).outcome = .ok again ∧ again.success ∧
        again.valid = results.valid ∧ again.unknown = FieldMap.empty := by
  intro start hstart
  have hmerge := mergePackages_of_ok hok
  have hmerge' : start.mergePackages profile.packages = registry.mergePackages profile.packages := by
    simp only [List.mem_cons, List.not_mem_nil, or_false] at hstart
    rcases hstart with rfl | rfl
    · rfl
    · rw [hmerge, Registry.mergePackages_again hmerge]
  have hreading : Reading.of start profile (.record results.valid) =
      (Reading.of registry profile input).on results.valid := by
    rw [Reading.of, hmerge']
    rfl
  have hleaves : (Reading.of registry profile input).Leaves results.valid := by
    obtain ⟨prep, after, h⟩ := evaluated_of_ok hok
    exact h.leaves hr hsuccess
  obtain ⟨again, prep, after, after', hagain, h, h', hworking, hinvalid⟩ := (evaluate_of_sameStart hmerge'
    (fun field spec hspec => (hr.plain field spec hspec).confined_of_plain)
    (by rw [hreading]; exact hleaves.stands_iff hr)).2 results hok
  have hsuccess' : again.success := by
    simp only [ValidationResults.success, Bool.and_eq_true] at hsuccess ⊢
    rw [hinvalid]
    refine ⟨FieldMap.isEmpty_iff.2 fun name hmissing => ?_, hsuccess.2⟩
    rw [h'.missing_iff, hreading] at hmissing
    exact hleaves.not_missing hr name hmissing
  refine ⟨again, hagain, hsuccess', ?_, ?_⟩
  · -- both records of valid fields are those that the two readings leave, which say the same
    have hleaves' := h'.leaves (by rw [hreading]; exact hr.on results.valid) hsuccess'
    rw [hreading] at hleaves'
    refine FieldMap.ext_get? fun field => Option.ext fun value => ?_
    rw [hleaves'.get?_iff, hleaves.get?_iff, hleaves.stands_iff hr, hleaves.backfilled_iff hr]
  · refine FieldMap.ext_get? fun field => ?_
    rw [FieldMap.get?_empty, FieldMap.get?_eq_none_iff, h'.unknown_iff, hreading]
    exact hleaves.not_unknown hr field

/-- An order form that drops notes, requires an address of paid orders, and takes fields with an underline as required. -/
def orderForm : Profile where
  required := ["name"]
  optional := ["note", "plan", "nick"]
  requiredPattern := some (.compiled ⟨"_", .set (.ranges [(95, 95)])⟩)
  requireSome := FieldMap.ofList [("contact", ⟨1, ["email", "phone"]⟩)]
  dependencies := FieldMap.ofList [("plan", .byValue (FieldMap.ofList [("paid", ["address"])]))]
  fieldFilters := FieldMap.ofList [("note", [.function fun _ => ""])]
  constraints := FieldMap.ofList [("name", [.predicate fun text => text ≠ "x"])]
  missingOptionalValid := true

/-- The form of an order is repeatable for every input. -/
theorem orderForm_repeatable (input : Source) : (Reading.of Registry.empty orderForm input).Repeatable := by
  have hfilters : ∀ field, (Reading.of Registry.empty orderForm input).filters field = [] ∨
      (Reading.of Registry.empty orderForm input).filters field = [.function fun _ => ""] := by
    intro field
    simp only [Reading.filters, Reading.of, orderForm, FieldMap.listAt, FieldMap.ofList, List.foldl_cons,
      List.foldl_nil, FieldMap.get?_insert, declaredFor]
    split
    · right
      rfl
    · left
      rfl
  refine ⟨rfl, fun field => ?_, fun field spec hspec => ?_, fun name htrigger => ?_, fun field => ?_,
    fun field text => ?_⟩
  · simp [Reading.Untainted, Reading.of, orderForm]
  · rw [Reading.eq_of_mem_constraints rfl rfl hspec]
    rfl
  · have hname : name = "plan" := by
      simpa [Reading.of, orderForm, FieldMap.contains_ofList] using htrigger
    subst hname
    exact Or.inr (Or.inl (by simp [Reading.of, orderForm]))
  · unfold Reading.filterText
    rcases hfilters field with hnone | hdrop
    · rw [hnone]
      rfl
    · rw [hdrop]
      rfl
  · unfold Reading.filterText
    rcases hfilters field with hnone | hdrop
    · rw [hnone]
      rfl
    · rw [hdrop]
      rfl

/-- The valid fields of an order, submitted again, are all valid again. -/
theorem evaluate_valid_again_orderForm :
    ∃ results again, (evaluate Registry.empty orderForm (.texts (FieldMap.ofList
        [("address", "a"), ("age", "7"), ("email", "e"), ("gift_to", "g"), ("name", "n"), ("nick", ""), ("note", "-"),
          ("plan", "paid")]))).outcome = .ok results ∧
      results.unknown.keys = ["age"] ∧
      (evaluate Registry.empty orderForm (.record results.valid)).outcome = .ok again ∧
      again.valid = results.valid ∧
      again.valid.keys = ["address", "email", "gift_to", "name", "nick", "note", "plan"] := by
  have hok : (evaluate Registry.empty orderForm (.texts (FieldMap.ofList
      [("address", "a"), ("age", "7"), ("email", "e"), ("gift_to", "g"), ("name", "n"), ("nick", ""), ("note", "-"),
        ("plan", "paid")]))).outcome = .ok _ := rfl
  obtain ⟨again, hagain, -, hvalid, -⟩ := evaluate_valid_again (orderForm_repeatable _) hok (by decide)
    Registry.empty List.mem_cons_self
  refine ⟨_, again, hok, by decide, hagain, hvalid, ?_⟩
  rw [hvalid]
  decide

end FormValidation
