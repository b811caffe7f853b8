import FormValidation.Proofs.Checking.Confinement
import FormValidation.Proofs.Checking.OwnTurn
import FormValidation.Proofs.Checking.Separation

/-!
# The names under which a field fails

A field whose constraints are confined, and which is not untainted, is checked with the same value by each of them.
The names that its check ends with are then those of the constraints that reject an element of this value, each once,
in the order of the constraints. This is shown loop by loop, for the elements (`checkElements_of_confined`), for the
constraints (`checkConstraints_of_confined`) and, since a whole check is one run of the constraints for each field, for
the fields (`checkAll_names_failures`).
-/

set_option autoImplicit false

namespace FormValidation

/-- The names of the constraints that reject an element of a value, in the order of the constraints. -/
def failingNames (registry : Registry) (field : String) (value : FieldValue) (specs : List ConstraintSpec) :
    List String :=
  (specs.filter fun spec => spec.fails registry field value).map ConstraintSpec.declaredName

/-- The failing names of two lists of constraints one after the other. -/
theorem failingNames_append (registry : Registry) (field : String) (value : FieldValue)
    (specs more : List ConstraintSpec) :
    failingNames registry field value (specs ++ more) =
      failingNames registry field value specs ++ failingNames registry field value more := by
  simp [failingNames]

/-- There are failures when some constraint rejects some element that has content. -/
theorem failingNames_ne_nil_iff {registry : Registry} {field : String} {value : FieldValue}
    {specs : List ConstraintSpec} :
    failingNames registry field value specs ≠ [] ↔ ∃ spec ∈ specs, ∃ element ∈ value.elements,
      element ≠ "" ∧ spec.rejects registry field value element := by
  simp [failingNames, ConstraintSpec.fails]

/-- A specification that can be called for a field without leaving it. -/
structure ConstraintSpec.StaysAt (registry : Registry) (field : String) (spec : ConstraintSpec) : Prop where
  calls : spec.CallsOnly registry ConstraintFunction.Confined
  params : spec.OwnParams field

/-! ## The elements of a field -/

section Elements

variable {registry : Registry} {site : CheckSite} {spec : ConstraintSpec} {c : CompiledConstraint}
  {value : FieldValue} {p : Progress}

/-- A confined constraint is called as if nothing else were in view. -/
theorem Progress.invoke_eq_alone (hcompile : spec.compile registry = .ok c) (hspec : spec.StaysAt registry site.field)
    (hvalue : p.working.get? site.field = some value) (element : String) :
    c.invoke (p.context site element) = c.invoke (Context.alone site.field value element) := by
  refine CompiledConstraint.invoke_eq hcompile hspec.calls hspec.params ⟨rfl, rfl, ?_⟩
  unfold Context.fieldValue Progress.context Context.alone
  rw [FieldMap.get?_insert, if_pos rfl, hvalue]

/-- The name under which a constraint has failed when it was called for some elements of a value. -/
def CompiledConstraint.failedAs (c : CompiledConstraint) (field : String) (value : FieldValue) (seen : List String) :
    Option String :=
  if seen.any fun element => !element.isEmpty && c.rejects field value element then some c.name else none

/-- After another element, a confined constraint has failed for the elements seen so far and this one. -/
theorem Progress.failure_eq_failedAs (hcompile : spec.compile registry = .ok c)
    (hspec : spec.StaysAt registry site.field) (hvalue : p.working.get? site.field = some value)
    (seen : List String) (element : String) :
    p.failure site c element (c.failedAs site.field value seen) =
      c.failedAs site.field value (seen ++ [element]) := by
  have halone := invoke_eq_alone hcompile hspec hvalue element
  have hrenamed : (c.invoke (Context.alone site.field value element)).renamed = none :=
    CompiledConstraint.renamed_eq_none hcompile hspec.calls _
  unfold failure CompiledConstraint.failedAs CompiledConstraint.rejects
  rw [halone, List.any_append]
  by_cases hempty : element.isEmpty
  · simp [hempty]
  · simp only [hempty, Bool.false_eq_true, if_false, hrenamed, Option.getD_none, List.any_cons, List.any_nil,
      Bool.or_false, Bool.not_false, Bool.true_and]
    split
    next hrejected => split <;> simp_all
    next hother => split <;> simp_all

/-- A turn that writes nothing, in a field that is not untainted, leaves all values. -/
theorem Progress.turn_working_eq (hcompile : spec.compile registry = .ok c)
    (hspec : spec.StaysAt registry site.field) (huntaint : site.untaint = false) (index : Nat) (element : String) :
    (p.turn site c index element).working = p.working := by
  have hwrites : p.writes site c element = [] := by
    unfold writes
    split
    · rfl
    · exact CompiledConstraint.writes_eq_nil hcompile (hspec.calls.imp fun _ h => h.writesNothing) _
  -- only a write or an untainted element could have changed a value
  rcases p.turn_working site c index element with hworking | ⟨huntaint', -⟩
  · rw [hworking, hwrites, applyWrites_nil]
  · rw [huntaint] at huntaint'
    cases huntaint'

/-- A confined constraint fails under its declared name when it rejects some element, and leaves all values. -/
theorem checkElements_of_confined (hcompile : spec.compile registry = .ok c)
    (hspec : spec.StaysAt registry site.field) (huntaint : site.untaint = false)
    (hvalue : p.working.get? site.field = some value) {limit : Nat} {after : Progress} {result : Option String}
    (hrun : checkElements site c limit 0 none p = (after, .ok result)) :
    result.toList = failingNames registry site.field value [spec] ∧ after.working = p.working := by
  have hend := checkElements_induction (J := fun index failedAs q => q.working = p.working ∧
    failedAs = c.failedAs site.field value (value.elements.take index)) ?_ hrun ⟨rfl, rfl⟩
  · obtain ⟨last, ⟨hworking, hresult⟩, hlast⟩ := hend
    have hall : value.elements.length ≤ last := by
      rw [← hworking] at hvalue
      simpa [Progress.element?, hvalue, FieldValue.element?] using hlast
    refine ⟨?_, hworking⟩
    rw [hresult, List.take_of_length_le hall]
    unfold CompiledConstraint.failedAs failingNames ConstraintSpec.fails ConstraintSpec.rejects
    simp only [hcompile, List.filter_cons, List.filter_nil]
    rw [ConstraintSpec.name_of_compile hcompile]
    split <;> simp
  · -- the elements before the index that is next have been seen
    rintro index failedAs q element ⟨hworking, rfl⟩ hpresent
    rw [← hworking] at hvalue
    have helement : value.elements[index]? = some element := by
      simpa [Progress.element?, hvalue, FieldValue.element?] using hpresent
    constructor
    · rw [Progress.turn_working_eq hcompile hspec huntaint, hworking]
    · rw [Progress.failure_eq_failedAs hcompile hspec hvalue, List.take_add_one, helement, Option.toList_some]

/-! ## The constraints of a field -/

variable (site) in
/-- Confined constraints fail under their declared names, those that reject some element, and leave all values. -/
theorem checkConstraints_of_confined {specs : List ConstraintSpec} {constraints : List CompiledConstraint}
    (hcompile : List.Forall₂ (fun spec c => spec.compile registry = .ok c) specs constraints)
    (hspecs : ∀ spec ∈ specs, spec.StaysAt registry site.field) (huntaint : site.untaint = false)
    (hvalue : p.working.get? site.field = some value) {limit : Nat} {after : Progress} {failures : List String}
    (hrun : checkConstraints limit site constraints [] p = (after, .ok failures)) :
    failures = failingNames registry site.field value specs ∧ after.working = p.working := by
  have hend := checkConstraints_induction (J := fun rest failures q => q.working = p.working ∧ ∃ left,
    List.Forall₂ (fun spec c => spec.compile registry = .ok c) left rest ∧ left ⊆ specs ∧
      failures ++ failingNames registry site.field value left = failingNames registry site.field value specs)
    ?_ hrun ⟨rfl, specs, hcompile, fun _ h => h, List.nil_append _⟩
  · obtain ⟨hworking, left, hleft, -, hnames⟩ := hend
    cases hleft
    refine ⟨?_, hworking⟩
    simpa [failingNames] using hnames
  · -- the failures so far and those of the constraints that are left make up all of them
    rintro c rest failures q middle failedAs ⟨hworking, left, hleft, hsub, hnames⟩ hc
    cases hleft with
    | @cons spec _ more _ hhead hmore =>
      rw [← hworking] at hvalue
      obtain ⟨hfailed, hmiddle⟩ :=
        checkElements_of_confined hhead (hspecs spec (hsub List.mem_cons_self)) huntaint hvalue hc
      refine ⟨hmiddle.trans hworking, more, hmore, fun other hother => hsub (List.mem_cons_of_mem _ hother), ?_⟩
      rw [hfailed, List.append_assoc, ← failingNames_append]
      exact hnames

end Elements

/-! ## The fields -/

/-- The names under which a field fails in a whole check are those of its constraints that reject some element of the
value it has at the start, when no constraint of any field ever writes. -/
theorem checkAll_names_failures {registry : Registry} {limit : Nat}
    {attached : FieldMap (List CompiledConstraint)} {untaint : UntaintPolicy} {classified : NameSet} {input : Source}
    {start : Record} {after : Progress} {invalid : FieldMap (List String)}
    (hrun : checkAll limit attached untaint classified input start = (after, .ok invalid))
    (hsilent : ∀ other, ∀ c ∈ attached.listAt other, ∀ context, (c.invoke context).writes = [])
    {field : String} {value : FieldValue} (hvalue : start.get? field = some value)
    (huntaint : untaint.applies field = false) {specs : List ConstraintSpec}
    (hcompile : List.Forall₂ (fun spec c => spec.compile registry = .ok c) specs (attached.listAt field))
    (hspecs : ∀ spec ∈ specs, spec.StaysAt registry field) :
    invalid.get? field = failedWith (failingNames registry field value specs) := by
  have hunwritten : ∀ v ∈ after.visits, v.field ≠ field → ¬ v.Writes field := by
    rintro v hv - ⟨answer, hanswer, write, hwrite, -⟩
    obtain ⟨c, hc, -, hcalled⟩ := ((Sound.of_checkAll hrun).genuine v hv).called
    rw [hcalled answer hanswer, hsilent v.field c hc] at hwrite
    cases hwrite
  obtain ⟨before, middle, failures, hbefore, hc, hfailed, -⟩ := exists_ownTurn hrun hvalue hunwritten
  have hnames := checkConstraints_of_confined ⟨field, untaint.applies field, input⟩ hcompile hspecs huntaint hbefore hc
  rw [hfailed, hnames.1]

end FormValidation
