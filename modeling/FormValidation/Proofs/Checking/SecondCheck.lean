import FormValidation.Proofs.Checking.FixedView

/-!
# Checking a field again

An untainted field takes what its constraint kept of its elements. When the constraint matches that, too, and keeps it
as it is, the field passes a second check and stays as it is. For a constraint that sees its element only this is said
of its answers (`checkConstraints_again_of_local`); one that is called with other fields as further parameters acts as
such a constraint as long as those do not change (`checkConstraints_again`).
-/

set_option autoImplicit false

namespace FormValidation

/-! ## Constraints that see their element only -/

section SecondCheck

variable {site : CheckSite} {c : CompiledConstraint} {p q after : Progress} {value : FieldValue} {limit : Nat}

/-- A text that passed is left as one that passes again and is left as it is. -/
theorem CompiledConstraint.leaves_again {field text : String}
    (hagain : ∀ text kept, (c.answer field text).outcome = .ok (.matched kept) →
      (c.answer field kept).outcome = .ok (.matched kept))
    (hdecides : c.Decides field text) (hpasses : c.refuses field text = false) :
    c.Decides field (c.leaves true field text) ∧ c.refuses field (c.leaves true field text) = false ∧
      c.leaves true field (c.leaves true field text) = c.leaves true field text := by
  have hmatched : ∀ kept, (c.answer field kept).outcome = .ok (.matched kept) →
      c.Decides field kept ∧ c.refuses field kept = false ∧ c.leaves true field kept = kept := by
    intro kept hkept
    refine ⟨Or.inr ⟨_, hkept⟩, ?_, ?_⟩
    · unfold refuses rejects
      rw [show (c.invoke (Context.alone field (.scalar kept) kept)).outcome = _ from hkept]
      simp
    · unfold leaves
      rw [hkept]
      simp
  by_cases hempty : text.isEmpty
  · have hleft : c.leaves true field text = text := if_pos hempty
    rw [hleft]
    exact ⟨hdecides, hpasses, hleft⟩
  · obtain ⟨verdict, hverdict⟩ := hdecides.resolve_left hempty
    cases verdict with
    | rejected =>
      unfold refuses rejects at hpasses
      rw [show (c.invoke (Context.alone field (.scalar text) text)).outcome = _ from hverdict] at hpasses
      simp [hempty] at hpasses
    | matched kept =>
      have hleft : c.leaves true field text = kept := by
        unfold leaves
        rw [if_neg hempty, hverdict]
        rfl
      rw [hleft]
      exact hmatched kept (hagain text kept hverdict)

/-- Where a constraint matches what it kept of a text, and keeps it as it is, an untainted field that passed it passes
it again and stays as it is. -/
theorem checkConstraints_again_of_local (hc : c.Local site.field) (huntaint : site.untaint = true)
    (hagain : ∀ text kept, (c.answer site.field text).outcome = .ok (.matched kept) →
      (c.answer site.field kept).outcome = .ok (.matched kept))
    (hvalue : p.working.get? site.field = some value)
    (hrun : checkConstraints limit site [c] [] p = (after, .ok []))
    (hq : q.working.get? site.field = after.working.get? site.field) :
    ∃ again, checkConstraints limit site [c] [] q = (again, .ok []) ∧
      again.working.get? site.field = after.working.get? site.field := by
  have hlocal : ∀ c' ∈ [c], c'.Local site.field := fun c' hc' => List.mem_singleton.1 hc' ▸ hc
  obtain ⟨hafter, hfailures⟩ := checkConstraints_of_local hlocal hvalue hrun
  obtain ⟨hlimit, hdecided⟩ := (checkConstraints_ok_iff hlocal hvalue).1 ⟨after, [], hrun⟩
  have hpasses : ∀ text ∈ value.elements, c.refuses site.field text = false := by
    rw [refusedNames_cons, eq_comm, List.append_eq_nil_iff] at hfailures
    simpa using hfailures.1
  have hkept : ∀ text ∈ value.elements, _ := fun text htext =>
    CompiledConstraint.leaves_again hagain (hdecided text htext).1 (hpasses text htext)
  rw [huntaint] at hafter
  have hq' : q.working.get? site.field = some (value.map (c.leaves true site.field)) := hq.trans hafter
  have hends : ∃ again result, checkConstraints limit site [c] [] q = (again, .ok result) := by
    rw [checkConstraints_ok_iff hlocal hq', FieldValue.length_map, FieldValue.elements_map]
    refine ⟨hlimit, fun kept hmem => ?_⟩
    obtain ⟨text, htext, rfl⟩ := List.mem_map.1 hmem
    exact ⟨(hkept text htext).1, trivial⟩
  obtain ⟨again, result, hsecond⟩ := hends
  obtain ⟨hvalue', hresult⟩ := checkConstraints_of_local hlocal hq' hsecond
  have hnone : result = [] := by
    rw [hresult, refusedNames_cons, FieldValue.elements_map, List.any_map, if_neg]
    · rfl
    · rw [Bool.not_eq_true, List.any_eq_false]
      exact fun text htext => by simp [(hkept text htext).2.1]
  have hsame : (value.map (c.leaves true site.field)).map (leftBy true site.field [c]) =
      value.map (c.leaves true site.field) := by
    apply FieldValue.eq_of_elements
    · rw [FieldValue.isList_map]
    · rw [FieldValue.elements_map, FieldValue.elements_map, List.map_map]
      exact List.map_congr_left fun text htext => (hkept text htext).2.2
  rw [huntaint, hsame] at hvalue'
  exact ⟨again, hnone ▸ hsecond, hvalue'.trans hafter.symm⟩

end SecondCheck

/-! ## Constraints with further parameters -/

/-- What a plain function keeps of the text of its first parameter it keeps as it is, when it is called with that and
the same further parameters. -/
def PlainSettles (run : List ParamValue → Answer) : Prop :=
  ∀ text kept more, (run (some (.scalar text) :: more)).outcome = .ok (.matched kept) →
    (run (some (.scalar kept) :: more)).outcome = .ok (.matched kept)

/-- A constraint calls a plain function for the element that is checked, with further parameters or none. -/
structure CompiledConstraint.CallsForElement (c : CompiledConstraint) (field : String)
    (run : List ParamValue → Answer) (more : List Param) : Prop where
  callable : c.callable = .plain run
  params : c.params = none ∧ more = [] ∨ c.params = some (.field field :: more)

/-- The fields among parameters. -/
def fieldParams (params : List Param) : List String :=
  params.filterMap fun
    | .field name => some name
    | .literal _ => none

/-- The fields among parameters are those that a parameter names. -/
theorem mem_fieldParams {params : List Param} {name : String} : name ∈ fieldParams params ↔ .field name ∈ params := by
  unfold fieldParams
  rw [List.mem_filterMap]
  constructor
  · rintro ⟨param, hparam, hname⟩
    cases param with
    | field other =>
      cases hname
      exact hparam
    | literal text => cases hname
  · exact fun hname => ⟨.field name, hname, rfl⟩

/-- A plain function whose further parameters are given once and for all. -/
def withParams (run : List ParamValue → Answer) (fixed : List ParamValue) (params : List ParamValue) : Answer :=
  run (params ++ fixed)

namespace CompiledConstraint.CallsForElement

variable {c : CompiledConstraint} {site : CheckSite} {run : List ParamValue → Answer} {more : List Param}

/-- Such a call runs the function on the element and the values of the further parameters. -/
theorem invoke_eq (h : c.CallsForElement site.field run more) (p : Progress) (text : String) :
    c.invoke (p.context site text) =
      { toAnswer := run (some (.scalar text) :: more.map (paramValue site.field text p.working)) } := by
  have hvalues : c.paramValues site.field text p.working =
      some (.scalar text) :: more.map (paramValue site.field text p.working) := by
    unfold paramValues
    rcases h.params with ⟨hnone, rfl⟩ | hlisted
    · rw [hnone, h.callable]
      rfl
    · rw [hlisted]
      dsimp only
      rw [List.map_cons, paramValue, if_pos rfl]
  unfold invoke Progress.context
  dsimp only
  rw [h.callable, hvalues]

/-- Further parameters that are other fields may be given once and for all. -/
theorem actsAs (h : c.CallsForElement site.field run more) (hown : Param.field site.field ∉ more) (start : Record) :
    c.ActsAs ⟨c.name, .plain (withParams run (more.map (paramValue site.field "" start))), none⟩ site
      (fieldParams more) start where
  name := rfl
  seesElement := ⟨by simp, by simp [OwnParams]⟩
  others := fun hmem => hown (mem_fieldParams.1 hmem)
  invoke p hp text := by
    have hmore : more.map (paramValue site.field text p.working) = more.map (paramValue site.field "" start) := by
      refine List.map_congr_left fun param hparam => ?_
      cases param with
      | literal _ => rfl
      | field name =>
        have hne : name ≠ site.field := fun heq => hown (heq ▸ hparam)
        rw [paramValue, paramValue, if_neg hne, if_neg hne, hp name (mem_fieldParams.2 hparam)]
    rw [h.invoke_eq, hmore]
    rfl

/-- Further parameters that the function does not read may be left out. -/
theorem actsAs_of_first (h : c.CallsForElement site.field run more)
    (hread : ∀ value fixed, run (value :: fixed) = run [value]) (start : Record) :
    c.ActsAs ⟨c.name, .plain run, none⟩ site [] start where
  name := rfl
  seesElement := ⟨by simp, by simp [OwnParams]⟩
  others := List.not_mem_nil
  invoke p _ text := by
    rw [h.invoke_eq, hread]
    rfl

end CompiledConstraint.CallsForElement

section SecondCheck

variable {run : List ParamValue → Answer} {limit : Nat} {site : CheckSite} {c c' : CompiledConstraint}
  {names : List String} {more : List Param} {p q after : Progress}

/-- A field passes a second check by a constraint that acts as one that keeps what it kept. -/
theorem checkConstraints_again_of_actsAs (hacts : c.ActsAs c' site names p.working)
    (hsame : q.working.SameAt names p.working)
    (hagain : ∀ text kept, (c'.answer site.field text).outcome = .ok (.matched kept) →
      (c'.answer site.field kept).outcome = .ok (.matched kept))
    (huntaint : site.untaint = true) (hfield : p.working.contains site.field)
    (hfirst : checkConstraints limit site [c] [] p = (after, .ok []))
    (hq : q.working.get? site.field = after.working.get? site.field) :
    ∃ again, checkConstraints limit site [c] [] q = (again, .ok []) ∧
      again.working.get? site.field = after.working.get? site.field := by
  obtain ⟨value, hvalue⟩ := FieldMap.contains_iff.1 hfield
  rw [checkConstraints_eq_of_actsAs hacts fun _ _ => rfl] at hfirst
  rw [checkConstraints_eq_of_actsAs hacts hsame]
  exact checkConstraints_again_of_local hacts.seesElement huntaint hagain hvalue hfirst hq

/-- A field that was untainted by one constraint, which keeps what it kept, passes it again and stays as it is, when the
other fields that are further parameters have not changed. -/
theorem checkConstraints_again (hrun : PlainSettles run) (hc : c.CallsForElement site.field run more)
    (hown : Param.field site.field ∉ more) (huntaint : site.untaint = true) (hfield : p.working.contains site.field)
    (hfirst : checkConstraints limit site [c] [] p = (after, .ok []))
    (hq : q.working.get? site.field = after.working.get? site.field)
    (hothers : ∀ name, Param.field name ∈ more → q.working.get? name = p.working.get? name) :
    ∃ again, checkConstraints limit site [c] [] q = (again, .ok []) ∧
      again.working.get? site.field = after.working.get? site.field := by
  have hsame : q.working.SameAt (fieldParams more) p.working := fun name hname =>
    hothers name (mem_fieldParams.1 hname)
  refine checkConstraints_again_of_actsAs (hc.actsAs hown p.working) hsame ?_ huntaint hfield hfirst hq
  exact fun text kept hkept => hrun text kept _ hkept

/-- Parameters that the function does not read may be any. -/
theorem checkConstraints_again_of_first (hrun : PlainSettles run) (hc : c.CallsForElement site.field run more)
    (hread : ∀ value fixed, run (value :: fixed) = run [value]) (huntaint : site.untaint = true)
    (hfield : p.working.contains site.field) (hfirst : checkConstraints limit site [c] [] p = (after, .ok []))
    (hq : q.working.get? site.field = after.working.get? site.field) :
    ∃ again, checkConstraints limit site [c] [] q = (again, .ok []) ∧
      again.working.get? site.field = after.working.get? site.field := by
  have hsame : q.working.SameAt [] p.working := fun _ hname => absurd hname List.not_mem_nil
  refine checkConstraints_again_of_actsAs (hc.actsAs_of_first hread p.working) hsame ?_ huntaint hfield hfirst hq
  exact fun text kept hkept => hrun text kept _ hkept

end SecondCheck

end FormValidation
