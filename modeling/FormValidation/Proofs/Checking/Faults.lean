import FormValidation.Proofs.Checking.Confinement
import FormValidation.Proofs.Checking.Turn

/-!
# Where the faults of a check come from

A check has no faults of its own, but for a field that its own constraints keep lengthening. Every other fault is the
answer of a constraint function. So where functions complain about their parameters only, a check does, too.
-/

set_option autoImplicit false

namespace FormValidation

/-- A constraint answered a call for a field with the fault. -/
def CompiledConstraint.Raises (c : CompiledConstraint) (field : String) (fault : Fault) : Prop :=
  ∃ context : Context, context.field = field ∧ (c.invoke context).outcome = .error fault

/-- A fault of a call at a field is one that the constraint raises there. -/
theorem Progress.raises_of_fault? {p : Progress} {site : CheckSite} {c : CompiledConstraint} {element : String}
    {fault : Fault} (h : p.fault? site c element = some fault) : c.Raises site.field fault := by
  unfold fault? at h
  by_cases hempty : element.isEmpty
  · simp [hempty] at h
  · simp only [hempty, Bool.false_eq_true, if_false] at h
    split at h
    next raised houtcome =>
      simp only [Option.some.injEq] at h
      subst h
      exact ⟨p.context site element, rfl, houtcome⟩
    next => simp at h

section Loops

variable {limit : Nat} {fault : Fault} {after : Progress}

/-- A fault at the elements of a field is that of a call, or that the checking did not come to an end. -/
theorem checkElements_fault {site : CheckSite} {c : CompiledConstraint} {index : Nat} {failedAs : Option String}
    {p : Progress} (hrun : checkElements site c limit index failedAs p = (after, .error fault)) :
    fault = .unfinished site.field ∨ c.Raises site.field fault := by
  induction limit generalizing index failedAs p with
  | zero =>
    simp only [checkElements, Prod.mk.injEq, Except.error.injEq] at hrun
    exact Or.inl hrun.2.symm
  | succ limit ih =>
    cases hpresent : p.element? site.field index with
    | none =>
      rw [checkElements_of_none hpresent] at hrun
      simp at hrun
    | some element =>
      rw [checkElements_of_some hpresent] at hrun
      cases hfault : p.fault? site c element with
      | none =>
        simp only [hfault] at hrun
        exact ih hrun
      | some raised =>
        simp only [hfault, Prod.mk.injEq, Except.error.injEq] at hrun
        rw [← hrun.2]
        exact Or.inr (Progress.raises_of_fault? hfault)

/-- A fault at the constraints of a field is one that one of them raises, or that the checking did not come to an
end. -/
theorem checkConstraints_fault {site : CheckSite} {constraints : List CompiledConstraint} {failures : List String}
    {p : Progress} (hrun : checkConstraints limit site constraints failures p = (after, .error fault)) :
    fault = .unfinished site.field ∨ ∃ c ∈ constraints, c.Raises site.field fault := by
  induction constraints generalizing failures p with
  | nil => simp [checkConstraints] at hrun
  | cons c rest ih =>
    rw [checkConstraints] at hrun
    split at hrun
    next middle raised hc =>
      simp only [Prod.mk.injEq, Except.error.injEq] at hrun
      obtain ⟨-, rfl⟩ := hrun
      refine (checkElements_fault hc).imp_right fun hraises => ?_
      exact ⟨c, List.mem_cons_self, hraises⟩
    next middle failedAs hc =>
      refine (ih hrun).imp_right ?_
      rintro ⟨c', hc', hraises⟩
      exact ⟨c', List.mem_cons_of_mem _ hc', hraises⟩

/-- A fault at a list of fields is one that a constraint raises at its field, or that the checking of the field did not
come to an end. -/
theorem checkFields_fault {untaint : UntaintPolicy} {input : Source}
    {fields : List (String × List CompiledConstraint)} {invalid : FieldMap (List String)} {p : Progress}
    (hrun : checkFields limit untaint input fields invalid p = (after, .error fault)) :
    ∃ e ∈ fields, fault = .unfinished e.1 ∨ ∃ c ∈ e.2, c.Raises e.1 fault := by
  induction fields generalizing invalid p with
  | nil => simp [checkFields] at hrun
  | cons head rest ih =>
    have hrest : ∀ {found : FieldMap (List String)} {q : Progress},
        checkFields limit untaint input rest found q = (after, .error fault) →
        ∃ e ∈ head :: rest, fault = .unfinished e.1 ∨ ∃ c ∈ e.2, c.Raises e.1 fault := by
      intro found q hq
      obtain ⟨e, he, hfault⟩ := ih hq
      exact ⟨e, List.mem_cons_of_mem _ he, hfault⟩
    obtain ⟨field, constraints⟩ := head
    rw [checkFields] at hrun
    by_cases hstands : p.working.contains field
    · rw [if_pos hstands] at hrun
      split at hrun
      next middle raised hc =>
        simp only [Prod.mk.injEq, Except.error.injEq] at hrun
        obtain ⟨-, rfl⟩ := hrun
        exact ⟨(field, constraints), List.mem_cons_self, checkConstraints_fault hc⟩
      next => exact hrest hrun
      next => exact hrest hrun
    · rw [if_neg hstands] at hrun
      exact hrest hrun

end Loops

/-- A fault of a check names a field that never came to an end, or it is that of a call for an attached constraint. -/
theorem checkAll_fault {limit : Nat} {attached : FieldMap (List CompiledConstraint)} {untaint : UntaintPolicy}
    {classified : NameSet} {input : Source} {start : Record} {after : Progress} {fault : Fault}
    (hrun : checkAll limit attached untaint classified input start = (after, .error fault)) :
    ∃ field, fault = .unfinished field ∨ ∃ c ∈ attached.listAt field, c.Raises field fault := by
  obtain ⟨e, he, hfault⟩ := checkFields_fault hrun
  refine ⟨e.1, ?_⟩
  rw [FieldMap.listAt_of_mem he]
  exact hfault

/-! ## Functions that complain about their parameters only -/

/-- Every fault of the function is about its parameters. -/
def ConstraintFunction.FailsByParams : ConstraintFunction → Prop
  | plain run => ∀ params fault, (run params).outcome = .error fault →
      ∃ constraint message, fault = .invalidParams constraint message
  | method run => ∀ context params fault, (run context params).outcome = .error fault →
      ∃ constraint message, fault = .invalidParams constraint message

/-- A constraint whose function complains about its parameters only raises no other fault. -/
theorem CompiledConstraint.Raises.invalidParams {registry : Registry} {spec : ConstraintSpec} {c : CompiledConstraint}
    {field : String} {fault : Fault} (h : c.Raises field fault) (hcompile : spec.compile registry = .ok c)
    (hcalls : spec.CallsOnly registry ConstraintFunction.FailsByParams) :
    ∃ constraint message, fault = .invalidParams constraint message := by
  obtain ⟨context, -, houtcome⟩ := h
  unfold invoke at houtcome
  rcases ConstraintSpec.callable_of_compile hcompile hcalls with
    ⟨regex, hcallable⟩ | ⟨function, hfunction, hcallable⟩
  · -- a pattern always has a verdict
    rw [hcallable] at houtcome
    simp at houtcome
  · cases function with
    | plain run =>
      rw [hcallable, Callable.ofFunction] at houtcome
      exact hfunction _ _ houtcome
    | method run =>
      rw [hcallable, Callable.ofFunction] at houtcome
      exact hfunction _ _ _ houtcome

end FormValidation
