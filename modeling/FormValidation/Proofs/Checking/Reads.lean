import FormValidation.Proofs.Checking.Confinement
import FormValidation.Proofs.Checking.Turn

/-!
# What a check reads

Constraint functions are given the whole evaluation to look at: the input as it was submitted, and the fields that are
closed. A constraint that calls a confined function looks at neither. Two checks with such constraints only, which start
from the same values, therefore come to the same outcome with the same values in the end, whatever was submitted and
whatever is closed (`checkAll_sameRun`). Each of the three loops is compared in lockstep. A method may
write and still not look at what was submitted, or look at the submitted values of single names only; checks with
constraints that answer alike on two inputs are the same run on both (`checkAll_otherInput`).
-/

set_option autoImplicit false

namespace FormValidation

/-- The constraint decides by its element and the values that stand, and writes nothing. -/
def CompiledConstraint.ReadsValues (c : CompiledConstraint) : Prop :=
  ∀ context context' : Context, context.field = context'.field → context.value = context'.value →
    context.valid = context'.valid → c.invoke context = c.invoke context' ∧ (c.invoke context).writes = []

/-- A constraint that calls a confined function decides by its element and the values that stand. -/
theorem CompiledConstraint.readsValues_of_compile {registry : Registry} {spec : ConstraintSpec}
    {c : CompiledConstraint} (h : spec.compile registry = .ok c)
    (hcalls : spec.CallsOnly registry ConstraintFunction.Confined) : c.ReadsValues := by
  intro context context' hfield hvalue hvalid
  have hsilent := writes_eq_nil h (hcalls.imp fun _ hconfined => hconfined.writesNothing) context
  refine ⟨?_, hsilent⟩
  unfold invoke
  rw [hfield, hvalue, hvalid]
  rcases ConstraintSpec.callable_of_compile h hcalls with ⟨regex, hcallable⟩ | ⟨function, hfunction, hcallable⟩
  · rw [hcallable]
  · cases function with
    | plain run => rw [hcallable, Callable.ofFunction]
    | method run =>
      have hsame : context.SameElement context' := by
        refine ⟨hfield, hvalue, ?_⟩
        rw [Context.fieldValue, Context.fieldValue, hfield, hvalid]
      rw [hcallable, Callable.ofFunction]
      exact hfunction.1 _ _ _ hsame

/-- Two runs come to the same outcome, and leave the same values. -/
structure SameRun {α : Type} (run run' : Progress × Except Fault α) : Prop where
  working : run.1.working = run'.1.working
  outcome : run.2 = run'.2

/-- Runs that are the same end alike, with the same values. -/
theorem SameRun.exists_result {α : Type} {run run' : Progress × Except Fault α} (h : SameRun run run') :
    ∃ after after' result, run = (after, result) ∧ run' = (after', result) ∧ after.working = after'.working := by
  obtain ⟨after, result⟩ := run
  obtain ⟨after', result'⟩ := run'
  obtain ⟨hworking, rfl⟩ := h
  exact ⟨after, after', result, rfl, rfl, hworking⟩

/-! ## One element -/

namespace Progress

variable (site : CheckSite) {c : CompiledConstraint} {p q : Progress}

/-- The answers to a call in two states with the same values. -/
theorem invoke_eq_of_working (hc : c.ReadsValues) (h : p.working = q.working) (input : Source) (element : String) :
    c.invoke (p.context site element) = c.invoke (q.context { site with input := input } element) ∧
      (c.invoke (p.context site element)).writes = [] :=
  hc _ _ rfl rfl h

/-- A turn that reads values only leaves the same values on either input. -/
theorem working_turn_eq (hc : c.ReadsValues) (h : p.working = q.working) (input : Source) (index : Nat)
    (element : String) :
    (p.turn site c index element).working = (q.turn { site with input := input } c index element).working := by
  obtain ⟨hanswer, hwrites⟩ := invoke_eq_of_working site hc h input element
  unfold turn
  rw [← hanswer]
  by_cases hempty : element.isEmpty
  · simpa [hempty, pass] using h
  · simp only [hempty, Bool.false_eq_true, if_false]
    cases houtcome : (c.invoke (p.context site element)).outcome with
    | error fault => simpa [afterCall, hwrites] using h
    | ok verdict =>
      cases verdict with
      | rejected => simpa [afterCall, hwrites] using h
      | matched text =>
        unfold keep
        cases huntaint : site.untaint with
        | false => simpa [afterCall, hwrites] using h
        | true => simp [afterCall, hwrites, h]

/-- A turn that reads values only fails alike on either input. -/
theorem failure_eq (hc : c.ReadsValues) (h : p.working = q.working) (input : Source) (element : String)
    (failedAs : Option String) :
    p.failure site c element failedAs = q.failure { site with input := input } c element failedAs := by
  unfold failure
  rw [(invoke_eq_of_working site hc h input element).1]

/-- A turn that reads values only raises the same fault on either input. -/
theorem fault?_eq (hc : c.ReadsValues) (h : p.working = q.working) (input : Source) (element : String) :
    p.fault? site c element = q.fault? { site with input := input } c element := by
  unfold fault?
  rw [(invoke_eq_of_working site hc h input element).1]

end Progress

/-! ## The loops -/

section Loops

variable (limit : Nat) (site : CheckSite) (input : Source)

/-- Checking the elements of a field with a constraint that reads values only is the same run on either input. -/
theorem checkElements_sameRun {c : CompiledConstraint} (hc : c.ReadsValues) {p q : Progress}
    (h : p.working = q.working) (index : Nat) (failedAs : Option String) :
    SameRun (checkElements site c limit index failedAs p)
      (checkElements { site with input := input } c limit index failedAs q) := by
  induction limit generalizing index failedAs p q with
  | zero => exact ⟨h, rfl⟩
  | succ limit ih =>
    have hpresent : q.element? { site with input := input }.field index = p.element? site.field index := by
      rw [Progress.element?, Progress.element?, h]
    cases helement : p.element? site.field index with
    | none =>
      rw [helement] at hpresent
      rw [checkElements_of_none helement, checkElements_of_none hpresent]
      exact ⟨h, rfl⟩
    | some element =>
      rw [helement] at hpresent
      have hturn := Progress.working_turn_eq site hc h input index element
      rw [checkElements_of_some helement, checkElements_of_some hpresent, ← Progress.fault?_eq site hc h input element]
      cases p.fault? site c element with
      | some fault => exact ⟨hturn, rfl⟩
      | none =>
        have hrest := ih hturn (index + 1) (p.failure site c element failedAs)
        rwa [Progress.failure_eq site hc h input element failedAs] at hrest ⊢

/-- Checking a field with constraints that read values only is the same run on either input. -/
theorem checkConstraints_sameRun {constraints : List CompiledConstraint}
    (hreads : ∀ c ∈ constraints, c.ReadsValues) {p q : Progress} (h : p.working = q.working) (failures : List String) :
    SameRun (checkConstraints limit site constraints failures p)
      (checkConstraints limit { site with input := input } constraints failures q) := by
  induction constraints generalizing failures p q with
  | nil => exact ⟨h, rfl⟩
  | cons c rest ih =>
    have hfirst := checkElements_sameRun limit site input (hreads c List.mem_cons_self) h 0 none
    obtain ⟨middle, middle', result, hrun, hrun', hworking⟩ := hfirst.exists_result
    rw [checkConstraints, checkConstraints, hrun, hrun']
    cases result with
    | error fault => exact ⟨hworking, rfl⟩
    | ok failedAs => exact ih (fun c' hc' => hreads c' (List.mem_cons_of_mem _ hc')) hworking _

/-- Checking fields with constraints that read values only is the same run on either input. -/
theorem checkFields_sameRun (untaint : UntaintPolicy) (input input' : Source)
    {fields : List (String × List CompiledConstraint)} (hreads : ∀ e ∈ fields, ∀ c ∈ e.2, c.ReadsValues)
    {p q : Progress} (h : p.working = q.working) (invalid : FieldMap (List String)) :
    SameRun (checkFields limit untaint input fields invalid p) (checkFields limit untaint input' fields invalid q) := by
  induction fields generalizing invalid p q with
  | nil => exact ⟨h, rfl⟩
  | cons head rest ih =>
    obtain ⟨field, constraints⟩ := head
    have hrest : ∀ e ∈ rest, ∀ c ∈ e.2, c.ReadsValues := fun e he => hreads e (List.mem_cons_of_mem _ he)
    rw [checkFields, checkFields, ← h]
    by_cases hstands : p.working.contains field
    · have hown := checkConstraints_sameRun limit ⟨field, untaint.applies field, input⟩ input'
        (hreads _ List.mem_cons_self) h []
      obtain ⟨middle, middle', result, hrun, hrun', hworking⟩ := hown.exists_result
      rw [if_pos hstands, if_pos hstands, hrun, hrun']
      cases result with
      | error fault => exact ⟨hworking, rfl⟩
      | ok failures =>
        cases failures with
        | nil => exact ih hrest hworking invalid
        | cons failure more =>
          refine ih hrest ?_ _
          rw [Progress.reject, Progress.reject, hworking]
    · rw [if_neg hstands, if_neg hstands]
      exact ih hrest h invalid

/-- Two checks that start from the same values come to the same outcome with the same values, when their constraints
decide by the values that stand. -/
theorem checkAll_sameRun {attached : FieldMap (List CompiledConstraint)}
    (hreads : ∀ field, ∀ c ∈ attached.listAt field, c.ReadsValues) (untaint : UntaintPolicy)
    (classified classified' : NameSet) (input input' : Source) (start : Record) :
    SameRun (checkAll limit attached untaint classified input start)
      (checkAll limit attached untaint classified' input' start) := by
  unfold checkAll
  refine checkFields_sameRun limit untaint input input' (fun e he => ?_) ?_ FieldMap.empty
  · rw [← FieldMap.listAt_of_mem he]
    exact hreads e.1
  · rfl

end Loops

/-! ## Constraints that answer alike on two inputs -/

/-- The function answers alike on two inputs. -/
def ConstraintFunction.AlikeOn (input input' : Source) : ConstraintFunction → Prop
  | plain _ => True
  | method run => ∀ context : Context, context.input = input → ∀ params,
      run { context with input := input' } params = run context params

/-- The function answers alike whatever was submitted. -/
def ConstraintFunction.IgnoresInput : ConstraintFunction → Prop
  | plain _ => True
  | method run => ∀ context input params, run { context with input := input } params = run context params

/-- The function answers alike on inputs that have the same values under every name. -/
def ConstraintFunction.ReadsInputByValues : ConstraintFunction → Prop
  | plain _ => True
  | method run => ∀ (context : Context) (input : Source) params,
      (∀ name, input.values name = context.input.values name) →
        run { context with input := input } params = run context params

/-- A function that ignores the input is alike on any two inputs. -/
theorem ConstraintFunction.IgnoresInput.alikeOn {function : ConstraintFunction} (h : function.IgnoresInput)
    (input input' : Source) : function.AlikeOn input input' := by
  cases function with
  | plain run => trivial
  | method run => exact fun context _ params => h context input' params

/-- A function that reads the input by its values is alike on inputs with the same values. -/
theorem ConstraintFunction.ReadsInputByValues.alikeOn {function : ConstraintFunction}
    (h : function.ReadsInputByValues) {input input' : Source} (hvalues : ∀ name, input'.values name = input.values name) :
    function.AlikeOn input input' := by
  cases function with
  | plain run => trivial
  | method run =>
    intro context hinput params
    apply h context input' params
    rw [hinput]
    exact hvalues

/-- The constraint answers alike on two inputs. -/
def CompiledConstraint.AlikeOn (input input' : Source) (c : CompiledConstraint) : Prop :=
  ∀ context : Context, context.input = input → c.invoke { context with input := input' } = c.invoke context

/-- A constraint that calls functions alike on two inputs is alike on them. -/
theorem CompiledConstraint.alikeOn_of_compile {registry : Registry} {spec : ConstraintSpec} {c : CompiledConstraint}
    {input input' : Source} (h : spec.compile registry = .ok c)
    (hcalls : spec.CallsOnly registry (ConstraintFunction.AlikeOn input input')) : c.AlikeOn input input' := by
  intro context hinput
  unfold invoke
  rcases ConstraintSpec.callable_of_compile h hcalls with ⟨regex, hcallable⟩ | ⟨function, hfunction, hcallable⟩
  · rw [hcallable]
  · cases function with
    | plain run => rw [hcallable, Callable.ofFunction]
    | method run =>
      rw [hcallable, Callable.ofFunction]
      exact hfunction context hinput _

/-- Attached constraints answer alike where the functions do that the profile calls. -/
theorem ConstraintPlan.alikeOn_expand {r : Reading} {plan : ConstraintPlan}
    (h : ofProfile r.registry r.profile = .ok plan) {input input' : Source}
    (hcalls : ∀ field, ∀ spec ∈ r.constraints field,
      spec.CallsOnly r.registry (ConstraintFunction.AlikeOn input input')) (fields : Record) (field : String) :
    ∀ c ∈ (plan.expand fields).listAt field, c.AlikeOn input input' := by
  intro c hc
  obtain ⟨spec, hspec, hcompile⟩ := exists_spec_of_mem h hc
  exact CompiledConstraint.alikeOn_of_compile hcompile (hcalls field spec hspec)

section OtherInput

variable (limit : Nat) (site : CheckSite) {input : Source}

/-- A turn, what it adds to the failures, and whether it faults do not depend on the input. -/
theorem Progress.turn_otherInput {c : CompiledConstraint} (hc : c.AlikeOn site.input input) (p : Progress)
    (index : Nat) (element : String) (failedAs : Option String) :
    p.turn { site with input := input } c index element = p.turn site c index element ∧
      p.failure { site with input := input } c element failedAs = p.failure site c element failedAs ∧
      p.fault? { site with input := input } c element = p.fault? site c element := by
  have hanswer : c.invoke (p.context { site with input := input } element) = c.invoke (p.context site element) :=
    hc (p.context site element) rfl
  refine ⟨?_, ?_, ?_⟩
  · unfold turn
    rw [hanswer]
    rfl
  · unfold failure
    rw [hanswer]
  · unfold fault?
    rw [hanswer]

/-- Checking the elements of a field is the same on an input on which the constraint is alike. -/
theorem checkElements_otherInput {c : CompiledConstraint} (hc : c.AlikeOn site.input input) (index : Nat)
    (failedAs : Option String) (p : Progress) :
    checkElements { site with input := input } c limit index failedAs p =
      checkElements site c limit index failedAs p := by
  induction limit generalizing index failedAs p with
  | zero => rfl
  | succ limit ih =>
    cases helement : p.element? site.field index with
    | none =>
      have helement' : p.element? { site with input := input }.field index = none := helement
      rw [checkElements_of_none helement, checkElements_of_none helement']
    | some element =>
      have helement' : p.element? { site with input := input }.field index = some element := helement
      obtain ⟨hturn, hfailure, hfault⟩ := p.turn_otherInput site hc index element failedAs
      rw [checkElements_of_some helement, checkElements_of_some helement', hturn, hfailure, hfault, ih]

/-- Checking a field is the same on an input on which its constraints are alike. -/
theorem checkConstraints_otherInput {constraints : List CompiledConstraint}
    (halike : ∀ c ∈ constraints, c.AlikeOn site.input input) (failures : List String) (p : Progress) :
    checkConstraints limit { site with input := input } constraints failures p =
      checkConstraints limit site constraints failures p := by
  induction constraints generalizing failures p with
  | nil => rfl
  | cons c rest ih =>
    rw [checkConstraints, checkConstraints, checkElements_otherInput limit site (halike c List.mem_cons_self)]
    split
    · rfl
    · exact ih (fun c' hc' => halike c' (List.mem_cons_of_mem _ hc')) _ _

/-- Checking fields is the same on an input on which their constraints are alike. -/
theorem checkFields_otherInput (untaint : UntaintPolicy) {input' : Source}
    {fields : List (String × List CompiledConstraint)} (halike : ∀ e ∈ fields, ∀ c ∈ e.2, c.AlikeOn input input')
    (invalid : FieldMap (List String)) (p : Progress) :
    checkFields limit untaint input' fields invalid p = checkFields limit untaint input fields invalid p := by
  induction fields generalizing invalid p with
  | nil => rfl
  | cons head rest ih =>
    obtain ⟨field, constraints⟩ := head
    have hrest := ih fun e he => halike e (List.mem_cons_of_mem _ he)
    have hown := checkConstraints_otherInput limit ⟨field, untaint.applies field, input⟩
      (halike _ List.mem_cons_self) [] p
    rw [checkFields, checkFields, hown]
    simp only [hrest]

/-- A check whose constraints answer alike on two inputs is the same run on both. -/
theorem checkAll_otherInput {attached : FieldMap (List CompiledConstraint)} {input' : Source}
    (halike : ∀ field, ∀ c ∈ attached.listAt field, c.AlikeOn input input') (untaint : UntaintPolicy)
    (classified : NameSet) (start : Record) :
    checkAll limit attached untaint classified input' start =
      checkAll limit attached untaint classified input start := by
  refine checkFields_otherInput limit untaint (fun e he => ?_) FieldMap.empty _
  rw [← FieldMap.listAt_of_mem he]
  exact halike e.1

end OtherInput

end FormValidation
