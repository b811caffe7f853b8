import FormValidation.Proofs.Checking.Attachment
import FormValidation.Proofs.Registry.Builtins

/-!
# Functions that stay with their element

A constraint function may be called with the whole evaluation in view. Most look at less: a confined function decides
by the element it is called for, the value of the field that it belongs to, and its parameters; it writes nothing and
reports failures under the name it was declared with. Whether a confined constraint rejects an element can be said
without a run, by calling it with nothing else in view (`Context.alone`). All built-in functions are confined.
-/

set_option autoImplicit false

namespace FormValidation

/-! ## Functions -/

/-- The function never writes. -/
def ConstraintFunction.WritesNothing : ConstraintFunction → Prop
  | plain _ => True
  | method run => ∀ context params, (run context params).writes = []

/-- Two calls are for the same element of the same value of a field. -/
structure Context.SameElement (c c' : Context) : Prop where
  field : c.field = c'.field
  value : c.value = c'.value
  fieldValue : c.fieldValue = c'.fieldValue

/-- The function decides by its element, the value of its field, and its parameters; it writes and renames nothing. -/
def ConstraintFunction.Confined : ConstraintFunction → Prop
  | plain _ => True
  | method run =>
    (∀ context context' params, context.SameElement context' → run context params = run context' params) ∧
      ∀ context params, (run context params).writes = [] ∧ (run context params).renamed = none

/-- A confined function writes nothing. -/
theorem ConstraintFunction.Confined.writesNothing {function : ConstraintFunction} (h : function.Confined) :
    function.WritesNothing := by
  cases function with
  | plain run => trivial
  | method run => exact fun context params => (h.2 context params).1

/-! ## Specifications -/

namespace ConstraintSpec

/-- The functions that a specification has called satisfy a condition. -/
def CallsOnly (registry : Registry) (P : ConstraintFunction → Prop) : ConstraintSpec → Prop
  | named name => ∀ function, registry.constraint name = .ok function → P function
  | pattern _ => True
  | callable _ function => P function
  | structured base _ _ _ => base.CallsOnly registry P

/-- The declared parameters are fixed texts and the checked field itself. -/
def OwnParams (field : String) : ConstraintSpec → Prop
  | structured base _ params _ =>
    (∀ listed, params = some listed → ∀ other, Param.field other ∈ listed → other = field) ∧ base.OwnParams field
  | _ => True

/-- Functions that all have a property also have a weaker one. -/
theorem CallsOnly.imp {registry : Registry} {P Q : ConstraintFunction → Prop}
    (himp : ∀ function, P function → Q function) {spec : ConstraintSpec} (h : spec.CallsOnly registry P) :
    spec.CallsOnly registry Q := by
  induction spec with
  | named name => exact fun function hfunction => himp function (h function hfunction)
  | pattern p => trivial
  | callable name function => exact himp function h
  | structured base name params isMethod ih => exact ih h

/-- What a compiled constraint calls is a pattern or a function that its specification has called. -/
theorem callable_of_compile {registry : Registry} {P : ConstraintFunction → Prop} {spec : ConstraintSpec}
    {c : CompiledConstraint} (h : spec.compile registry = .ok c) (hcalls : spec.CallsOnly registry P) :
    (∃ regex, c.callable = .pattern regex) ∨ ∃ function, P function ∧ c.callable = .ofFunction function := by
  induction spec generalizing c with
  | named name =>
    obtain ⟨function, hfunction, rfl⟩ := compile_named_eq_ok_iff.1 h
    exact Or.inr ⟨function, hcalls function hfunction, rfl⟩
  | pattern p =>
    obtain ⟨regex, -, rfl⟩ := compile_pattern_eq_ok_iff.1 h
    exact Or.inl ⟨regex, rfl⟩
  | callable name function =>
    cases compile_callable_eq_ok_iff.1 h
    exact Or.inr ⟨function, hcalls, rfl⟩
  | structured base name params isMethod ih =>
    obtain ⟨inner, hinner, rfl⟩ := compile_structured_eq_ok_iff.1 h
    exact ih (c := inner) hinner hcalls

/-- The parameters of a compiled constraint are declared ones. -/
theorem ownParams_of_compile {registry : Registry} {field : String} {spec : ConstraintSpec} {c : CompiledConstraint}
    (h : spec.compile registry = .ok c) (hparams : spec.OwnParams field) {listed : List Param}
    (hlisted : c.params = some listed) {other : String} (hother : Param.field other ∈ listed) : other = field := by
  induction spec generalizing c with
  | named name =>
    obtain ⟨function, -, rfl⟩ := compile_named_eq_ok_iff.1 h
    cases hlisted
  | pattern p =>
    obtain ⟨regex, -, rfl⟩ := compile_pattern_eq_ok_iff.1 h
    cases hlisted
  | callable name function =>
    cases compile_callable_eq_ok_iff.1 h
    cases hlisted
  | structured base name params isMethod ih =>
    obtain ⟨inner, hinner, rfl⟩ := compile_structured_eq_ok_iff.1 h
    rcases Option.or_eq_some_iff.1 hlisted with hown | ⟨-, hinner'⟩
    · exact hparams.1 listed hown other hother
    · exact ih hinner hparams.2 hinner'

end ConstraintSpec

/-! ## Calls -/

/-- A constraint of a function that never writes never writes. -/
theorem CompiledConstraint.writes_eq_nil {registry : Registry} {spec : ConstraintSpec} {c : CompiledConstraint}
    (h : spec.compile registry = .ok c) (hcalls : spec.CallsOnly registry ConstraintFunction.WritesNothing)
    (context : Context) : (c.invoke context).writes = [] := by
  unfold invoke
  rcases ConstraintSpec.callable_of_compile h hcalls with ⟨regex, hcallable⟩ | ⟨function, hfunction, hcallable⟩
  · rw [hcallable]
  · cases function with
    | plain run => rw [hcallable, Callable.ofFunction]
    | method run =>
      rw [hcallable, Callable.ofFunction]
      exact hfunction _ _

/-- A call for an element of a field with nothing else in view. -/
def Context.alone (field : String) (value : FieldValue) (element : String) : Context where
  field := field
  value := element
  input := .record FieldMap.empty
  valid := FieldMap.empty.insert field value
  closed := FieldMap.empty

namespace CompiledConstraint

variable {registry : Registry} {spec : ConstraintSpec} {c : CompiledConstraint}

/-- The parameters of the constraint are fixed texts and the checked field itself. -/
def OwnParams (field : String) (c : CompiledConstraint) : Prop :=
  ∀ listed, c.params = some listed → ∀ other, Param.field other ∈ listed → other = field

/-- A parameter that is a fixed text or the checked field does not depend on other fields. -/
theorem OwnParams.paramValues_eq {field : String} (h : c.OwnParams field) (element : String)
    (working working' : Record) :
    c.paramValues field element working = c.paramValues field element working' := by
  unfold paramValues
  cases hlisted : c.params with
  | none => rfl
  | some listed =>
    refine List.map_congr_left fun param hparam => ?_
    cases param with
    | literal text => rfl
    | field other =>
      have hother : other = field := h listed hlisted other hparam
      rw [paramValue, paramValue, if_pos hother, if_pos hother]

/-- Parameters that are fixed texts and the checked field itself do not depend on the values that stand. -/
theorem paramValues_eq {field : String} (h : spec.compile registry = .ok c) (hparams : spec.OwnParams field)
    (element : String) (working working' : Record) :
    c.paramValues field element working = c.paramValues field element working' := by
  have hown : c.OwnParams field :=
    fun listed hlisted other hother => ConstraintSpec.ownParams_of_compile h hparams hlisted hother
  exact hown.paramValues_eq element working working'

/-- A confined constraint answers two calls for the same element alike. -/
theorem invoke_eq (h : spec.compile registry = .ok c)
    (hcalls : spec.CallsOnly registry ConstraintFunction.Confined) {context context' : Context}
    (hparams : spec.OwnParams context.field) (hsame : context.SameElement context') :
    c.invoke context = c.invoke context' := by
  have hvalues : c.paramValues context.field context.value context.valid =
      c.paramValues context'.field context'.value context'.valid := by
    rw [← hsame.field, ← hsame.value]
    exact paramValues_eq h hparams context.value context.valid context'.valid
  -- the parameters agree, so only what a method makes of its context is left
  unfold invoke
  rw [hvalues]
  rcases ConstraintSpec.callable_of_compile h hcalls with ⟨regex, hcallable⟩ | ⟨function, hfunction, hcallable⟩
  · rw [hcallable]
  · cases function with
    | plain run => rw [hcallable, Callable.ofFunction]
    | method run =>
      rw [hcallable, Callable.ofFunction]
      exact hfunction.1 _ _ _ hsame

/-- A confined constraint reports failures under its own name. -/
theorem renamed_eq_none (h : spec.compile registry = .ok c)
    (hcalls : spec.CallsOnly registry ConstraintFunction.Confined) (context : Context) :
    (c.invoke context).renamed = none := by
  unfold invoke
  rcases ConstraintSpec.callable_of_compile h hcalls with ⟨regex, hcallable⟩ | ⟨function, hfunction, hcallable⟩
  · rw [hcallable]
  · cases function with
    | plain run => rw [hcallable, Callable.ofFunction]
    | method run =>
      rw [hcallable, Callable.ofFunction]
      exact (hfunction.2 _ _).2

/-- Whether the constraint rejects an element of a value, called with nothing else in view. -/
def rejects (c : CompiledConstraint) (field : String) (value : FieldValue) (element : String) : Bool :=
  match (c.invoke (Context.alone field value element)).outcome with
  | .ok .rejected => true
  | _ => false

end CompiledConstraint

/-- Whether the constraint that a specification is compiled to rejects an element of a value. -/
def ConstraintSpec.rejects (registry : Registry) (field : String) (value : FieldValue) (element : String)
    (spec : ConstraintSpec) : Bool :=
  match spec.compile registry with
  | .ok c => c.rejects field value element
  | .error _ => false

/-- The elements of a value that have content and are rejected make the constraint fail. -/
def ConstraintSpec.fails (registry : Registry) (field : String) (value : FieldValue) (spec : ConstraintSpec) : Bool :=
  value.elements.any fun element => !element.isEmpty && spec.rejects registry field value element

/-! ## Built-in functions -/

/-- A method that only decides, by its element and the value of its field, is confined. -/
theorem ConstraintFunction.confined_ofContext {decide : Context → List ParamValue → Except Fault Verdict}
    (h : ∀ context context' params, context.SameElement context' → decide context params = decide context' params) :
    (ofContext decide).Confined := by
  refine ⟨fun context context' params hsame => ?_, fun context params => ⟨rfl, rfl⟩⟩
  show MethodAnswer.mk ⟨decide context params, []⟩ none [] = ⟨⟨decide context' params, []⟩, none, []⟩
  rw [h context context' params hsame]

/-- All built-in constraint functions are confined. -/
theorem Registry.confined_of_mem_builtinConstraints {today : Date} {e : String × ConstraintFunction}
    (h : e ∈ builtinConstraints today) : e.2.Confined := by
  have hcount : ∀ {context context' : Context}, context.SameElement context' →
      Method.count context = Method.count context' := by
    intro context context' hsame
    unfold Method.count
    rw [hsame.fieldValue]
  have hlength : ∀ {context context' : Context}, context.SameElement context' →
      Method.length context = Method.length context' := by
    intro context context' hsame
    unfold Method.length
    rw [hsame.value]
  have haccept : ∀ {context context' : Context}, context.SameElement context' →
      Method.accept context = Method.accept context' := by
    intro context context' hsame
    funext ok
    unfold Method.accept
    rw [hsame.value]
  unfold builtinConstraints at h
  simp only [List.mem_cons, List.not_mem_nil, or_false] at h
  rcases h with rfl | rfl | rfl | rfl | rfl | rfl | rfl | rfl | rfl | rfl | rfl | rfl | rfl | rfl | rfl | rfl | rfl |
    rfl | rfl
  any_goals trivial
  all_goals
    refine ConstraintFunction.confined_ofContext fun context context' params hsame => ?_
  · rw [Method.lengthBetween, Method.lengthBetween, hlength hsame, haccept hsame]
  · rw [Method.minLength, Method.minLength, hlength hsame, haccept hsame]
  · rw [Method.maxLength, Method.maxLength, hlength hsame, haccept hsame]
  · rw [Method.eqWith, Method.eqWith, hsame.value, haccept hsame]
  · rw [Method.numValues, Method.numValues, hcount hsame, haccept hsame]
  · rw [Method.numValuesBetween, Method.numValuesBetween, hcount hsame, haccept hsame]

/-- The built-in functions are confined. -/
theorem Registry.confined_of_builtins {today : Date} {name : String} {function : ConstraintFunction}
    (h : (builtins today).constraint name = .ok function) : function.Confined :=
  confined_of_mem_builtinConstraints (mem_builtinConstraints h)

end FormValidation
