import FormValidation.Constraint.Function

/-!
# Constraint specifications

How a profile attaches a constraint to a field: by the name of a registered function, by a pattern, or by a function
itself, each with an optional layer that gives it a name of its own, parameters, and the flag that it is meant as a
method. The flag is a remark of the profile's author; whether a function is called with the context is decided by the
function.
-/

set_option autoImplicit false

namespace FormValidation

/-- A parameter of a constraint: the value of a field, or a fixed text. -/
inductive Param where
  | field (name : String)
  | literal (text : String)
  deriving DecidableEq, Repr

/-- A constraint of a field. -/
inductive ConstraintSpec where
  | named (name : String)
  | pattern (pattern : FieldPattern)
  | callable (name : Option String) (function : ConstraintFunction)
  | structured (base : ConstraintSpec) (name : Option String) (params : Option (List Param)) (isMethod : Option Bool)

/-- The name under which functions without one report their failures. -/
def anonymousConstraint : String := "anonymous"

namespace ConstraintSpec

/-- The constraint that a text of a profile stands for: a delimited text is a pattern, any other text a name. -/
def parse (text : String) : ConstraintSpec :=
  if FieldPattern.isDelimited text then pattern (.delimited text) else named text

/-- A compiled regular expression as a constraint. -/
def regex (r : Regex) : ConstraintSpec := pattern (.compiled r)

/-- A condition on the checked text as a constraint. -/
def predicate (holds : String → Bool) : ConstraintSpec := callable none (.predicate holds)

/-- A method as a constraint. -/
def method (run : Context → List ParamValue → MethodAnswer) : ConstraintSpec := callable none (.method run)

/-- The constraint reporting its failures under a name. -/
def withName (spec : ConstraintSpec) (name : String) : ConstraintSpec :=
  match spec with
  | structured base _ params isMethod => structured base (some name) params isMethod
  | base => structured base (some name) none none

/-- The constraint called with parameters instead of the checked value. -/
def withParams (spec : ConstraintSpec) (params : List Param) : ConstraintSpec :=
  match spec with
  | structured base name _ isMethod => structured base name (some params) isMethod
  | base => structured base none (some params) none

/-- The constraint flagged as a method. -/
def asMethod (spec : ConstraintSpec) : ConstraintSpec :=
  match spec with
  | structured base name params _ => structured base name params (some true)
  | base => structured base none none (some true)

/-- The name under which the constraint reports a failure. -/
def declaredName : ConstraintSpec → String
  | named name => name
  | pattern p => p.source
  | callable name _ => name.getD anonymousConstraint
  | structured base name _ _ => name.getD base.declaredName

end ConstraintSpec

end FormValidation
