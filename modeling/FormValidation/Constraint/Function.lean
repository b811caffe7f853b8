import FormValidation.Fault
import FormValidation.Input.Source

/-!
# Constraint functions

A constraint decides about one element of a field. A plain function sees only its parameters; a method also sees the
evaluation in progress, may write values of other fields, and may choose the name under which a rejection is
reported. Functions are pure: what a method wants written is part of its answer, and the evaluation carries it out,
refusing the fields that are closed.
-/

set_option autoImplicit false

namespace FormValidation

/-- A resolved parameter; `none` when it names a field that is absent. -/
abbrev ParamValue := Option FieldValue

/-- The decision about a value. A value that is accepted comes with the text to keep of it when it is untainted. -/
inductive Verdict where
  | matched (text : String)
  | rejected
  deriving DecidableEq, Repr

namespace Verdict

/-- Accepts a text when a condition holds. -/
def check (ok : Bool) (text : String) : Verdict := if ok then matched text else rejected

/-- Whether the value was accepted. -/
def isMatch : Verdict → Bool
  | matched _ => true
  | rejected => false

/-- The first verdict if it accepts, else the second. -/
def orElse : Verdict → Verdict → Verdict
  | matched text, _ => matched text
  | rejected, other => other

end Verdict

/-- The view of the evaluation that a method is given: the field and element it is called for, the input as it was
submitted, the values that stand as valid while constraints run, and the fields that are closed to writing because
they are missing, unknown or invalid already. -/
structure Context where
  field : String
  value : String
  input : Source
  valid : Record
  closed : NameSet

namespace Context

/-- The whole value of the field being checked. -/
def fieldValue (c : Context) : Option FieldValue := c.valid.get? c.field

/-- The submitted values of a field. -/
def inputValues (c : Context) (name : String) : List String := c.input.values name

/-- The valid value of a field as it stands. -/
def validValue (c : Context) (name : String) : Option FieldValue := c.valid.get? name

/-- The valid values after a field is written, unless the field is closed. -/
def setValid (c : Context) (name : String) (value : FieldValue) : Context :=
  if c.closed.contains name then c else { c with valid := c.valid.insert name value }

/-- Whether a field may be written. -/
def isOpen (c : Context) (name : String) : Bool := !c.closed.contains name

end Context

/-- What a plain function answers: its verdict, or a fault that ends the evaluation, and notes that the evaluation
collects in the order of the calls. -/
structure Answer where
  outcome : Except Fault Verdict
  notes : List Json := []

/-- What a method answers: beside an `Answer`, the name to report a rejection under, and the values it writes, in
order. -/
structure MethodAnswer extends Answer where
  renamed : Option String := none
  writes : List (String × FieldValue) := []

/-- A constraint function. -/
inductive ConstraintFunction where
  | plain (run : List ParamValue → Answer)
  | method (run : Context → List ParamValue → MethodAnswer)

/-- The text of a parameter: a scalar, or the first element of a list. -/
def paramText (params : List ParamValue) (index : Nat) : Option String :=
  (params[index]?).join.bind fun value => value.element? 0

/-- A parameter read as an integer of 64 bits. -/
def paramInt (params : List ParamValue) (index : Nat) : Option Int :=
  (paramText params index).bind fun text => Number.readSigned? 64 (Text.trim text.toList)

namespace ConstraintFunction

/-- Whether the function expects the context of the evaluation. -/
def isMethod : ConstraintFunction → Bool
  | plain _ => false
  | method _ => true

/-- The plain function that decides about the text of its first parameter. -/
def ofVerdict (decide : String → Verdict) : ConstraintFunction :=
  plain fun params => { outcome := .ok (decide ((paramText params 0).getD "")) }

/-- The plain function that accepts the texts that satisfy a condition, unchanged. -/
def predicate (holds : String → Bool) : ConstraintFunction :=
  ofVerdict fun text => Verdict.check (holds text) text

/-- The method that decides about its context and parameters without writing. -/
def ofContext (decide : Context → List ParamValue → Except Fault Verdict) : ConstraintFunction :=
  method fun context params => { outcome := decide context params }

end ConstraintFunction

end FormValidation
