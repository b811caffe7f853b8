import FormValidation.Constraint.Function

/-!
# Length and count methods

Methods that take their bounds from parameters: the length of the checked element, the number of elements of its
field, and the comparison with another field. A bound that is no integer, or is negative, makes the evaluation fail,
whatever the value is.
-/

set_option autoImplicit false

namespace FormValidation.Method

/-- A parameter as a bound. -/
def bound (constraint : String) (params : List ParamValue) (index : Nat) : Except Fault Nat :=
  match paramInt params index with
  | none =>
    .error (.invalidParams constraint ("param " ++ Number.natText (index + 1) ++ " must be an integer"))
  | some i =>
    if i < 0 then
      .error (.invalidParams constraint ("param " ++ Number.natText (index + 1) ++ " must not be negative"))
    else .ok i.toNat

/-- The first two parameters as a lower and an upper bound. -/
def bounds (constraint : String) (params : List ParamValue) : Except Fault (Nat × Nat) := do
  let least ← bound constraint params 0
  let most ← bound constraint params 1
  if least > most then
    .error (.invalidParams constraint
      ("minimum " ++ Number.natText least ++ " is greater than maximum " ++ Number.natText most))
  else return (least, most)

/-- The number of characters of the checked element. -/
def length (c : Context) : Nat := c.value.length

/-- The number of elements of the checked field that have content. -/
def count (c : Context) : Nat :=
  match c.fieldValue with
  | none => 0
  | some value => (value.elements.filter fun text => !text.isEmpty).length

/-- The verdict that accepts the checked element when a condition holds. -/
def accept (c : Context) (ok : Bool) : Verdict := Verdict.check ok c.value

/-- Accepts elements whose length lies between two bounds. -/
def lengthBetween (c : Context) (params : List ParamValue) : Except Fault Verdict := do
  let (least, most) ← bounds "length_between" params
  return accept c (least ≤ length c && length c ≤ most)

/-- Accepts elements of a least length. -/
def minLength (c : Context) (params : List ParamValue) : Except Fault Verdict := do
  let least ← bound "min_length" params 0
  return accept c (least ≤ length c)

/-- Accepts elements of at most a length. -/
def maxLength (c : Context) (params : List ParamValue) : Except Fault Verdict := do
  let most ← bound "max_length" params 0
  return accept c (length c ≤ most)

/-- Accepts elements that equal the first parameter. -/
def eqWith (c : Context) (params : List ParamValue) : Except Fault Verdict :=
  if params.isEmpty then .error (.invalidParams "eq_with" "expects the field to compare with")
  else .ok (accept c (paramText params 0 == some c.value))

/-- Accepts fields with a number of elements. -/
def numValues (c : Context) (params : List ParamValue) : Except Fault Verdict := do
  let wanted ← bound "num_values" params 0
  return accept c (count c == wanted)

/-- Accepts fields whose number of elements lies between two bounds. -/
def numValuesBetween (c : Context) (params : List ParamValue) : Except Fault Verdict := do
  let (least, most) ← bounds "num_values_between" params
  return accept c (least ≤ count c && count c ≤ most)

end FormValidation.Method
