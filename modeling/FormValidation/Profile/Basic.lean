import FormValidation.Constraint.Spec
import FormValidation.Message.Config

/-!
# Profiles

A profile declares which fields of a form are required or optional, how they are cleaned, what they have to satisfy,
and which fields become required through others.
-/

set_option autoImplicit false

namespace FormValidation

/-- A filter rewrites one text. -/
abbrev TextFilter := String → String

/-- A filter of a profile: the name of a registered one, or a function. -/
inductive FilterSpec where
  | named (name : String)
  | function (run : TextFilter)

/-- Which fields become required once a field is present: fixed ones, those listed under a value that the field holds,
or those computed from its value. -/
inductive Dependency where
  | fields (names : List String)
  | byValue (names : FieldMap (List String))
  | computed (names : FieldValue → List String)

/-- The fields that a value of the trigger makes required. -/
def Dependency.triggeredBy (value : FieldValue) : Dependency → List String
  | fields names => names
  | byValue names => (names.filter fun key _ => value.contains key).values.flatten
  | computed names => names value

/-- A group of fields of which a least number has to be present. -/
structure RequireSome where
  minimum : Nat
  members : List String
  deriving DecidableEq, Repr

namespace RequireSome

/-- The number that the first item of a group stands for, if it is one: a text of digits below 2^64. -/
def count? (item : String) : Option Nat :=
  if item.toList.all Char.isDigit then Number.readUnsigned? 64 item.toList else none

/-- The group of a list of items. A first item that is a number is the least number of members and no member; without
one the group needs one member. -/
def ofList : List String → RequireSome
  | [] => ⟨1, []⟩
  | first :: rest =>
    match count? first with
    | some minimum => ⟨minimum, rest⟩
    | none => ⟨1, first :: rest⟩

end RequireSome

/-- A validation profile. -/
structure Profile where
  required : List String := []
  optional : List String := []
  requiredPattern : Option FieldPattern := none
  optionalPattern : Option FieldPattern := none
  requireSome : FieldMap RequireSome := FieldMap.empty
  dependencies : FieldMap Dependency := FieldMap.empty
  dependencyGroups : FieldMap (List String) := FieldMap.empty
  defaults : Record := FieldMap.empty
  filters : List FilterSpec := []
  fieldFilters : FieldMap (List FilterSpec) := FieldMap.empty
  patternFilters : List (FieldPattern × List FilterSpec) := []
  constraints : FieldMap (List ConstraintSpec) := FieldMap.empty
  patternConstraints : List (FieldPattern × List ConstraintSpec) := []
  untaintAll : Bool := false
  untaintFields : List String := []
  untaintPatterns : List FieldPattern := []
  missingOptionalValid : Bool := false
  packages : List String := []
  messages : MessageConfig := {}

/-- The profile without any declaration. -/
def Profile.empty : Profile := {}

end FormValidation
