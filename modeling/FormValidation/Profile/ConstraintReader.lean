import FormValidation.Profile.Basic

/-!
# Reading constraints

The constraints of profile data: a text is a name or a delimited pattern, an object a constraint with a name,
parameters and a method flag, and a list several of them.
-/

set_option autoImplicit false

namespace FormValidation

/-- A fault of profile data. -/
def profileError {α : Type} (fault : ProfileFault) : Except Fault α := .error (.invalidProfile fault)

/-- The text of a scalar: a number as it is written, a boolean as 1 or 0. -/
def readScalarText (option : String) : Json → Except Fault String
  | .string s => .ok s
  | .number n => .ok n.text
  | .bool b => .ok (if b then "1" else "0")
  | other => profileError (.notScalar option other)

/-- A flag: a boolean, an integer other than 0, or a text other than the empty one and 0. -/
def readFlag? : Json → Option Bool
  | .bool b => some b
  | .number (.integer i) => if i < Number.twoTo 63 then some (i ≠ 0) else none
  | .string s => some (!(s.isEmpty || s == "0"))
  | _ => none

namespace Param

/-- The fault of a parameter object that names no single parameter. -/
def objectFault (constraint : String) : Fault :=
  .invalidParams constraint "param objects take a single 'literal' or 'field' key"

/-- The parameter that a value stands for: a text names a field, another scalar is itself, and an object says
which. -/
def ofJson (constraint : String) : Json → Except Fault Param
  | .string name => .ok (.field name)
  | .number n => .ok (.literal n.text)
  | .bool b => .ok (.literal (if b then "1" else "0"))
  | .object members =>
    match (FieldMap.ofList members).entries with
    | [("literal", value)] =>
      match readScalarText "params" value with
      | .error fault => .error fault
      | .ok text => .ok (.literal text)
    | [("field", .string name)] => .ok (.field name)
    | [_] => .error (objectFault constraint)
    | _ => .error (.invalidParams constraint ("unsupported param " ++ (Json.object members).compact))
  | other => .error (.invalidParams constraint ("unsupported param " ++ other.compact))

end Param

namespace ConstraintSpec

/-- The members that a structured constraint may have. -/
def structuredKeys : List String := ["constraint", "constraint_method", "name", "params", "is_method"]

/-- The constraint inside a structured one, and whether its member flags it as a method. -/
def readBase : Option Json → Option Json → Except Fault (ConstraintSpec × Bool)
  | some (.string text), none => .ok (parse text, false)
  | none, some (.string name) => .ok (named name, true)
  | some _, some _ => profileError .twoConstraints
  | none, none => profileError .noConstraint
  | _, _ => profileError .constraintNotText

/-- The name of a structured constraint, if it has one of its own. -/
def readName : Option Json → Except Fault (Option String)
  | none => .ok none
  | some .null => .ok none
  | some (.string name) => .ok (some name)
  | some other => profileError (.nameNotText other)

/-- The parameters of a structured constraint, if it has any declared. -/
def readParams (constraint : String) : Option Json → Except Fault (Option (List Param))
  | none => .ok none
  | some .null => .ok none
  | some (.array items) =>
    match items.mapM (Param.ofJson constraint) with
    | .error fault => .error fault
    | .ok params => .ok (some params)
  | some _ => .error (.invalidParams constraint "params must be a list")

/-- The method flag of a structured constraint. -/
def readMethodFlag (forced : Bool) : Option Json → Except Fault (Option Bool)
  | none => .ok (if forced then some true else none)
  | some .null => .ok (if forced then some true else none)
  | some value =>
    match readFlag? value with
    | none => profileError .methodFlagShape
    | some flag => .ok (some (flag || forced))

/-- The constraint that an object stands for. -/
def ofMembers (members : FieldMap Json) : Except Fault ConstraintSpec := do
  match members.keys.find? (fun key => !structuredKeys.contains key) with
  | some key => profileError (.unknownConstraintKey key)
  | none =>
    let (base, forced) ← readBase (members.get? "constraint") (members.get? "constraint_method")
    let name ← readName (members.get? "name")
    let params ← readParams (name.getD base.declaredName) (members.get? "params")
    let isMethod ← readMethodFlag forced (members.get? "is_method")
    return structured base name params isMethod

/-- The constraint that a value stands for. -/
def ofJson : Json → Except Fault ConstraintSpec
  | .string text => .ok (parse text)
  | .object members => ofMembers (FieldMap.ofList members)
  | other => profileError (.notConstraint other)

/-- One constraint or an ordered list of them. -/
def listOfJson : Json → Except Fault (List ConstraintSpec)
  | .array items => items.mapM ofJson
  | other => do return [← ofJson other]

/-- A list of constraints that are meant as methods. -/
def methodsOfJson (value : Json) : Except Fault (List ConstraintSpec) := do
  return (← listOfJson value).map asMethod

end ConstraintSpec

end FormValidation
