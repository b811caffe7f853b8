import FormValidation.Value
import FormValidation.Json.Writer

/-!
# Records as JSON

A record is written as an object whose members are texts and lists of texts. Reading is more generous: numbers and
booleans stand for their text, and a null member is no field at all. A value nested more deeply cannot be a field.
-/

set_option autoImplicit false

namespace FormValidation

/-- Why a JSON value is not a record. -/
inductive RecordFault where
  | notObject
  | nested (field : String)
  deriving DecidableEq, Repr

/-- The reason as it is reported. -/
def RecordFault.message : RecordFault → String
  | notObject => "expected a JSON object of field names to values"
  | nested field => "field '" ++ field ++ "' holds a nested structure"

/-- The value as JSON: a string or a list of strings. -/
def FieldValue.toJson : FieldValue → Json
  | scalar text => .string text
  | list texts => .ofTexts texts

namespace Record

/-- The record as a JSON object. -/
def toJson (fields : Record) : Json := .ofMap FieldValue.toJson fields

/-- The text of a member, or of an item of a list, of a field. -/
def scalarText (field : String) : Json → Except RecordFault String
  | .null => .ok ""
  | .string s => .ok s
  | .number n => .ok n.text
  | .bool b => .ok (if b then "true" else "false")
  | .array _ => .error (.nested field)
  | .object _ => .error (.nested field)

/-- The value of a member; null is no value. -/
def memberValue (field : String) : Json → Except RecordFault (Option FieldValue)
  | .null => .ok none
  | .array items =>
    match items.mapM (scalarText field) with
    | .error fault => .error fault
    | .ok texts => .ok (some (.list texts))
  | other =>
    match scalarText field other with
    | .error fault => .error fault
    | .ok text => .ok (some (.scalar text))

/-- Puts members into a record one after the other. -/
def addMembers (fields : Record) : List (String × Json) → Except RecordFault Record
  | [] => .ok fields
  | (name, member) :: rest =>
    match memberValue name member with
    | .error fault => .error fault
    | .ok none => addMembers fields rest
    | .ok (some value) => addMembers (fields.insert name value) rest

/-- The record that a JSON object stands for. -/
def ofJson (value : Json) : Except RecordFault Record :=
  match value.members? with
  | none => .error .notObject
  | some members => addMembers FieldMap.empty members.entries

end Record

end FormValidation
