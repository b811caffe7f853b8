import FormValidation.FieldMap
import FormValidation.Number.Binary64

/-!
# JSON values

Data that profiles and records are written in. An object keeps its members as a list, because a report has a declared
order of members; `Json.members?` gives the members as a map, the later of two with one name counting, and that is
how every reader of profile or record data looks at an object.
-/

set_option autoImplicit false

namespace FormValidation

/-- A number: an integer of a 64-bit word, signed or unsigned, or else a binary64 number. -/
inductive JsonNumber where
  | integer (i : Int)
  | float (x : Number.Binary64)
  deriving DecidableEq, Repr

/-- A JSON value. -/
inductive Json where
  | null
  | bool (b : Bool)
  | number (n : JsonNumber)
  | string (s : String)
  | array (items : List Json)
  | object (members : List (String × Json))

namespace Json

instance : Inhabited Json := ⟨null⟩

/-- A natural number as JSON. -/
def ofNat (n : Nat) : Json := number (.integer n)

/-- A list of texts as JSON. -/
def ofTexts (texts : List String) : Json := array (texts.map string)

/-- A map as JSON, its members in the order of the names. -/
def ofMap {α : Type} (f : α → Json) (m : FieldMap α) : Json := object (m.entries.map fun e => (e.1, f e.2))

/-- The members of an object by name. -/
def members? : Json → Option (FieldMap Json)
  | object members => some (FieldMap.ofList members)
  | _ => none

/-- Whether the value is an object. -/
def isObject : Json → Bool
  | object _ => true
  | _ => false

/-- The text of a string value. -/
def text? : Json → Option String
  | string s => some s
  | _ => none

end Json

/-- The text of a number. -/
def JsonNumber.text : JsonNumber → String
  | integer i => String.ofList (Number.intDigits i)
  | float x => String.ofList x.text

end FormValidation
