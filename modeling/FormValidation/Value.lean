import FormValidation.FieldMap

/-!
# Field values

The value of a field is one text or a list of texts, as a form submits a choice of several. A list keeps its shape
through cleaning and checking: an element that is emptied stays in its place as the empty text, so places in the list
keep their meaning.
-/

set_option autoImplicit false

namespace FormValidation

/-- The value of one field. -/
inductive FieldValue where
  | scalar (text : String)
  | list (texts : List String)
  deriving DecidableEq, Repr

/-- The values of a set of fields, by name. -/
abbrev Record := FieldMap FieldValue

namespace FieldValue

instance : Inhabited FieldValue := ⟨scalar ""⟩

/-- Whether the value is a list. -/
def isList : FieldValue → Bool
  | scalar _ => false
  | list _ => true

/-- The text of a scalar. -/
def scalar? : FieldValue → Option String
  | scalar text => some text
  | list _ => none

/-- The elements in order; a scalar is its own only element. -/
def elements : FieldValue → List String
  | scalar text => [text]
  | list texts => texts

/-- The number of elements. -/
def length (v : FieldValue) : Nat := v.elements.length

/-- Whether no element has any content. -/
def isEmpty (v : FieldValue) : Bool := v.elements.all (fun text => text.isEmpty)

/-- The element at an index. -/
def element? (v : FieldValue) (index : Nat) : Option String := v.elements[index]?

/-- Whether some element is the given text. -/
def contains (v : FieldValue) (text : String) : Bool := v.elements.contains text

/-- The value with every element replaced. -/
def map (f : String → String) : FieldValue → FieldValue
  | scalar text => scalar (f text)
  | list texts => list (texts.map f)

/-- The value with the element at an index replaced; an index without an element changes nothing. -/
def setElement (v : FieldValue) (index : Nat) (text : String) : FieldValue :=
  match v with
  | scalar old => if index = 0 then scalar text else scalar old
  | list texts => list (texts.set index text)

/-- The value as it is shown to a reader: the elements of a list joined by a comma and a blank. -/
def text : FieldValue → String
  | scalar text => text
  | list texts => ", ".intercalate texts

/-- Whether the value is left out when empty values are stripped: an empty scalar or a list without elements. A list
of empty elements stays. -/
def isStripped : FieldValue → Bool
  | scalar text => text.isEmpty
  | list texts => texts.isEmpty

/-- A value is told by its elements and by whether it is a list. -/
theorem eq_of_elements {v w : FieldValue} (hlist : v.isList = w.isList) (h : v.elements = w.elements) :
    v = w := by
  cases v with
  | scalar text => cases w <;> simp_all [isList, elements]
  | list texts => cases w <;> simp_all [isList, elements]

/-- Replacing the elements of a value replaces them in the list of its elements. -/
theorem elements_map (f : String → String) (v : FieldValue) : (v.map f).elements = v.elements.map f := by
  cases v <;> rfl

/-- Replacing elements keeps their number. -/
theorem length_map (f : String → String) (v : FieldValue) : (v.map f).length = v.length := by
  simp [length, elements_map]

/-- Replacing elements keeps the shape of the value. -/
theorem isList_map (f : String → String) (v : FieldValue) : (v.map f).isList = v.isList := by
  cases v <;> rfl

/-- Replacing every element twice is replacing it once by both. -/
theorem map_map (f g : String → String) (v : FieldValue) : (v.map f).map g = v.map (fun text => g (f text)) := by
  cases v <;> simp [map]

/-- Replacing an element replaces it in the list of elements. -/
theorem elements_setElement (v : FieldValue) (index : Nat) (text : String) :
    (v.setElement index text).elements = v.elements.set index text := by
  cases v with
  | scalar old => cases index <;> rfl
  | list texts => rfl

/-- Setting one element keeps the number of elements. -/
theorem length_setElement (v : FieldValue) (index : Nat) (text : String) :
    (v.setElement index text).length = v.length := by
  simp [length, elements_setElement]

end FieldValue

end FormValidation
