import FormValidation.Value
import FormValidation.Input.Form

/-!
# Sources of input

Everything that fields can be read from: a record, maps of names to texts or to lists of texts, and form parameters.
A source lists its names and gives the submitted values of each; `Source.toRecord` brings all of them into the one
form that evaluation works on. Maps come in the order of their names, or as a `HashedMap` in an order that says nothing.
-/

set_option autoImplicit false

namespace FormValidation

/-- A map whose entries come in an order of its own, each name once. -/
structure HashedMap (α : Type) where
  entries : List (String × α)
  nodup : (entries.map (·.1)).Nodup

namespace HashedMap

variable {α : Type}

instance [DecidableEq α] : DecidableEq (HashedMap α) := fun m n =>
  if h : m.entries = n.entries then isTrue (by cases m; cases n; cases h; rfl)
  else isFalse (fun e => h (e ▸ rfl))

/-- The value under a name. -/
def get? (m : HashedMap α) (name : String) : Option α := FieldMap.lookup name m.entries

/-- The names that have a value, in the order of the map. -/
def names (m : HashedMap α) : List String := m.entries.map (·.1)

end HashedMap

/-- Where the fields of an evaluation come from. -/
inductive Source where
  | record (fields : Record)
  | texts (fields : FieldMap String)
  | lists (fields : FieldMap (List String))
  | form (params : FormParams)
  | hashedRecord (fields : HashedMap FieldValue)
  | hashedTexts (fields : HashedMap String)
  | hashedLists (fields : HashedMap (List String))
  deriving DecidableEq

namespace Source

/-- The names that are present. -/
def names : Source → List String
  | record fields => fields.keys
  | texts fields => fields.keys
  | lists fields => fields.keys
  | form params => params.names
  | hashedRecord fields => fields.names
  | hashedTexts fields => fields.names
  | hashedLists fields => fields.names

/-- The submitted values of a name, in order. -/
def values (name : String) : Source → List String
  | record fields => ((fields.get? name).map FieldValue.elements).getD []
  | texts fields => (fields.get? name).toList
  | lists fields => (fields.get? name).getD []
  | form params => params.values name
  | hashedRecord fields => ((fields.get? name).map FieldValue.elements).getD []
  | hashedTexts fields => (fields.get? name).toList
  | hashedLists fields => (fields.get? name).getD []

/-- The value that a sequence of submitted values stands for: none drops the field, one is a scalar, several are a
list. -/
def valueOf : List String → Option FieldValue
  | [] => none
  | [text] => some (.scalar text)
  | several => some (.list several)

/-- The record of a sequence of names with their submitted values. -/
def collect (values : String → List String) (names : List String) : Record :=
  names.foldl (fun fields name =>
    match valueOf (values name) with
    | none => fields
    | some value => fields.insert name value) FieldMap.empty

/-- The fields of the source. A record is taken as it stands, so that a list of one element stays a list. -/
def toRecord : Source → Record
  | record fields => fields
  | hashedRecord fields => FieldMap.ofList fields.entries
  | source => collect (fun name => source.values name) source.names

end Source

end FormValidation
