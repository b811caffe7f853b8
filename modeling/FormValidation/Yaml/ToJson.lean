import FormValidation.Yaml.Reader

/-!
# YAML as JSON

Two readings of a document as JSON data. The strict one belongs to files of profiles: a map may not have an entry
twice, and a key that is a number or a truth value stands for its text. The lenient one belongs to records: of two
entries with one key the later counts, and every key stands for itself as it is written.
-/

set_option autoImplicit false

namespace FormValidation.Yaml

/-- How deep a document may be nested. -/
def depthLimit : Nat := 128

/-- A scalar as JSON; numbers that are not finite have no JSON. -/
def scalarJson (plain : Bool) (text : String) : Except YamlFault Json :=
  if plain then
    match plainValue text with
    | .nothing => .ok .null
    | .truth b => .ok (.bool b)
    | .integer i =>
      if -(Number.twoTo 63 : Int) ≤ i ∧ i < Number.twoTo 64 then .ok (.number (.integer i)) else .error .numberTooLarge
    | .float x => .ok (.number (.float x))
    | .notFinite => .ok .null
    | .text => .ok (.string text)
  else .ok (.string text)

/-- The text of a key that is a scalar. -/
def keyText? : Yaml → Option String
  | .scalar _ text => some text
  | _ => none

mutual

/-- The lenient reading, with a number of levels left. -/
def lenientAt : Nat → Yaml → Except YamlFault Json
  | _, .scalar plain text => scalarJson plain text
  | 0, .list _ => .error .nestedTooDeep
  | 0, .map _ => .error .nestedTooDeep
  | depth + 1, .list items => do return .array (← lenientItems depth items)
  | depth + 1, .map entries => do
    return .object (FieldMap.ofList (← lenientEntries depth entries)).entries

/-- The lenient reading of items. -/
def lenientItems : Nat → List Yaml → Except YamlFault (List Json)
  | _, [] => .ok []
  | depth, item :: rest => do
    let value ← lenientAt depth item
    return value :: (← lenientItems depth rest)

/-- The lenient reading of entries. -/
def lenientEntries : Nat → List (Yaml × Yaml) → Except YamlFault (List (String × Json))
  | _, [] => .ok []
  | depth, (key, value) :: rest => do
    match keyText? key with
    | none => .error .wrongShape
    | some name =>
      let value ← lenientAt depth value
      return (name, value) :: (← lenientEntries depth rest)

end

/-- The lenient reading of a text; a text without a document is null. -/
def readRecordJson (text : String) : Except YamlFault Json := do
  match ← parse text with
  | none => return .null
  | some document => lenientAt depthLimit document

/-! ## The strict reading -/

/-- A value whose scalars are resolved; the keys of maps still are values. -/
inductive Resolved where
  | null
  | bool (b : Bool)
  | number (n : JsonNumber)
  | notFinite
  | text (s : String)
  | list (items : List Resolved)
  | map (entries : List (Resolved × Resolved))

/-- Whether two values are the same entry key; lists and maps are compared item by item. -/
def Resolved.sameKey : Resolved → Resolved → Bool
  | null, null => true
  | bool a, bool b => a == b
  | number a, number b => a == b
  | notFinite, notFinite => true
  | text a, text b => a == b
  | _, _ => false

/-- A scalar, resolved. -/
def resolveScalar (plain : Bool) (text : String) : Except YamlFault Resolved :=
  if plain then
    match plainValue text with
    | .notFinite => .ok .notFinite
    | _ => do
      match ← scalarJson plain text with
      | .null => return .null
      | .bool b => return .bool b
      | .number n => return .number n
      | _ => return .text text
  else .ok (.text text)

mutual

/-- Resolves a value, with a number of levels left. -/
def resolveAt : Nat → Yaml → Except YamlFault Resolved
  | _, .scalar plain text => resolveScalar plain text
  | 0, .list _ => .error .nestedTooDeep
  | 0, .map _ => .error .nestedTooDeep
  | depth + 1, .list items => do return .list (← resolveItems depth items)
  | depth + 1, .map entries => do return .map (← resolveEntries depth [] entries)

/-- Resolves items. -/
def resolveItems : Nat → List Yaml → Except YamlFault (List Resolved)
  | _, [] => .ok []
  | depth, item :: rest => do
    let value ← resolveAt depth item
    return value :: (← resolveItems depth rest)

/-- Resolves entries, given the keys before them; no key may be there twice. -/
def resolveEntries : Nat → List Resolved → List (Yaml × Yaml) → Except YamlFault (List (Resolved × Resolved))
  | _, _, [] => .ok []
  | depth, met, (key, value) :: rest => do
    let key ← resolveAt depth key
    if met.any key.sameKey then .error .duplicateKey
    else
      let value ← resolveAt depth value
      return (key, value) :: (← resolveEntries depth (key :: met) rest)

end

/-- The name that a key stands for, if it can be a name. -/
def Resolved.name? : Resolved → Option String
  | text s => some s
  | bool b => some (if b then "true" else "false")
  | number n => some n.text
  | _ => none

mutual

/-- A resolved value as JSON, if every key can be a name. -/
def Resolved.toJson? : Resolved → Option Json
  | .null => some .null
  | .bool b => some (.bool b)
  | .number n => some (.number n)
  | .notFinite => some .null
  | .text s => some (.string s)
  | .list items => do return .array (← itemsJson? items)
  | .map entries => do return .object (FieldMap.ofList (← entriesJson? entries)).entries

/-- Resolved items as JSON. -/
def itemsJson? : List Resolved → Option (List Json)
  | [] => some []
  | item :: rest => do
    let value ← item.toJson?
    return value :: (← itemsJson? rest)

/-- Resolved entries as members. -/
def entriesJson? : List (Resolved × Resolved) → Option (List (String × Json))
  | [] => some []
  | (key, value) :: rest => do
    let name ← key.name?
    let value ← value.toJson?
    return (name, value) :: (← entriesJson? rest)

end

/-- The resolved document of a text; a text without a document is null. -/
def readResolved (text : String) : Except YamlFault Resolved := do
  match ← parse text with
  | none => return .null
  | some document => resolveAt depthLimit document

end FormValidation.Yaml
