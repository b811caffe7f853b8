/-!
# TOML documents

A document is a tree of tables. While it is read, the tables remember how they came to be, because a table may be
defined only once: `Draft` is the document so far, and `Draft.openTable`, `Draft.openElement` and `Draft.assign` are
what a header, a header of an array element, and a line with a key and a value do to it.
-/

set_option autoImplicit false

namespace FormValidation

/-- A value of a TOML document. Numbers with a fraction, dates and times are kept as they are written. -/
inductive Toml where
  | text (s : String)
  | truth (b : Bool)
  | integer (i : Int)
  | float (written : String)
  | date (written : String)
  | array (items : List Toml)
  | table (entries : List (String × Toml))

instance : Inhabited Toml := ⟨.table []⟩

/-- Why a text is not a TOML document. -/
inductive TomlFault where
  | unexpectedCharacter
  | unexpectedEnd
  | controlCharacter
  | invalidEscape
  | invalidValue
  | integerTooLarge
  | duplicateKey (key : String)
  | wrongShape
  deriving DecidableEq, Repr

/-- A short description of the fault. -/
def TomlFault.message : TomlFault → String
  | unexpectedCharacter => "unexpected character"
  | unexpectedEnd => "unexpected end of input"
  | controlCharacter => "control character"
  | invalidEscape => "invalid escape sequence"
  | invalidValue => "invalid value"
  | integerTooLarge => "number too large to fit in target type"
  | duplicateKey key => "duplicate key '" ++ key ++ "'"
  | wrongShape => "invalid type"

namespace Toml

/-- How a table came to be: as a part of the path of another one, by a header, or by a key with dots. -/
inductive Origin where
  | implied
  | header
  | dotted
  deriving DecidableEq, Repr

/-- A document while it is read: values are closed, tables and arrays of tables can still grow. -/
inductive Draft where
  | value (v : Toml)
  | tables (items : List (List (String × Draft)))
  | table (origin : Origin) (entries : List (String × Draft))

/-- Entries of a table while it is read. -/
abbrev DraftEntries := List (String × Draft)

/-- The value of a key in entries. -/
def find? {α : Type} (key : String) : List (String × α) → Option α
  | [] => none
  | (other, value) :: rest => if other = key then some value else find? key rest

/-- The entries with the value of a key put in its place, or at the end. -/
def put {α : Type} (key : String) (value : α) : List (String × α) → List (String × α)
  | [] => [(key, value)]
  | (other, old) :: rest => if other = key then (key, value) :: rest else (other, old) :: put key value rest

namespace Draft

/-- Changes the table at the end of the path of a header. Missing tables on the way are made; in an array of tables
the way goes on in its last element. -/
def within (change : DraftEntries → Except TomlFault DraftEntries) :
    List String → DraftEntries → Except TomlFault DraftEntries
  | [], entries => change entries
  | key :: path, entries =>
    match find? key entries with
    | none => do return put key (.table .implied (← within change path [])) entries
    | some (.table origin inner) => do return put key (.table origin (← within change path inner)) entries
    | some (.tables items) => do
      let last ← within change path (items.getLast?.getD [])
      return put key (.tables (items.dropLast ++ [last])) entries
    | some (.value _) => .error (.duplicateKey key)

/-- The document with the table of a header, which may not have been defined before. -/
def openTable (path : List String) (key : String) (document : DraftEntries) : Except TomlFault DraftEntries :=
  within (fun entries =>
    match find? key entries with
    | none => .ok (put key (.table .header []) entries)
    | some (.table .implied inner) => .ok (put key (.table .header inner) entries)
    | some _ => .error (.duplicateKey key)) path document

/-- The document with one more element of an array of tables. -/
def openElement (path : List String) (key : String) (document : DraftEntries) : Except TomlFault DraftEntries :=
  within (fun entries =>
    match find? key entries with
    | none => .ok (put key (.tables [[]]) entries)
    | some (.tables items) => .ok (put key (.tables (items ++ [[]])) entries)
    | some _ => .error (.duplicateKey key)) path document

/-- Entries with a value for a key with dots, the last part of which is `key`. Tables that a header defined are closed
to keys with dots. -/
def assignDotted (value : Toml) (key : String) : List String → DraftEntries → Except TomlFault DraftEntries
  | [], entries =>
    match find? key entries with
    | none => .ok (put key (.value value) entries)
    | some _ => .error (.duplicateKey key)
  | part :: path, entries =>
    match find? part entries with
    | none => do return put part (.table .dotted (← assignDotted value key path [])) entries
    | some (.table .dotted inner) => do
      return put part (.table .dotted (← assignDotted value key path inner)) entries
    | some (.table .implied inner) =>
      if path.isEmpty then .error (.duplicateKey part)
      else do return put part (.table .implied (← assignDotted value key path inner)) entries
    | some _ => .error (.duplicateKey part)

/-- The document with a value for a key below the table of the last header. -/
def assign (header path : List String) (key : String) (value : Toml) (document : DraftEntries) :
    Except TomlFault DraftEntries :=
  within (assignDotted value key path) header document

mutual

/-- The finished value. -/
def finish : Draft → Toml
  | value v => v
  | tables items => .array (finishTables items)
  | table _ entries => .table (finishEntries entries)

/-- The finished elements of an array of tables. -/
def finishTables : List (List (String × Draft)) → List Toml
  | [] => []
  | entries :: rest => .table (finishEntries entries) :: finishTables rest

/-- The finished entries of a table. -/
def finishEntries : List (String × Draft) → List (String × Toml)
  | [] => []
  | (key, draft) :: rest => (key, finish draft) :: finishEntries rest

end

end Draft

end Toml

end FormValidation
