import FormValidation.Json.Writer
import FormValidation.Text.Case
import FormValidation.Yaml.Writer

/-!
# Output

The forms in which answers are written: for people, as JSON on one line or over several lines, or as YAML. Lines of
information and tables are for people only, and information is left out when output is to be quiet.
-/

set_option autoImplicit false

namespace FormValidation

/-- A form of output. -/
inductive OutputFormat where
  | human
  | json
  | yaml
  | jsonPretty
  deriving DecidableEq, Repr

namespace OutputFormat

/-- The forms by name. -/
def byName : List (String × OutputFormat) :=
  [("human", human), ("json", json), ("yaml", yaml), ("json-pretty", jsonPretty)]

/-- The form of a name. -/
def ofName? (name : String) : Option OutputFormat := byName.lookup name

/-- The form of a name in upper or lower case. -/
def ofConfigured? (name : String) : Option OutputFormat :=
  (byName.find? fun e => Text.equalIgnoringAsciiCase e.1.toList name.toList).map (·.2)

/-- Data in a form; data for people is written as JSON over several lines. -/
def write (format : OutputFormat) (data : Json) : String :=
  match format with
  | json => data.compact
  | jsonPretty => data.pretty
  | human => data.pretty
  | yaml => Yaml.write data

/-- A text as it is printed in a form; YAML brings its own end of line. -/
def endLine (format : OutputFormat) (text : String) : String :=
  match format with
  | yaml => text
  | _ => text ++ "\n"

end OutputFormat

/-! ## Colours -/

/-- A colour or weight of characters on a terminal. -/
inductive Ink where
  | green
  | red
  | blue
  | brightBlue
  | bold
  deriving DecidableEq, Repr

namespace Ink

/-- The sequence that returns to plain characters. -/
def reset : List Char := "\x1b[0m".toList

/-- The sequence that starts the ink. -/
def start : Ink → List Char
  | green => "\x1b[32m".toList
  | red => "\x1b[31m".toList
  | blue => "\x1b[34m".toList
  | brightBlue => "\x1b[94m".toList
  | bold => "\x1b[1m".toList

/-- A text in which the ink is started again wherever plain characters are returned to; `skipped` characters at the
front have been written already. -/
def restart (ink : Ink) (skipped : Nat) : List Char → List Char
  | [] => []
  | c :: rest =>
    match skipped with
    | n + 1 => ink.restart n rest
    | 0 =>
      if reset.isPrefixOf (c :: rest) then reset ++ ink.start ++ ink.restart (reset.length - 1) rest
      else c :: ink.restart 0 rest

/-- A text in an ink. -/
def paint (ink : Ink) (text : String) : String :=
  String.ofList (ink.start ++ ink.restart 0 text.toList ++ reset)

end Ink

/-! ## Tables -/

namespace Table

/-- The width of a column: that of its widest cell, and no less than the bytes of its header. -/
def columnWidth (header : String) (cells : List String) : Nat :=
  cells.foldl (fun width cell => max width cell.length) header.utf8ByteSize

/-- The cells of a column; a row may be too short to have one. -/
def column (index : Nat) (rows : List (List String)) : List String := rows.filterMap fun row => row[index]?

/-- The widths of the columns. -/
def widths (headers : List String) (rows : List (List String)) : List Nat :=
  headers.mapIdx fun index header => columnWidth header (column index rows)

/-- A cell filled up with blanks to a width. -/
def fill (width : Nat) (cell : String) : String :=
  cell ++ String.ofList (List.replicate (width - cell.length) ' ')

/-- The cells of a row, filled up to the widths of their columns. -/
def rowText (widths : List Nat) (cells : List String) : String :=
  " │ ".intercalate (cells.zipWith (fun cell width => fill width cell) widths)

/-- The line between the headers and the rows. -/
def rule (widths : List Nat) : String :=
  "─┼─".intercalate (widths.map fun width => String.ofList (List.replicate width '─'))

/-- The lines of a table: the headers, a rule, and the rows without blanks at their ends. -/
def lines (paintHeader : String → String) (headers : List String) (rows : List (List String)) : List String :=
  let widths := widths headers rows
  paintHeader (rowText widths headers) :: rule widths ::
    rows.map fun row => String.ofList (Text.trimEnd (rowText widths row).toList)

end Table

/-! ## Writing -/

/-- How output is written. -/
structure OutputStyle where
  format : OutputFormat := .human
  color : Bool := false
  quiet : Bool := false
  deriving DecidableEq, Repr

namespace OutputStyle

/-- A text in an ink, if there are colours. -/
def ink (style : OutputStyle) (ink : Ink) (text : String) : String := if style.color then ink.paint text else text

/-- A line of output. -/
def line (text : String) : String := text ++ "\n"

/-- A line of information. -/
def info (style : OutputStyle) (message : String) : String :=
  if style.quiet || style.format != .human then ""
  else if style.color then line (Ink.blue.paint "ℹ" ++ " " ++ message)
  else line ("INFO: " ++ message)

/-- Data in the form of the output. -/
def data (style : OutputStyle) (value : Json) : String := style.format.endLine (style.format.write value)

/-- A table. -/
def table (style : OutputStyle) (headers : List String) (rows : List (List String)) : String :=
  if style.format != .human then ""
  else String.join ((Table.lines (style.ink .bold) headers rows).map line)

end OutputStyle

end FormValidation
