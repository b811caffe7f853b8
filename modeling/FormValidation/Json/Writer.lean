import FormValidation.Json.Basic

/-!
# Writing JSON

The two written forms of a value: on one line without blanks, and indented by two blanks per level. Quotes,
backslashes and control characters are escaped, everything else stands for itself.
-/

set_option autoImplicit false

namespace FormValidation.Json

/-- A hexadecimal digit in lower case. -/
def hexChar (n : Nat) : Char := Nat.digitChar n

/-- A character of a string as it is written. -/
def escapeChar (c : Char) : List Char :=
  if c = '"' then ['\\', '"']
  else if c = '\\' then ['\\', '\\']
  else if c = '\n' then ['\\', 'n']
  else if c = '\r' then ['\\', 'r']
  else if c = '\t' then ['\\', 't']
  else if c = '\x08' then ['\\', 'b']
  else if c = '\x0c' then ['\\', 'f']
  else if c.toNat < 0x20 then ['\\', 'u', '0', '0', hexChar (c.toNat / 16), hexChar (c.toNat % 16)]
  else [c]

/-- A string with its quotes. -/
def quoted (s : String) : String := String.ofList ('"' :: s.toList.flatMap escapeChar ++ ['"'])

/-- An opening brace. -/
def openBrace : String := "\x7b"

/-- A closing brace. -/
def closeBrace : String := "\x7d"

mutual

/-- The value on one line without blanks. -/
def compact : Json → String
  | null => "null"
  | bool b => if b then "true" else "false"
  | number n => n.text
  | string s => quoted s
  | array items => "[" ++ compactItems items ++ "]"
  | object members => openBrace ++ compactMembers members ++ closeBrace

/-- Items separated by commas. -/
def compactItems : List Json → String
  | [] => ""
  | [item] => compact item
  | item :: rest => compact item ++ "," ++ compactItems rest

/-- Members separated by commas. -/
def compactMembers : List (String × Json) → String
  | [] => ""
  | [(name, value)] => quoted name ++ ":" ++ compact value
  | (name, value) :: rest => quoted name ++ ":" ++ compact value ++ "," ++ compactMembers rest

end

/-- A new line indented to a level. -/
def newLine (level : Nat) : String := String.ofList ('\n' :: List.replicate (2 * level) ' ')

mutual

/-- The value at a level of indentation: every item and member on a line of its own, empty arrays and objects
closed at once. -/
def prettyAt (level : Nat) : Json → String
  | null => "null"
  | bool b => if b then "true" else "false"
  | number n => n.text
  | string s => quoted s
  | array [] => "[]"
  | array (item :: rest) => "[" ++ prettyItems (level + 1) (item :: rest) ++ newLine level ++ "]"
  | object [] => openBrace ++ closeBrace
  | object (member :: rest) => openBrace ++ prettyMembers (level + 1) (member :: rest) ++ newLine level ++ closeBrace

/-- Items, each on a line of its own. -/
def prettyItems (level : Nat) : List Json → String
  | [] => ""
  | [item] => newLine level ++ prettyAt level item
  | item :: rest => newLine level ++ prettyAt level item ++ "," ++ prettyItems level rest

/-- Members, each on a line of its own. -/
def prettyMembers (level : Nat) : List (String × Json) → String
  | [] => ""
  | [(name, value)] => newLine level ++ quoted name ++ ": " ++ prettyAt level value
  | (name, value) :: rest =>
    newLine level ++ quoted name ++ ": " ++ prettyAt level value ++ "," ++ prettyMembers level rest

end

/-- The value over several lines. -/
def pretty (value : Json) : String := prettyAt 0 value

end FormValidation.Json
