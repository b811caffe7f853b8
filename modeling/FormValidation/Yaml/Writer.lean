import FormValidation.Json.Basic
import FormValidation.Yaml.Basic

/-!
# Writing YAML

JSON data as a YAML document. Lists and maps are written in blocks, a list under a key not indented any further; empty
ones are written in brackets. A text is written plain if it is read back as the same text; otherwise it is put into
quotes, and a text of several lines is written as a literal block. What a quoted text cannot hold in single quotes is
escaped in double quotes.
-/

set_option autoImplicit false

namespace FormValidation.Yaml

/-! ## How a text can be written -/

/-- Whether a character ends a line. -/
def isLineBreak (c : Char) : Bool :=
  c == '\n' || c == '\r' || c == '\u0085' || c == '\u2028' || c == '\u2029'

/-- Whether a character is written as it is. -/
def isPrintable (c : Char) : Bool :=
  let n := c.toNat
  n == 0x0A || (0x20 ≤ n && n ≤ 0x7E) || (0xA0 ≤ n && n ≤ 0xD7FF) || (0xE000 ≤ n && n ≤ 0xFFFD && n != 0xFEFF) ||
    0x10000 ≤ n

/-- Whether a character, or the end of the text, separates words. -/
def isSeparator : Option Char → Bool
  | none => true
  | some c => c == ' ' || c == '\t' || c == '\x00' || isLineBreak c

/-- Whether a text begins with a mark that stands for something else than text. -/
def beginsWithMark : List Char → Bool
  | [] => false
  | c :: rest =>
    "#,[]\x7b\x7d&*!|>'\"%@\x60".toList.contains c || ("?:-".toList.contains c && isSeparator rest.head?)

/-- Whether a colon before a separator, or a number sign behind one, stands behind the first character. -/
def holdsMark : List Char → Bool
  | a :: b :: rest =>
    (b == ':' && isSeparator rest.head?) || (b == '#' && isSeparator (some a)) || holdsMark (b :: rest)
  | _ => false

/-- Whether some neighbours in a text are two characters of two kinds. -/
def holdsPair (first second : Char → Bool) : List Char → Bool
  | a :: b :: rest => (first a && second b) || holdsPair first second (b :: rest)
  | _ => false

/-- Whether a character is a space. -/
def isSpace (c : Char) : Bool := c == ' '

/-- Whether the text begins like the marks between documents. -/
def beginsLikeDocumentMark (s : List Char) : Bool := s.take 3 == ['-', '-', '-'] || s.take 3 == ['.', '.', '.']

/-- Whether a text can be written plain. -/
def plainAllowed (s : List Char) : Bool :=
  s.all isPrintable && !s.any isLineBreak && !beginsLikeDocumentMark s && !beginsWithMark s && !holdsMark s &&
    !s.head?.any isSpace && !s.getLast?.any isSpace

/-- Whether a text can be written in single quotes. -/
def singleQuotesAllowed (s : List Char) : Bool :=
  s.all isPrintable && !holdsPair isLineBreak isSpace s && !holdsPair isSpace isLineBreak s

/-- Whether a text can be written as a literal block. -/
def literalAllowed (s : List Char) : Bool :=
  s.all isPrintable && !s.getLast?.any isSpace && !holdsPair isSpace isLineBreak s

/-- Whether a plain scalar with this text would be read, or may be taken, for something else than text. -/
def readsOtherwise (text : String) : Bool :=
  hasLeadingZero text.toList ||
  match plainValue text with
  | .text => false
  | _ => true

/-- The way a text is written. -/
inductive ScalarStyle where
  | plain
  | singleQuoted
  | doubleQuoted
  | literal
  deriving DecidableEq, Repr

/-- The style in which a text is written. -/
def styleOf (text : String) : ScalarStyle :=
  let s := text.toList
  if s.contains '\n' then if literalAllowed s then .literal else .doubleQuoted
  else if plainAllowed s && !readsOtherwise text then .plain
  else if singleQuotesAllowed s then .singleQuoted
  else .doubleQuoted

/-! ## Scalars -/

/-- The blanks of an indentation. -/
def pad (indent : Nat) : List Char := List.replicate indent ' '

/-- The characters of lines, each line that is not empty indented; `fresh` tells whether a line begins here. -/
def indentLines (indent : Nat) (encode : Char → List Char) (fresh : Bool) : List Char → List Char
  | [] => []
  | c :: rest =>
    if isLineBreak c then c :: indentLines indent encode true rest
    else (if fresh then pad indent else []) ++ encode c ++ indentLines indent encode false rest

/-- A quote inside single quotes is written twice. -/
def doubleQuote (c : Char) : List Char := if c = '\'' then [c, c] else [c]

/-- A text in single quotes. -/
def singleQuoted (indent : Nat) (s : List Char) : List Char :=
  let closing := if s.getLast?.any isLineBreak then pad indent ++ ['\''] else ['\'']
  '\'' :: indentLines indent doubleQuote false s ++ closing

/-- A number as hexadecimal digits in upper case, a fixed count of them. -/
def hexDigits : Nat → Nat → List Char
  | 0, _ => []
  | count + 1, n => hexDigits count (n / 16) ++ [(Nat.digitChar (n % 16)).toUpper]

/-- The escapes of one letter. -/
def letterEscapes : List (Char × Char) := [
  ('\x00', '0'), ('\x07', 'a'), ('\x08', 'b'), ('\t', 't'), ('\n', 'n'), ('\x0b', 'v'), ('\x0c', 'f'), ('\r', 'r'),
  ('\x1b', 'e'), ('"', '"'), ('\\', '\\'), ('\u0085', 'N'), ('\u2028', 'L'), ('\u2029', 'P')]

/-- A character inside double quotes. -/
def escape (c : Char) : List Char :=
  match letterEscapes.lookup c with
  | some letter => ['\\', letter]
  | none =>
    if isPrintable c then [c]
    else if c.toNat ≤ 0xFF then '\\' :: 'x' :: hexDigits 2 c.toNat
    else '\\' :: 'u' :: hexDigits 4 c.toNat

/-- A text in double quotes. -/
def doubleQuoted (s : List Char) : List Char := '"' :: s.flatMap escape ++ ['"']

/-- The mark behind the bar of a literal block that says how the end of the text is kept: a text without a last line
break, one with more than one, or one with just that of its last line. -/
def chompMark (s : List Char) : List Char :=
  match s.reverse with
  | [] => ['-']
  | last :: rest =>
    if !isLineBreak last then ['-']
    else if rest.head?.all isLineBreak then ['+']
    else []

/-- A text as a literal block. A text whose first line does not show the indentation has it written behind the bar. -/
def literalBlock (indent : Nat) (s : List Char) : List Char :=
  let hint := if s.head?.any fun c => isSpace c || isLineBreak c then ['2'] else []
  '|' :: hint ++ chompMark s ++ '\n' :: indentLines indent (fun c => [c]) true s

/-- A text at an indentation. -/
def textScalar (indent : Nat) (text : String) : List Char :=
  match styleOf text with
  | .plain => text.toList
  | .singleQuoted => singleQuoted indent text.toList
  | .doubleQuoted => doubleQuoted text.toList
  | .literal => literalBlock indent text.toList

/-- A text at an indentation with the end of its line; a literal block that ends with a line break needs no other. -/
def textLine (indent : Nat) (text : String) : List Char :=
  let written := textScalar indent text
  if styleOf text = .literal && written.getLast?.any isLineBreak then written else written ++ ['\n']

/-- Whether a text can be a key in front of its colon: it has one line and is not too long. -/
def isSimpleKey (text : String) : Bool := !text.toList.any isLineBreak && text.utf8ByteSize ≤ 128

/-- The text of a number; an exponent has no plus sign. -/
def numberText (n : JsonNumber) : List Char := n.text.toList.filter fun c => c ≠ '+'

/-! ## Documents -/

mutual

/-- A value behind a colon or dash at an indentation. Behind a key of the same line a list or map begins in the next
line, the list where the key does and the map further in; behind any other mark they begin at once. -/
def behind (key : Bool) (indent : Nat) : Json → List Char
  | .null => " null\n".toList
  | .bool b => if b then " true\n".toList else " false\n".toList
  | .number n => ' ' :: numberText n ++ ['\n']
  | .string text => ' ' :: textLine (indent + 2) text
  | .array items =>
    if items.isEmpty then " []\n".toList
    else if key then '\n' :: listLines (pad indent) indent items
    else ' ' :: listLines [] (indent + 2) items
  | .object members =>
    if members.isEmpty then " \x7b\x7d\n".toList
    else if key then '\n' :: mapLines (pad (indent + 2)) (indent + 2) members
    else ' ' :: mapLines [] (indent + 2) members

/-- The lines of the items of a list, given what stands before the first of them. -/
def listLines (start : List Char) (indent : Nat) : List Json → List Char
  | [] => []
  | item :: rest => start ++ '-' :: behind false indent item ++ listLines (pad indent) indent rest

/-- The lines of the entries of a map, given what stands before the first of them. A key that cannot stand before its
colon has a line of its own. -/
def mapLines (start : List Char) (indent : Nat) : List (String × Json) → List Char
  | [] => []
  | (key, value) :: rest =>
    let entry :=
      if isSimpleKey key then textScalar (indent + 2) key ++ ':' :: behind true indent value
      else '?' :: ' ' :: textLine (indent + 2) key ++ pad indent ++ ':' :: behind false indent value
    start ++ entry ++ mapLines (pad indent) indent rest

end

/-- The document of a value. -/
def document : Json → List Char
  | .string text => textLine 2 text
  | .array (item :: rest) => listLines [] 0 (item :: rest)
  | .object (member :: rest) => mapLines [] 0 (member :: rest)
  | other => (behind false 0 other).drop 1

/-- The document of a value as a text. -/
def write (value : Json) : String := String.ofList (document value)

end FormValidation.Yaml
