import FormValidation.Text.Table.Property

/-!
# Classes of characters

The character classes of the Unicode standard that fields are cleaned and checked with. A class is looked up in an
ascending table of code-point ranges; `isBlank` is the one notion of whitespace of the library, used by trimming and
by patterns alike.
-/

set_option autoImplicit false

namespace FormValidation.Text

/-- Whether a code point lies in one of the ranges of an ascending table. The search stops at the first range that
starts behind the code point. -/
def inRanges (point : Nat) : List (Nat × Nat) → Bool
  | [] => false
  | (first, last) :: rest => if point < first then false else if point ≤ last then true else inRanges point rest

/-- Whitespace of every kind, line breaks and the no-break spaces included. -/
def isBlank (c : Char) : Bool := inRanges c.toNat Table.blank

/-- Letters, and the marks that the standard counts as letters. -/
def isAlphabetic (c : Char) : Bool := inRanges c.toNat Table.alphabetic

/-- Digits and numbers of every script, fractions and letter numbers included. -/
def isNumeric (c : Char) : Bool := inRanges c.toNat Table.numeric

/-- Letters and numbers. -/
def isAlphanumeric (c : Char) : Bool := isAlphabetic c || isNumeric c

/-- Decimal digits of every script. -/
def isDecimalDigit (c : Char) : Bool := inRanges c.toNat Table.decimalDigit

/-- Characters of which words consist: letters, marks, decimal digits, connectors such as the underscore, and the
two joiners. -/
def isWordChar (c : Char) : Bool :=
  isAlphabetic c || isDecimalDigit c || inRanges c.toNat Table.mark || inRanges c.toNat Table.connector ||
    inRanges c.toNat Table.joinControl

/-- Word characters of the ASCII range: letters, digits and the underscore. -/
def isAsciiWordChar (c : Char) : Bool := c.isAlphanum || c == '_'

/-- Characters that have a case. -/
def isCased (c : Char) : Bool := inRanges c.toNat Table.cased

/-- Characters that are passed over when the neighbours of a letter decide its case. -/
def isCaseIgnorable (c : Char) : Bool := inRanges c.toNat Table.caseIgnorable

/-- The text without the blanks at its start. -/
def trimStart (s : List Char) : List Char := s.dropWhile isBlank

/-- The text without the blanks at its end. -/
def trimEnd (s : List Char) : List Char := (s.reverse.dropWhile isBlank).reverse

/-- The text without the blanks at either end. -/
def trim (s : List Char) : List Char := trimEnd (trimStart s)

end FormValidation.Text
