import FormValidation.Text.Case
import FormValidation.Value

/-!
# Redaction

What must not be shown of a record that is printed for people. The values of fields whose names suggest a secret are
masked as a whole. In all other values the numbers of payment cards are masked but for their last four digits: runs of
13 to 19 digits that stand as words of their own, the digits joined or set apart by single blanks and hyphens, the last
four joined.
-/

set_option autoImplicit false

namespace FormValidation.Redaction

/-- What is shown instead of a secret. -/
def mask : String := "***"

/-- The parts of names, in lower case, that suggest a secret. -/
def sensitiveMarkers : List String :=
  ["password", "passwd", "secret", "token", "key", "credential", "ssn", "cvv", "cc_no", "card"]

/-- Whether a text occurs in another one. -/
def occursIn (part : List Char) : List Char → Bool
  | [] => part.isEmpty
  | c :: rest => part.isPrefixOf (c :: rest) || occursIn part rest

/-- Whether the name of a field suggests a secret. -/
def isSensitive (name : String) : Bool :=
  let lowered := Text.lower name.toList
  sensitiveMarkers.any fun marker => occursIn marker.toList lowered

/-- Whether a character may stand between two digits of a card number. -/
def isGap (c : Char) : Bool := c == ' ' || c == '-'

/-- Whether a text goes on with a character of a word. -/
def wordAhead (s : List Char) : Bool := s.head?.any Text.isWordChar

/-- How many more characters the longest card number takes of which `count` digits have been read, the last `joined`
of them without a gap; `none` if it cannot end here or further on. -/
def cardEnd (count joined : Nat) : List Char → Option Nat
  | [] => if 13 ≤ count ∧ 4 ≤ joined then some 0 else none
  | c :: rest =>
    let further :=
      if 19 ≤ count then none
      else if Text.isDecimalDigit c then (cardEnd (count + 1) (joined + 1) rest).map fun n => n + 1
      else if isGap c then
        match rest with
        | d :: behind =>
          if Text.isDecimalDigit d then (cardEnd (count + 1) 1 behind).map fun n => n + 2 else none
        | [] => none
      else none
    match further with
    | some n => some n
    | none => if 13 ≤ count ∧ 4 ≤ joined ∧ !Text.isWordChar c then some 0 else none

/-- The number of characters of the longest card number at the front of a text that is not the middle of a word. -/
def cardLength? (afterWord : Bool) : List Char → Option Nat
  | [] => none
  | c :: rest => if !afterWord && Text.isDecimalDigit c then (cardEnd 1 1 rest).map fun n => n + 1 else none

/-- The last four characters of a text. -/
def lastFour (s : List Char) : List Char := s.drop (s.length - 4)

/-- The text with its card numbers masked, after `skipped` characters that are left out; `afterWord` tells whether a
character of a word stands before the text. -/
def maskCards (afterWord : Bool) (skipped : Nat) : List Char → List Char
  | [] => []
  | c :: rest =>
    match skipped with
    | n + 1 => maskCards (Text.isWordChar c) n rest
    | 0 =>
      match cardLength? afterWord (c :: rest) with
      | some n => mask.toList ++ lastFour ((c :: rest).take n) ++ maskCards (Text.isWordChar c) (n - 1) rest
      | none => c :: maskCards (Text.isWordChar c) 0 rest

/-- A text with its card numbers masked. -/
def redactText (text : String) : String := String.ofList (maskCards false 0 text.toList)

/-- A value of a field, fit to be shown. -/
def redactValue (name : String) (value : FieldValue) : FieldValue :=
  value.map (if isSensitive name then fun _ => mask else redactText)

/-- A record fit to be shown. -/
def redactRecord (record : Record) : Record := record.mapWithKey redactValue

end FormValidation.Redaction
