import FormValidation.Text.Case

/-!
# Filters

The filters that every profile can use: trimming and collapsing blanks, keeping the characters of a class, finding the
first number in a text, escaping, and changing case. A number is looked for from left to right and taken as long as it
goes; a text without one becomes the empty text.
-/

set_option autoImplicit false

namespace FormValidation.TextFilter

/-- A function on lists of characters as a filter. -/
def ofChars (f : List Char → List Char) (text : String) : String := String.ofList (f text.toList)

/-! ## Blanks and classes of characters -/

/-- Runs of blanks as one blank each; `inRun` tells whether the character before was a blank. -/
def collapse (inRun : Bool) : List Char → List Char
  | [] => []
  | c :: rest =>
    if Text.isBlank c then if inRun then collapse true rest else ' ' :: collapse true rest
    else c :: collapse false rest

/-- The text without blanks at its ends and with one blank for every run of blanks inside. -/
def strip (s : List Char) : List Char := collapse false (Text.trim s)

/-- The digits from 0 to 9. -/
def digit (s : List Char) : List Char := s.filter Char.isDigit

/-- Letters and numbers. -/
def alphanum (s : List Char) : List Char := s.filter Text.isAlphanumeric

/-- Whether a character can stand in a written phone number. -/
def isPhoneChar (c : Char) : Bool := c.isDigit || Text.isBlank c || "(),.-#".toList.contains c

/-- The characters that can stand in a written phone number. -/
def phone (s : List Char) : List Char := s.filter isPhoneChar

/-! ## Numbers -/

/-- The sign of a number: an optional one of some characters, or one that has to stand there. -/
inductive Sign where
  | optional (signs : List Char)
  | needed (sign : Char)
  deriving DecidableEq, Repr

/-- The part of a number behind its digits: none, or a point with at most a number of digits behind it. -/
inductive Fraction where
  | none
  | digits (limit : Option Nat)
  deriving DecidableEq, Repr

/-- How a number is written: its sign, its digits, and its fraction. -/
structure NumberSyntax where
  sign : Sign
  fraction : Fraction
  deriving DecidableEq, Repr

/-- The sign at the front of a text and the text behind it. -/
def Sign.take : Sign → List Char → Option (List Char × List Char)
  | optional signs, c :: rest => if signs.contains c then some ([c], rest) else some ([], c :: rest)
  | optional _, [] => some ([], [])
  | needed sign, c :: rest => if c = sign then some ([c], rest) else none
  | needed _, [] => none

/-- The digits at the front of a text, at most a number of them. -/
def takeDigits (limit : Option Nat) (s : List Char) : List Char :=
  let digits := s.takeWhile Text.isDecimalDigit
  match limit with
  | .none => digits
  | some n => digits.take n

/-- The fraction at the front of a text. -/
def Fraction.take : Fraction → List Char → List Char
  | digits limit, '.' :: rest => '.' :: takeDigits limit rest
  | _, _ => []

/-- The number at the front of a text. -/
def NumberSyntax.take (n : NumberSyntax) (s : List Char) : Option (List Char) :=
  match n.sign.take s with
  | .none => .none
  | some (sign, rest) =>
    match rest.takeWhile Text.isDecimalDigit with
    | [] => .none
    | digits => some (sign ++ digits ++ n.fraction.take (rest.dropWhile Text.isDecimalDigit))

/-- The first number in a text. -/
def NumberSyntax.first (n : NumberSyntax) : List Char → List Char
  | [] => []
  | c :: rest =>
    match n.take (c :: rest) with
    | some number => number
    | .none => n.first rest

/-- Integers with an optional sign. -/
def integer : NumberSyntax := ⟨.optional ['-', '+'], .none⟩

/-- Integers without a minus sign. -/
def posInteger : NumberSyntax := ⟨.optional ['+'], .none⟩

/-- Integers with a minus sign. -/
def negInteger : NumberSyntax := ⟨.needed '-', .none⟩

/-- Decimal numbers with an optional sign. -/
def decimal : NumberSyntax := ⟨.optional ['-', '+'], .digits .none⟩

/-- Decimal numbers without a minus sign. -/
def posDecimal : NumberSyntax := ⟨.optional ['+'], .digits .none⟩

/-- Decimal numbers with a minus sign. -/
def negDecimal : NumberSyntax := ⟨.needed '-', .digits .none⟩

/-- Amounts: digits with at most two places behind the point, without a sign. -/
def dollars : NumberSyntax := ⟨.optional [], .digits (some 2)⟩

/-- One character in the place of another. -/
def replace (old new : Char) (s : List Char) : List Char := s.map fun c => if c = old then new else c

/-- The first number in a text in which commas are read as points. -/
def firstWithPoint (n : NumberSyntax) (s : List Char) : List Char := n.first (replace ',' '.' s)

/-! ## Escaping and case -/

/-- A backslash before every character that is no letter, number or underscore. -/
def quotemeta (s : List Char) : List Char :=
  s.flatMap fun c => if Text.isAlphanumeric c || c == '_' then [c] else ['\\', c]

/-- The text in lower case but for its first character, which is in upper case. -/
def ucfirst (s : List Char) : List Char :=
  match Text.lower s with
  | [] => []
  | c :: rest => Text.upperChar c ++ rest

/-- The filters by name. -/
def builtins : List (String × (List Char → List Char)) := [
  ("trim", Text.trim),
  ("strip", strip),
  ("digit", digit),
  ("alphanum", alphanum),
  ("integer", integer.first),
  ("pos_integer", posInteger.first),
  ("neg_integer", negInteger.first),
  ("decimal", firstWithPoint decimal),
  ("pos_decimal", firstWithPoint posDecimal),
  ("neg_decimal", firstWithPoint negDecimal),
  ("dollars", firstWithPoint dollars),
  ("phone", phone),
  ("sql_wildcard", replace '*' '%'),
  ("quotemeta", quotemeta),
  ("lc", Text.lower),
  ("uc", Text.upper),
  ("ucfirst", ucfirst)]

end FormValidation.TextFilter
