import FormValidation.Json.Basic

/-!
# YAML documents

A document is a tree of scalars, lists and maps. A scalar keeps its text and whether it was written plain; what a
plain scalar means, a truth value, a number, nothing at all, or just its text, is decided by `Yaml.plainValue`.
-/

set_option autoImplicit false

namespace FormValidation

/-- A YAML document. -/
inductive Yaml where
  | scalar (plain : Bool) (text : String)
  | list (items : List Yaml)
  | map (entries : List (Yaml × Yaml))

instance : Inhabited Yaml := ⟨.scalar true ""⟩

/-- Why a text is not a YAML document that can be used. -/
inductive YamlFault where
  | forbiddenCharacter
  | unexpectedCharacter
  | tabIndentation
  | keyWithoutValue
  | entryNotAllowed
  | keyNotAllowed
  | valueNotAllowed
  | unclosedScalar
  | documentMarkInScalar
  | invalidEscape
  | invalidBlockHeader
  | unexpectedToken
  | severalDocuments
  | duplicateKey
  | numberTooLarge
  | nestedTooDeep
  | unsupported
  | wrongShape
  deriving DecidableEq, Repr

/-- A short description of the fault. -/
def YamlFault.message : YamlFault → String
  | forbiddenCharacter => "control characters are not allowed"
  | unexpectedCharacter => "found character that cannot start any token"
  | tabIndentation => "found a tab character that violates indentation"
  | keyWithoutValue => "could not find expected ':'"
  | entryNotAllowed => "block sequence entries are not allowed in this context"
  | keyNotAllowed => "mapping keys are not allowed in this context"
  | valueNotAllowed => "mapping values are not allowed in this context"
  | unclosedScalar => "found unexpected end of stream"
  | documentMarkInScalar => "found unexpected document indicator"
  | invalidEscape => "found unknown escape character"
  | invalidBlockHeader => "did not find expected comment or line break"
  | unexpectedToken => "did not find expected node content"
  | severalDocuments => "deserializing from YAML containing more than one document is not supported"
  | duplicateKey => "duplicate entry"
  | numberTooLarge => "integer out of range"
  | nestedTooDeep => "recursion limit exceeded"
  | unsupported => "anchors, aliases and tags are not supported"
  | wrongShape => "invalid type"

namespace Yaml

/-- What a plain scalar means. -/
inductive PlainValue where
  | nothing
  | truth (b : Bool)
  | integer (i : Int)
  | float (x : Number.Binary64)
  | notFinite
  | text

/-- The digit of a character in a base of at most sixteen. -/
def digitIn? (base : Nat) (c : Char) : Option Nat :=
  let value :=
    if c.isDigit then c.toNat - '0'.toNat
    else if 'a' ≤ c ∧ c ≤ 'f' then c.toNat - 'a'.toNat + 10
    else if 'A' ≤ c ∧ c ≤ 'F' then c.toNat - 'A'.toNat + 10
    else 16
  if value < base then some value else none

/-- The number that digits of a base continue. -/
def digitsIn (base value : Nat) : List Char → Option Nat
  | [] => some value
  | c :: rest => (digitIn? base c).bind fun d => digitsIn base (value * base + d) rest

/-- The number of a non-empty text of digits of a base. -/
def natIn? (base : Nat) (s : List Char) : Option Nat := if s.isEmpty then none else digitsIn base 0 s

/-- The text behind an optional sign among some characters. -/
def behindSign (signs : List Char) : List Char → List Char
  | c :: rest => if signs.contains c then rest else c :: rest
  | [] => []

/-- Whether a text is made of digits that start with a zero too many, which makes it no number. -/
def hasLeadingZero (s : List Char) : Bool :=
  match behindSign ['-', '+'] s with
  | '0' :: c :: rest => (c :: rest).all Char.isDigit
  | _ => false

/-- The number of a text without a sign, in one of the notations of integers. -/
def natural? (s : List Char) : Option Nat :=
  match s with
  | '0' :: 'x' :: rest => natIn? 16 rest
  | '0' :: 'o' :: rest => natIn? 8 rest
  | '0' :: 'b' :: rest => natIn? 2 rest
  | _ => if hasLeadingZero s then none else natIn? 10 s

/-- The integer of a text. -/
def integer? (s : List Char) : Option Int :=
  match s with
  | '-' :: rest => (natural? rest).map fun n => -(n : Int)
  | '+' :: rest => (natural? rest).map fun n => (n : Int)
  | _ => (natural? s).map fun n => (n : Int)

/-- Digits with the number that they continue, how many there are, and the text behind them. -/
def takeDigits (value count : Nat) : List Char → Nat × Nat × List Char
  | c :: rest =>
    match Number.digitValue? c with
    | some d => takeDigits (value * 10 + d) (count + 1) rest
    | none => (value, count, c :: rest)
  | [] => (value, count, [])

/-- The exponent at the end of a decimal number. -/
def exponent? : List Char → Option Int
  | [] => some 0
  | c :: rest =>
    if c = 'e' ∨ c = 'E' then
      match rest with
      | '-' :: digits => (natIn? 10 digits).map fun n => -(n : Int)
      | '+' :: digits => (natIn? 10 digits).map fun n => (n : Int)
      | digits => (natIn? 10 digits).map fun n => (n : Int)
    else none

/-- The digits and the decimal exponent of a decimal number without a sign. -/
def decimal? (s : List Char) : Option (Nat × Int) :=
  let (whole, count, rest) := takeDigits 0 0 s
  match rest with
  | '.' :: rest =>
    let (digits, places, rest) := takeDigits whole 0 rest
    if count + places = 0 then none else (exponent? rest).map fun e => (digits, e - (places : Int))
  | _ => if count = 0 then none else (exponent? rest).map fun e => (whole, e)

/-- The binary64 number nearest to a decimal one, if it is finite. Exponents beyond any such number are not computed
with. -/
def magnitude? (digits : Nat) (exponent : Int) : Option Number.Magnitude :=
  let size : Int := (Number.natDigits digits).length
  if digits = 0 ∨ exponent + size < -400 then some Number.Magnitude.zero
  else if exponent > 400 then none
  else Number.Magnitude.ofDecimal digits exponent

/-- The meaning of a number with a point or an exponent, or of one of the words for what is no finite number. -/
def float? (s : List Char) : Option PlainValue :=
  if [".inf", ".Inf", ".INF", "+.inf", "+.Inf", "+.INF", "-.inf", "-.Inf", "-.INF", ".nan", ".NaN", ".NAN"].contains
      (String.ofList s) then some .notFinite
  else
    let (negative, unsigned) := match s with
      | '-' :: rest => (true, rest)
      | '+' :: rest => (false, rest)
      | _ => (false, s)
    (decimal? unsigned).bind fun (digits, exponent) =>
      (magnitude? digits exponent).map fun magnitude => .float ⟨negative, magnitude⟩

/-- Whether an integer fits a word of 128 bits, signed or unsigned. -/
def fitsWord (i : Int) : Bool := -(Number.twoTo 127 : Int) ≤ i ∧ i < Number.twoTo 128

/-- What the text of a plain scalar means. An integer that fits no word is read as a number with a fraction. -/
def plainValue (text : String) : PlainValue :=
  if ["", "~", "null", "Null", "NULL"].contains text then .nothing
  else if ["true", "True", "TRUE"].contains text then .truth true
  else if ["false", "False", "FALSE"].contains text then .truth false
  else
    match (integer? text.toList).filter fitsWord with
    | some i => .integer i
    | none => if hasLeadingZero text.toList then .text else (float? text.toList).getD .text

end Yaml

end FormValidation
