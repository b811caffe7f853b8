import FormValidation.Constraint.Function

/-!
# Payment cards

Card numbers, card types and expiry dates. A card number has between 12 and 19 digits, whatever stands between them,
and its check digit has to be right; given the type of the card, its length and its first digits have to fit as well.
-/

set_option autoImplicit false

namespace FormValidation

/-- A day of the calendar. -/
structure Date where
  year : Int
  month : Nat
  day : Nat
  deriving DecidableEq, Repr

namespace Card

/-- The value of a digit character. -/
def digitValue (c : Char) : Nat := c.toNat - '0'.toNat

/-- The weight of a digit in a doubled place: twice its value, less 9 when that has two digits. -/
def doubled (d : Nat) : Nat := if 2 * d > 9 then 2 * d - 9 else 2 * d

/-- The check sum of digits in reverse, every second one doubled; `second` tells whether the first one is. -/
def checkSum (second : Bool) : List Char → Nat
  | [] => 0
  | c :: rest => (if second then doubled (digitValue c) else digitValue c) + checkSum (!second) rest

/-- Whether the last digit of a card number is the right check digit. -/
def luhn (digits : List Char) : Bool := checkSum false digits.reverse % 10 == 0

/-- Whether a number of digits begins like the cards of a type and has their length; `kind` is the letter of the type
as a capital. -/
def fits (kind : Char) (digits : List Char) : Bool :=
  let starts := fun (front : String) => front.toList.isPrefixOf digits
  let length := digits.length
  if kind = 'M' then length == 16 && ["51", "52", "53", "54", "55"].any starts
  else if kind = 'V' then (length == 13 || length == 16) && starts "4"
  else if kind = 'A' then length == 15 && (starts "34" || starts "37")
  else if kind = 'D' then length == 16 && starts "6011"
  else false

/-- The letter by which a card type is named: its first character behind blanks, as a capital. -/
def typeLetter? (cardType : String) : Option Char := (Text.trim cardType.toList).head?.map Char.toUpper

/-- Whether digits fit the type of a card, if one is given. -/
def fitsType (digits : List Char) (cardType : Option String) : Bool :=
  match cardType.bind typeLetter? with
  | none => true
  | some kind => fits kind digits

/-- A card number; only its digits are kept. -/
def number (text : String) (cardType : Option String) : Verdict :=
  let digits := text.toList.filter Char.isDigit
  if digits.length < 12 || digits.length > 19 || !luhn digits then .rejected
  else Verdict.check (fitsType digits cardType) (String.ofList digits)

/-- A card type; its letter is kept. -/
def type (text : String) : Verdict :=
  match typeLetter? text with
  | some kind => Verdict.check (['M', 'V', 'A', 'D'].contains kind) (String.ofList [kind])
  | none => .rejected

/-- The year that a year of an expiry date means: two digits are a year from 1970 to 2069. -/
def fullYear (year : Int) : Int := if year < 100 then if year < 70 then year + 2000 else year + 1900 else year

/-- The month and the year of an expiry date, as they are written. -/
def readExpiry? (text : String) : Option (Nat × Int) := do
  let (front, back) ← Text.splitAtFirst? '/' (Text.trim text.toList)
  let month ← Number.readUnsigned? 32 (Text.trim front)
  let year ← Number.readSigned? 32 (Text.trim back)
  if 1 ≤ month ∧ month ≤ 12 then some (month, year) else none

/-- Whether a text is an expiry date that lies in the month of a day or later. -/
def notExpired (text : String) (today : Date) : Bool :=
  match readExpiry? text with
  | none => false
  | some (month, year) =>
    today.year < fullYear year || (fullYear year == today.year && today.month ≤ month)

end Card

end FormValidation
