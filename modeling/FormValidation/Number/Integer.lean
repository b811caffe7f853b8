/-!
# Integers as text

Reading integers from decimal text, within the bounds of the machine word that the number is kept in, and the decimal
text of a natural number.
-/

set_option autoImplicit false

namespace FormValidation.Number

/-- Two to a power. -/
def twoTo (n : Nat) : Nat := Nat.pow 2 n

/-- Ten to a power. -/
def tenTo (n : Nat) : Nat := Nat.pow 10 n

/-- The value of a digit from 0 to 9. -/
def digitValue? (c : Char) : Option Nat := if c.isDigit then some (c.toNat - '0'.toNat) else none

/-- The value of a text of decimal digits that continues a number read so far. -/
def digitsFrom (value : Nat) : List Char → Option Nat
  | [] => some value
  | c :: rest => (digitValue? c).bind fun d => digitsFrom (10 * value + d) rest

/-- The value of a non-empty text of decimal digits. -/
def readDigits? (s : List Char) : Option Nat := if s.isEmpty then none else digitsFrom 0 s

/-- A natural number of at most `bits` bits: digits with an optional plus sign. -/
def readUnsigned? (bits : Nat) (s : List Char) : Option Nat := do
  let n ← readDigits? (match s with | '+' :: rest => rest | _ => s)
  if n < twoTo bits then some n else none

/-- An integer of `bits` bits in two's complement: digits with an optional sign. -/
def readSigned? (bits : Nat) (s : List Char) : Option Int :=
  match s with
  | '-' :: rest => do
    let n ← readDigits? rest
    if n ≤ twoTo (bits - 1) then some (-(n : Int)) else none
  | _ => do
    let n ← readUnsigned? (bits - 1) s
    some (n : Int)

/-- The decimal digits of a natural number. -/
def natDigits (n : Nat) : List Char := Nat.toDigits 10 n

/-- The decimal text of an integer. -/
def intDigits (i : Int) : List Char := if i < 0 then '-' :: natDigits i.natAbs else natDigits i.natAbs

/-- The decimal text of a natural number. -/
def natText (n : Nat) : String := String.ofList (natDigits n)

end FormValidation.Number
