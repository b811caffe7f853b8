import FormValidation.Number.Integer

/-!
# Binary floating-point numbers

A number with 53 bits of precision is held as a mantissa and a binary exponent, and every operation is exact
arithmetic on natural numbers followed by one rounding to the nearest representable number, a tie going to the even
mantissa. The text of a number has the fewest digits that read back as the same number.
-/

set_option autoImplicit false

namespace FormValidation.Number

/-- The magnitude `mantissa * 2 ^ exponent` of a finite number: the mantissa has at most 53 bits and the exponent is
at least -1074. -/
structure Magnitude where
  mantissa : Nat
  exponent : Int
  deriving DecidableEq, Repr

/-- A finite binary64 number. Zero keeps its sign. -/
structure Binary64 where
  negative : Bool
  magnitude : Magnitude
  deriving DecidableEq, Repr

/-- The quotient rounded to the nearest natural number, a tie to the even one. -/
def roundDiv (num den : Nat) : Nat :=
  let q := num / den
  let r := num % den
  if 2 * r < den then q else if den < 2 * r then q + 1 else if q % 2 = 0 then q else q + 1

/-- `a * 2 ^ e` as a fraction. -/
def scaleByTwo (a : Nat) (e : Int) : Nat × Nat := if e < 0 then (a, twoTo e.natAbs) else (a * twoTo e.natAbs, 1)

namespace Magnitude

/-- The magnitude zero. -/
def zero : Magnitude := ⟨0, -1074⟩

/-- The largest binary exponent `k` with `2 ^ k ≤ num / den`. -/
def binaryExponent (num den : Nat) : Int :=
  let k : Int := (Nat.log2 num : Int) - Nat.log2 den
  let (scaledDen, scaledNum) := scaleByTwo den k
  if scaledDen ≤ num * scaledNum then k else k - 1

/-- The representable magnitude nearest to a fraction, or `none` when the fraction is too large. -/
def ofFraction (num den : Nat) : Option Magnitude :=
  if num = 0 then some zero
  else
    let e := max (binaryExponent num den - 52) (-1074)
    let (scale, unit) := scaleByTwo 1 (-e)
    let m := roundDiv (num * scale) (den * unit)
    let rounded : Magnitude := if m = twoTo 53 then ⟨twoTo 52, e + 1⟩ else ⟨m, e⟩
    if rounded.exponent > 971 then none else some rounded

/-- The magnitude as a fraction. -/
def fraction (x : Magnitude) : Nat × Nat := scaleByTwo x.mantissa x.exponent

/-- The rounded product. -/
def mul (x y : Magnitude) : Option Magnitude :=
  ofFraction (x.fraction.1 * y.fraction.1) (x.fraction.2 * y.fraction.2)

/-- The rounded quotient. -/
def div (x y : Magnitude) : Option Magnitude :=
  ofFraction (x.fraction.1 * y.fraction.2) (x.fraction.2 * y.fraction.1)

/-- The magnitude nearest to a natural number. -/
def ofNat (n : Nat) : Option Magnitude := ofFraction n 1

/-- The magnitude nearest to a power of ten. -/
def tenToThe (k : Nat) : Option Magnitude := ofNat (tenTo k)

/-- Scales a magnitude by a power of ten: one rounded product or quotient with the rounded power, after as many
divisions by 10 ^ 308 as a far negative exponent asks for. `none` when the result is too large. -/
def scaleByTen : Nat → Magnitude → Int → Option Magnitude
  | 0, x, _ => some x
  | fuel + 1, x, e =>
    if e.natAbs ≤ 308 then
      (tenToThe e.natAbs).bind fun power => if e < 0 then x.div power else x.mul power
    else if x.mantissa = 0 then some x
    else if 0 ≤ e then none
    else ((tenToThe 308).bind x.div).bind fun y => scaleByTen fuel y (e + 308)

/-- The number `significand * 10 ^ exponent` as the notation of decimal fractions reads it: the significand is rounded
first, the scaling by the power of ten afterwards. -/
def ofDecimalParts (significand : Nat) (exponent : Int) : Option Magnitude :=
  (ofNat significand).bind fun x => scaleByTen (exponent.natAbs / 308 + 2) x exponent

/-- The number nearest to `digits * 10 ^ exponent`, in one rounding step. -/
def ofDecimal (digits : Nat) (exponent : Int) : Option Magnitude :=
  if exponent < 0 then ofFraction digits (tenTo exponent.natAbs) else ofFraction (digits * tenTo exponent.natAbs) 1

end Magnitude

/-! ## The shortest decimal text -/

/-- Whether `digits * 10 ^ place` reads back as the magnitude: it lies between the midpoints to the two neighbours,
which belong to the interval exactly when the mantissa is even. -/
def Magnitude.readsBack (x : Magnitude) (digits : Nat) (place : Int) : Bool :=
  let narrow := x.mantissa = twoTo 52 ∧ x.exponent > -1074
  let (unitNum, unitDen) := scaleByTwo 1 (x.exponent - 2)
  let above := 4 * x.mantissa + 2
  let below := if narrow then 4 * x.mantissa - 1 else 4 * x.mantissa - 2
  let (num, den) := if place < 0 then (digits, tenTo place.natAbs) else (digits * tenTo place.natAbs, 1)
  let candidate := num * unitDen
  let lower := below * unitNum * den
  let upper := above * unitNum * den
  if x.mantissa % 2 = 0 then lower ≤ candidate && candidate ≤ upper else lower < candidate && candidate < upper

/-- The neighbour of the magnitude on the decimal grid of one place that reads back, the nearer one of two. -/
def Magnitude.onGrid (x : Magnitude) (place : Int) : Option Nat :=
  let (num, den) := x.fraction
  let (gridNum, gridDen) := if place < 0 then (num * tenTo place.natAbs, den) else (num, den * tenTo place.natAbs)
  let floor := gridNum / gridDen
  match x.readsBack floor place, x.readsBack (floor + 1) place with
  | true, true => some (roundDiv gridNum gridDen)
  | true, false => some floor
  | false, true => some (floor + 1)
  | false, false => none

/-- Searches the decimal grids from a coarse place downwards for the first with a number that reads back. -/
def Magnitude.shortestFrom (x : Magnitude) : Nat → Int → Nat × Int
  | 0, place => (x.mantissa, place)
  | fuel + 1, place =>
    match x.onGrid place with
    | some digits => (digits, place)
    | none => x.shortestFrom fuel (place - 1)

/-- Drops the zeros at the end of the digits. -/
def stripZeros : Nat → Nat → Int → Nat × Int
  | 0, digits, place => (digits, place)
  | fuel + 1, digits, place =>
    if digits ≠ 0 ∧ digits % 10 = 0 then stripZeros fuel (digits / 10) (place + 1) else (digits, place)

/-- The fewest decimal digits that read back as the magnitude, with the place of the last one. -/
def Magnitude.shortest (x : Magnitude) : Nat × Int :=
  let (num, den) := x.fraction
  let top : Int := ((Magnitude.binaryExponent num den) * 30103 / 100000) + 1
  let (digits, place) := x.shortestFrom 25 top
  stripZeros 25 digits place

/-- How the text of a number is laid out: positional from the fifth place behind the point up to the sixteenth before
it, otherwise with an exponent that carries its sign; the positional form always has a point. -/
def layout (digits : List Char) (place : Int) : List Char :=
  let point : Int := digits.length + place
  if 0 ≤ place ∧ point ≤ 16 then digits ++ List.replicate place.natAbs '0' ++ ['.', '0']
  else if 0 < point ∧ point ≤ 16 then digits.take point.natAbs ++ '.' :: digits.drop point.natAbs
  else if -5 < point ∧ point ≤ 0 then '0' :: '.' :: (List.replicate point.natAbs '0' ++ digits)
  else
    let exponent := point - 1
    let tail := 'e' :: ((if exponent < 0 then '-' else '+') :: natDigits exponent.natAbs)
    match digits with
    | [] => tail
    | [d] => d :: tail
    | d :: rest => d :: '.' :: (rest ++ tail)

/-- The text of a number: the fewest digits that read back. -/
def Binary64.text (x : Binary64) : List Char :=
  let body :=
    if x.magnitude.mantissa = 0 then ['0', '.', '0']
    else
      let (digits, place) := x.magnitude.shortest
      layout (natDigits digits) place
  if x.negative then '-' :: body else body

end FormValidation.Number
