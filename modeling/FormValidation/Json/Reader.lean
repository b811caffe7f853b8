import FormValidation.Json.Basic

/-!
# Reading JSON

A text is read as one JSON value with nothing but blanks around it. `Json.parse` gives objects in the order of their
names, the last of several members with one name counting; `Json.parseAsWritten` keeps the members as they are written.
Values may be nested 127 levels deep.
-/

set_option autoImplicit false

namespace FormValidation

/-- Why a text is not JSON. -/
inductive JsonFault where
  | unexpectedEnd
  | unexpectedCharacter (c : Char)
  | controlCharacter
  | invalidEscape
  | loneSurrogate
  | invalidNumber
  | numberOutOfRange
  | nestedTooDeep
  | trailingCharacters
  deriving DecidableEq, Repr

/-- A short description of the fault. -/
def JsonFault.message : JsonFault → String
  | unexpectedEnd => "unexpected end of input"
  | unexpectedCharacter c => "unexpected character '" ++ c.toString ++ "'"
  | controlCharacter => "control character in a string"
  | invalidEscape => "invalid escape"
  | loneSurrogate => "lone surrogate in hex escape"
  | invalidNumber => "invalid number"
  | numberOutOfRange => "number out of range"
  | nestedTooDeep => "nested too deep"
  | trailingCharacters => "trailing characters"

namespace Json

/-- The blanks of JSON. -/
def isSpace (c : Char) : Bool := c == ' ' || c == '\n' || c == '\t' || c == '\r'

/-- The text behind its leading blanks. -/
def skipSpace (s : List Char) : List Char := s.dropWhile isSpace

/-- The value of a hexadecimal digit. -/
def hexValue? (c : Char) : Option Nat :=
  if c.isDigit then some (c.toNat - '0'.toNat)
  else if 'a' ≤ c ∧ c ≤ 'f' then some (c.toNat - 'a'.toNat + 10)
  else if 'A' ≤ c ∧ c ≤ 'F' then some (c.toNat - 'A'.toNat + 10)
  else none

/-- Four hexadecimal digits. -/
def readHex4 : List Char → Except JsonFault (Nat × List Char)
  | a :: b :: c :: d :: rest =>
    match hexValue? a, hexValue? b, hexValue? c, hexValue? d with
    | some w, some x, some y, some z => .ok (((w * 16 + x) * 16 + y) * 16 + z, rest)
    | _, _, _, _ => .error .invalidEscape
  | _ => .error .unexpectedEnd

/-- The character behind the escape for a code unit; a leading surrogate needs its trailing one. -/
def readCodeUnits (s : List Char) : Except JsonFault (Char × List Char) := do
  let (unit, rest) ← readHex4 s
  if 0xDC00 ≤ unit ∧ unit ≤ 0xDFFF then .error .loneSurrogate
  else if 0xD800 ≤ unit ∧ unit ≤ 0xDBFF then
    match rest with
    | '\\' :: 'u' :: rest =>
      let (second, rest) ← readHex4 rest
      if 0xDC00 ≤ second ∧ second ≤ 0xDFFF then
        .ok (Char.ofNat (0x10000 + (unit - 0xD800) * 0x400 + (second - 0xDC00)), rest)
      else .error .loneSurrogate
    | _ => .error .loneSurrogate
  else .ok (Char.ofNat unit, rest)

/-- The rest of a string whose opening quote has been read; `done` holds its characters in reverse. -/
def readString : Nat → List Char → List Char → Except JsonFault (String × List Char)
  | 0, _, _ => .error .unexpectedEnd
  | fuel + 1, done, s =>
    match s with
    | [] => .error .unexpectedEnd
    | '"' :: rest => .ok (String.ofList done.reverse, rest)
    | '\\' :: 'u' :: rest => do
      let (c, rest) ← readCodeUnits rest
      readString fuel (c :: done) rest
    | '\\' :: c :: rest =>
      match c with
      | '"' => readString fuel ('"' :: done) rest
      | '\\' => readString fuel ('\\' :: done) rest
      | '/' => readString fuel ('/' :: done) rest
      | 'b' => readString fuel ('\x08' :: done) rest
      | 'f' => readString fuel ('\x0c' :: done) rest
      | 'n' => readString fuel ('\n' :: done) rest
      | 'r' => readString fuel ('\r' :: done) rest
      | 't' => readString fuel ('\t' :: done) rest
      | _ => .error .invalidEscape
    | ['\\'] => .error .unexpectedEnd
    | c :: rest => if c.toNat < 0x20 then .error .controlCharacter else readString fuel (c :: done) rest

/-- The largest significand that is kept digit by digit. -/
def maxSignificand : Nat := Number.twoTo 64 - 1

/-- A number from its sign, significand and decimal exponent. -/
def floatOf (negative : Bool) (significand : Nat) (exponent : Int) : Except JsonFault JsonNumber :=
  match Number.Magnitude.ofDecimalParts significand exponent with
  | some magnitude => .ok (.float ⟨negative, magnitude⟩)
  | none => .error .numberOutOfRange

/-- The exponent of a number behind its `e`. An exponent beyond a 32-bit word makes the number zero or, for a nonzero
significand and a positive exponent, too large. -/
def readExponent (negative : Bool) (significand : Nat) (exponent : Int) (s : List Char) :
    Except JsonFault (JsonNumber × List Char) :=
  let (down, s) := match s with
    | '+' :: rest => (false, rest)
    | '-' :: rest => (true, rest)
    | _ => (false, s)
  let digits := s.takeWhile Char.isDigit
  let rest := s.dropWhile Char.isDigit
  match Number.readDigits? digits with
  | none => .error (if s.isEmpty then .unexpectedEnd else .invalidNumber)
  | some e =>
    if e ≥ Number.twoTo 31 then
      if significand ≠ 0 ∧ !down then .error .numberOutOfRange
      else .ok (.float ⟨negative, .zero⟩, rest)
    else do
      let value ← floatOf negative significand (if down then exponent - e else exponent + e)
      return (value, rest)

/-- Takes digits into the significand as long as it fits a 64-bit word; also gives the number of digits taken. -/
def takeDigits (significand taken : Nat) : List Char → Nat × Nat × List Char
  | [] => (significand, taken, [])
  | c :: rest =>
    match Number.digitValue? c with
    | none => (significand, taken, c :: rest)
    | some d =>
      if 10 * significand + d ≤ maxSignificand then takeDigits (10 * significand + d) (taken + 1) rest
      else (significand, taken, c :: rest)

/-- What follows the digits of a fraction: an exponent, or the end of the number. -/
def finishFloat (negative : Bool) (significand : Nat) (exponent : Int) (s : List Char) :
    Except JsonFault (JsonNumber × List Char) :=
  match s with
  | 'e' :: rest => readExponent negative significand exponent rest
  | 'E' :: rest => readExponent negative significand exponent rest
  | _ => do
    let value ← floatOf negative significand exponent
    return (value, s)

/-- The digits behind the point; those that no longer fit the significand are dropped. -/
def readFraction (negative : Bool) (significand : Nat) (exponent : Int) (s : List Char) :
    Except JsonFault (JsonNumber × List Char) :=
  match s with
  | [] => .error .unexpectedEnd
  | c :: _ =>
    if !c.isDigit then .error .invalidNumber
    else
      let (significand, taken, rest) := takeDigits significand 0 s
      finishFloat negative significand (exponent - taken) (rest.dropWhile Char.isDigit)

/-- A number, its sign read. -/
def readNumber (negative : Bool) (s : List Char) : Except JsonFault (JsonNumber × List Char) :=
  match s with
  | [] => .error .unexpectedEnd
  | c :: tail =>
    if !c.isDigit then .error .invalidNumber
    else if c == '0' && (match tail with | d :: _ => d.isDigit | [] => false) then .error .invalidNumber
    else
      let (significand, _, rest) := takeDigits 0 0 s
      let dropped := rest.takeWhile Char.isDigit
      let rest := rest.dropWhile Char.isDigit
      match rest with
      | '.' :: fraction => readFraction negative significand dropped.length fraction
      | 'e' :: exponent => readExponent negative significand dropped.length exponent
      | 'E' :: exponent => readExponent negative significand dropped.length exponent
      | _ =>
        if !dropped.isEmpty then finishFloat negative significand dropped.length rest
        else if !negative then .ok (.integer significand, rest)
        else if significand = 0 ∨ significand > Number.twoTo 63 then finishFloat true significand 0 rest
        else .ok (.integer (-(significand : Int)), rest)

/-- Takes a fixed word off the text. -/
def readWord (value : Json) : List Char → List Char → Except JsonFault (Json × List Char)
  | [], rest => .ok (value, rest)
  | w :: word, c :: rest => if w = c then readWord value word rest else .error (.unexpectedCharacter c)
  | _ :: _, [] => .error .unexpectedEnd

mutual

/-- A value, leading blanks allowed, nested at most `depth` levels. -/
def readValue (depth : Nat) : Nat → List Char → Except JsonFault (Json × List Char)
  | 0, _ => .error .unexpectedEnd
  | fuel + 1, s =>
    match skipSpace s with
    | [] => .error .unexpectedEnd
    | 'n' :: rest => readWord .null ['u', 'l', 'l'] rest
    | 't' :: rest => readWord (.bool true) ['r', 'u', 'e'] rest
    | 'f' :: rest => readWord (.bool false) ['a', 'l', 's', 'e'] rest
    | '"' :: rest => do
      let (text, rest) ← readString (rest.length + 1) [] rest
      return (.string text, rest)
    | '[' :: rest =>
      match depth with
      | 0 | 1 => .error .nestedTooDeep
      | depth + 1 =>
        match skipSpace rest with
        | ']' :: rest => .ok (.array [], rest)
        | rest => do
          let (items, rest) ← readItems depth fuel rest
          return (.array items, rest)
    | '\x7b' :: rest =>
      match depth with
      | 0 | 1 => .error .nestedTooDeep
      | depth + 1 =>
        match skipSpace rest with
        | '\x7d' :: rest => .ok (.object [], rest)
        | rest => do
          let (members, rest) ← readMembers depth fuel rest
          return (.object members, rest)
    | '-' :: rest => do
      let (value, rest) ← readNumber true rest
      return (.number value, rest)
    | c :: rest =>
      if c.isDigit then do
        let (value, rest) ← readNumber false (c :: rest)
        return (.number value, rest)
      else .error (.unexpectedCharacter c)

/-- The items of an array up to its closing bracket. -/
def readItems (depth : Nat) : Nat → List Char → Except JsonFault (List Json × List Char)
  | 0, _ => .error .unexpectedEnd
  | fuel + 1, s => do
    let (item, rest) ← readValue depth fuel s
    match skipSpace rest with
    | ',' :: rest =>
      let (items, rest) ← readItems depth fuel rest
      return (item :: items, rest)
    | ']' :: rest => return ([item], rest)
    | [] => .error .unexpectedEnd
    | c :: _ => .error (.unexpectedCharacter c)

/-- The members of an object up to its closing brace, in the order of the text. -/
def readMembers (depth : Nat) : Nat → List Char → Except JsonFault (List (String × Json) × List Char)
  | 0, _ => .error .unexpectedEnd
  | fuel + 1, s =>
    match skipSpace s with
    | '"' :: rest => do
      let (name, rest) ← readString (rest.length + 1) [] rest
      match skipSpace rest with
      | ':' :: rest =>
        let (value, rest) ← readValue depth fuel rest
        match skipSpace rest with
        | ',' :: rest =>
          let (members, rest) ← readMembers depth fuel rest
          return ((name, value) :: members, rest)
        | '\x7d' :: rest => return ([(name, value)], rest)
        | [] => .error .unexpectedEnd
        | c :: _ => .error (.unexpectedCharacter c)
      | [] => .error .unexpectedEnd
      | c :: _ => .error (.unexpectedCharacter c)
    | [] => .error .unexpectedEnd
    | c :: _ => .error (.unexpectedCharacter c)

end

mutual

/-- The value with all objects in the order of their names, the last of several members with one name counting. -/
def canonical : Json → Json
  | array items => array (canonicalItems items)
  | object members => object (FieldMap.ofList (canonicalMembers members)).entries
  | other => other

/-- The items of an array, canonical. -/
def canonicalItems : List Json → List Json
  | [] => []
  | item :: rest => canonical item :: canonicalItems rest

/-- The members of an object, canonical. -/
def canonicalMembers : List (String × Json) → List (String × Json)
  | [] => []
  | (name, value) :: rest => (name, canonical value) :: canonicalMembers rest

end

/-- Reads a text as one JSON value whose objects have their members as they are written. -/
def parseAsWritten (text : String) : Except JsonFault Json := do
  let s := text.toList
  let (value, rest) ← readValue 128 (2 * s.length + 2) s
  if (skipSpace rest).isEmpty then return value else .error .trailingCharacters

/-- Reads a text as one JSON value. -/
def parse (text : String) : Except JsonFault Json := (parseAsWritten text).map canonical

end Json

end FormValidation
