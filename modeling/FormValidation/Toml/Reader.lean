import FormValidation.Number.Integer
import FormValidation.Toml.Basic

/-!
# Reading TOML

A document is read line by line: headers open tables, and lines with a key and a value put values into the table of
the last header. Values may reach over several lines only inside the brackets of an array and inside texts in three
quotes.
-/

set_option autoImplicit false

namespace FormValidation.Toml

/-! ## Blanks -/

/-- Whether a character is a blank inside a line. -/
def isBlank (c : Char) : Bool := c == ' ' || c == '\t'

/-- The text behind its leading blanks. -/
def skipBlanks (s : List Char) : List Char := s.dropWhile isBlank

/-- Whether a character may not be written at all in comments and texts of one line. -/
def isControl (c : Char) : Bool := (c.toNat < 0x20 && c != '\t') || c == '\x7f'

/-- The text behind a line break, if there is one. -/
def lineBreak? : List Char → Option (List Char)
  | '\n' :: rest => some rest
  | '\r' :: '\n' :: rest => some rest
  | _ => none

/-- The text behind a comment, which ends before a line break or with the text. -/
def skipComment : List Char → Except TomlFault (List Char)
  | [] => .ok []
  | c :: rest =>
    if (lineBreak? (c :: rest)).isSome then .ok (c :: rest)
    else if isControl c then .error .controlCharacter
    else skipComment rest

/-- The text behind blanks and a comment. -/
def skipToLineEnd (s : List Char) : Except TomlFault (List Char) :=
  match skipBlanks s with
  | '#' :: rest => skipComment rest
  | rest => .ok rest

/-- The text behind blanks, comments and line breaks; `fuel` bounds the number of lines. -/
def skipLines : Nat → List Char → Except TomlFault (List Char)
  | 0, s => .ok s
  | fuel + 1, s => do
    let rest ← skipToLineEnd s
    match lineBreak? rest with
    | some rest => skipLines fuel rest
    | none => return rest

/-! ## Texts -/

/-- The number of hexadecimal digits. -/
def hexNumber : Nat → List Char → Option Nat
  | value, [] => some value
  | value, c :: rest =>
    if c.isDigit then hexNumber (value * 16 + (c.toNat - '0'.toNat)) rest
    else if 'a' ≤ c ∧ c ≤ 'f' then hexNumber (value * 16 + (c.toNat - 'a'.toNat + 10)) rest
    else if 'A' ≤ c ∧ c ≤ 'F' then hexNumber (value * 16 + (c.toNat - 'A'.toNat + 10)) rest
    else none

/-- The character of a number of hexadecimal digits, and the text behind them. -/
def readCodePoint (count : Nat) (s : List Char) : Except TomlFault (Char × List Char) :=
  if s.length < count then .error .unexpectedEnd
  else
    match hexNumber 0 (s.take count) with
    | none => .error .invalidEscape
    | some n => if Nat.isValidChar n then .ok (Char.ofNat n, s.drop count) else .error .invalidEscape

/-- The character of an escape behind its backslash. -/
def readEscape : List Char → Except TomlFault (Char × List Char)
  | 'b' :: rest => .ok ('\x08', rest)
  | 't' :: rest => .ok ('\t', rest)
  | 'n' :: rest => .ok ('\n', rest)
  | 'f' :: rest => .ok ('\x0c', rest)
  | 'r' :: rest => .ok ('\r', rest)
  | '"' :: rest => .ok ('"', rest)
  | '\\' :: rest => .ok ('\\', rest)
  | 'u' :: rest => readCodePoint 4 rest
  | 'U' :: rest => readCodePoint 8 rest
  | _ => .error .invalidEscape

/-- A text of one line up to its closing quote, with escapes or without. -/
def readShortText (quote : Char) (escapes : Bool) : Nat → List Char → Except TomlFault (List Char × List Char)
  | 0, _ => .error .unexpectedEnd
  | fuel + 1, s =>
    match s with
    | [] => .error .unexpectedEnd
    | c :: rest =>
      if c = quote then .ok ([], rest)
      else if c = '\\' ∧ escapes then do
        let (escaped, rest) ← readEscape rest
        let (more, rest) ← readShortText quote escapes fuel rest
        return (escaped :: more, rest)
      else if isControl c then .error .controlCharacter
      else do
        let (more, rest) ← readShortText quote escapes fuel rest
        return (c :: more, rest)

/-- The text behind a backslash at the end of a line: all blanks and line breaks are left out. -/
def skipContinuation : Nat → List Char → List Char
  | 0, s => s
  | fuel + 1, s =>
    match lineBreak? (skipBlanks s) with
    | some rest => skipContinuation fuel rest
    | none => skipBlanks s

/-- A text of several lines up to its three closing quotes, before which it may have one or two quotes more. -/
def readLongText (quote : Char) (escapes : Bool) : Nat → List Char → Except TomlFault (List Char × List Char)
  | 0, _ => .error .unexpectedEnd
  | fuel + 1, s =>
    match lineBreak? s with
    | some rest => do
      let (more, rest) ← readLongText quote escapes fuel rest
      return ('\n' :: more, rest)
    | none =>
      match s with
      | [] => .error .unexpectedEnd
      | c :: rest =>
        let quotes := (s.takeWhile (· == quote)).length
        if 3 ≤ quotes then
          let inside := min (quotes - 3) 2
          .ok (List.replicate inside quote, s.drop (inside + 3))
        else if c = '\\' ∧ escapes then
          if (lineBreak? (skipBlanks rest)).isSome then readLongText quote escapes fuel (skipContinuation rest.length rest)
          else do
            let (escaped, rest) ← readEscape rest
            let (more, rest) ← readLongText quote escapes fuel rest
            return (escaped :: more, rest)
        else if isControl c then .error .controlCharacter
        else do
          let (more, rest) ← readLongText quote escapes fuel rest
          return (c :: more, rest)

/-- A text behind its first quote: one in three quotes may have several lines and begins behind a first line break. -/
def readText (quote : Char) (escapes : Bool) (s : List Char) : Except TomlFault (String × List Char) :=
  match s with
  | a :: b :: rest =>
    if a = quote ∧ b = quote then do
      let (content, rest) ← readLongText quote escapes (rest.length + 1) ((lineBreak? rest).getD rest)
      return (String.ofList content, rest)
    else do
      let (content, rest) ← readShortText quote escapes (s.length + 1) s
      return (String.ofList content, rest)
  | _ => do
    let (content, rest) ← readShortText quote escapes (s.length + 1) s
    return (String.ofList content, rest)

/-! ## Keys -/

/-- Whether a character can stand in a key without quotes. -/
def isKeyChar (c : Char) : Bool := c.isAlphanum || c == '_' || c == '-'

/-- A part of a key. -/
def readKeyPart (s : List Char) : Except TomlFault (String × List Char) :=
  match s with
  | '"' :: rest => do
    let (content, rest) ← readShortText '"' true (rest.length + 1) rest
    return (String.ofList content, rest)
  | '\'' :: rest => do
    let (content, rest) ← readShortText '\'' false (rest.length + 1) rest
    return (String.ofList content, rest)
  | _ =>
    match s.takeWhile isKeyChar with
    | [] => .error .unexpectedCharacter
    | part => .ok (String.ofList part, s.dropWhile isKeyChar)

/-- A key, its parts set apart by points: the parts before the last one, and the last one. -/
def readKey : Nat → List Char → Except TomlFault (List String × String × List Char)
  | 0, _ => .error .unexpectedEnd
  | fuel + 1, s => do
    let (part, rest) ← readKeyPart (skipBlanks s)
    match skipBlanks rest with
    | '.' :: rest =>
      let (path, key, rest) ← readKey fuel rest
      return (part :: path, key, rest)
    | rest => return ([], part, rest)

/-! ## Numbers and dates -/

/-- The digits of a number without the underscores between them; an underscore stands between two digits. -/
def joinDigits (isDigit : Char → Bool) : List Char → Option (List Char)
  | [] => some []
  | [c] => if isDigit c then some [c] else none
  | c :: d :: rest =>
    if !isDigit c then none
    else if d = '_' then if rest.isEmpty then none else (joinDigits isDigit rest).map (c :: ·)
    else (joinDigits isDigit (d :: rest)).map (c :: ·)

/-- The number of digits of a base. -/
def ofDigits (base : Nat) (digits : List Char) : Nat :=
  digits.foldl (fun value c => value * base + (hexNumber 0 [c]).getD 0) 0

/-- The number behind the mark of a base. -/
def basedNumber? (base : Nat) (digits : List Char) : Option Nat :=
  match joinDigits (fun c => (hexNumber 0 [c]).any fun d => decide (d < base)) digits with
  | none => none
  | some [] => none
  | some digits => some (ofDigits base digits)

/-- A decimal number without a sign: a zero stands alone in front. -/
def decimalNumber? (digits : List Char) : Option Nat :=
  match joinDigits Char.isDigit digits with
  | none => none
  | some [] => none
  | some ['0'] => some 0
  | some ('0' :: _) => none
  | some digits => some (ofDigits 10 digits)

/-- A sign and the text behind it. -/
def takeSign : List Char → Bool × List Char
  | '-' :: rest => (true, rest)
  | '+' :: rest => (false, rest)
  | s => (false, s)

/-- An integer. -/
def integer? (s : List Char) : Option Int :=
  match s with
  | '0' :: 'x' :: digits => (basedNumber? 16 digits).map fun n => (n : Int)
  | '0' :: 'o' :: digits => (basedNumber? 8 digits).map fun n => (n : Int)
  | '0' :: 'b' :: digits => (basedNumber? 2 digits).map fun n => (n : Int)
  | _ =>
    let (negative, digits) := takeSign s
    (decimalNumber? digits).map fun n => if negative then -(n : Int) else n

/-- Whether a text is a sequence of digits that may begin with zeros. -/
def isDigitRun (s : List Char) : Bool := !s.isEmpty && (joinDigits Char.isDigit s).isSome

/-- Whether a text is an exponent behind its letter. -/
def isExponent (s : List Char) : Bool := isDigitRun (takeSign s).2

/-- Whether a character begins an exponent. -/
def isExponentMark (c : Char) : Bool := c == 'e' || c == 'E'

/-- Whether a text is a number with a fraction or an exponent, or one of the words for infinity and no number. -/
def isFloat (s : List Char) : Bool :=
  let unsigned := (takeSign s).2
  let isMark := fun c => c == '.' || isExponentMark c
  if unsigned == "inf".toList || unsigned == "nan".toList then true
  else if (decimalNumber? (unsigned.takeWhile (!isMark ·))).isNone then false
  else
    match unsigned.dropWhile (!isMark ·) with
    | '.' :: rest =>
      isDigitRun (rest.takeWhile (!isExponentMark ·)) &&
        (match rest.dropWhile (!isExponentMark ·) with
        | [] => true
        | _ :: exponent => isExponent exponent)
    | _ :: exponent => isExponent exponent
    | [] => false

/-- A number of exactly a count of digits, and the text behind it. -/
def takeNumber? (count : Nat) (s : List Char) : Option (Nat × List Char) :=
  let digits := s.take count
  if digits.length = count ∧ digits.all Char.isDigit then some (ofDigits 10 digits, s.drop count) else none

/-- The days of a month. -/
def daysOf (year month : Nat) : Nat :=
  if month = 2 then if year % 4 = 0 ∧ (year % 100 ≠ 0 ∨ year % 400 = 0) then 29 else 28
  else if [4, 6, 9, 11].contains month then 30
  else 31

/-- The text behind a date. -/
def behindDate? (s : List Char) : Option (List Char) := do
  let (year, rest) ← takeNumber? 4 s
  match rest with
  | '-' :: rest =>
    let (month, rest) ← takeNumber? 2 rest
    match rest with
    | '-' :: rest =>
      let (day, rest) ← takeNumber? 2 rest
      if 1 ≤ month ∧ month ≤ 12 ∧ 1 ≤ day ∧ day ≤ daysOf year month then some rest else none
    | _ => none
  | _ => none

/-- The text behind a time. -/
def behindTime? (s : List Char) : Option (List Char) := do
  let (hour, rest) ← takeNumber? 2 s
  match rest with
  | ':' :: rest =>
    let (minute, rest) ← takeNumber? 2 rest
    match rest with
    | ':' :: rest =>
      let (second, rest) ← takeNumber? 2 rest
      if hour ≤ 23 ∧ minute ≤ 59 ∧ second ≤ 60 then
        match rest with
        | '.' :: rest =>
          if (rest.takeWhile Char.isDigit).isEmpty then none else some (rest.dropWhile Char.isDigit)
        | _ => some rest
      else none
    | _ => none
  | _ => none

/-- Whether a text is the offset of a time, or nothing. -/
def isOffset (s : List Char) : Bool :=
  match s with
  | [] => true
  | ['Z'] => true
  | ['z'] => true
  | sign :: rest =>
    (sign == '+' || sign == '-') &&
      match takeNumber? 2 rest with
      | some (hour, ':' :: rest) =>
        (match takeNumber? 2 rest with
        | some (minute, []) => hour ≤ 23 && minute ≤ 59
        | _ => false)
      | _ => false

/-- Whether a text is a date, a time, or both. -/
def isDate (s : List Char) : Bool :=
  match behindDate? s with
  | some [] => true
  | some (c :: rest) => (c == 'T' || c == 't' || c == ' ') && (behindTime? rest).any isOffset
  | none => behindTime? s == some []

/-- Whether a character can stand in a number, a date or a word. -/
def isTokenChar (c : Char) : Bool := c.isAlphanum || c == '_' || c == '+' || c == '-' || c == '.' || c == ':'

/-- The characters of a number, a date or a word; a date and its time may be set apart by one blank. -/
def takeToken (s : List Char) : List Char × List Char :=
  let token := s.takeWhile isTokenChar
  match s.dropWhile isTokenChar with
  | ' ' :: c :: rest =>
    if c.isDigit ∧ behindDate? token = some [] then
      (token ++ ' ' :: (c :: rest).takeWhile isTokenChar, (c :: rest).dropWhile isTokenChar)
    else (token, ' ' :: c :: rest)
  | rest => (token, rest)

/-- The value of a number, a date or a word. -/
def ofToken (token : List Char) : Except TomlFault Toml :=
  if token == "true".toList then .ok (.truth true)
  else if token == "false".toList then .ok (.truth false)
  else
    match integer? token with
    | some i => if -(Number.twoTo 63 : Int) ≤ i ∧ i < Number.twoTo 63 then .ok (.integer i) else .error .integerTooLarge
    | none =>
      if isFloat token then .ok (.float (String.ofList token))
      else if isDate token then .ok (.date (String.ofList token))
      else .error .invalidValue

/-! ## Values -/

mutual

/-- Reads a value. -/
def readValue : Nat → List Char → Except TomlFault (Toml × List Char)
  | 0, _ => .error .unexpectedEnd
  | fuel + 1, s =>
    match s with
    | [] => .error .unexpectedEnd
    | '"' :: rest => do
      let (content, rest) ← readText '"' true rest
      return (.text content, rest)
    | '\'' :: rest => do
      let (content, rest) ← readText '\'' false rest
      return (.text content, rest)
    | '[' :: rest => do
      let (items, rest) ← readItems fuel (← skipLines rest.length rest)
      return (.array items, rest)
    | '\x7b' :: rest =>
      match skipBlanks rest with
      | '\x7d' :: rest => .ok (.table [], rest)
      | rest => do
        let (entries, rest) ← readEntries fuel [] rest
        return (.table (Draft.finishEntries entries), rest)
    | _ => do
      let (token, rest) := takeToken s
      return (← ofToken token, rest)

/-- Reads the items of an array up to its closing bracket; a comma may stand behind the last one. -/
def readItems : Nat → List Char → Except TomlFault (List Toml × List Char)
  | 0, _ => .error .unexpectedEnd
  | fuel + 1, s =>
    match s with
    | ']' :: rest => .ok ([], rest)
    | _ => do
      let (item, rest) ← readValue fuel s
      match ← skipLines rest.length rest with
      | ',' :: rest =>
        let (items, rest) ← readItems fuel (← skipLines rest.length rest)
        return (item :: items, rest)
      | ']' :: rest => return ([item], rest)
      | [] => .error .unexpectedEnd
      | _ => .error .unexpectedCharacter

/-- Reads the entries of a table in braces up to the closing one, given the entries before. -/
def readEntries : Nat → DraftEntries → List Char → Except TomlFault (DraftEntries × List Char)
  | 0, _, _ => .error .unexpectedEnd
  | fuel + 1, entries, s => do
    let (path, key, rest) ← readKey (s.length + 1) s
    match rest with
    | '=' :: rest =>
      let (value, rest) ← readValue fuel (skipBlanks rest)
      let entries ← Draft.assign [] path key value entries
      match skipBlanks rest with
      | ',' :: rest => readEntries fuel entries rest
      | '\x7d' :: rest => return (entries, rest)
      | [] => .error .unexpectedEnd
      | _ => .error .unexpectedCharacter
    | [] => .error .unexpectedEnd
    | _ => .error .unexpectedCharacter

end

/-! ## Documents -/

/-- Reads a header behind its brackets; gives the path, the last key, and the text behind the closing brackets. -/
def readHeader (closing : List Char) (s : List Char) : Except TomlFault (List String × String × List Char) := do
  let (path, key, rest) ← readKey (s.length + 1) s
  if closing.isPrefixOf rest then return (path, key, rest.drop closing.length) else .error .unexpectedCharacter

/-- The text of the next line; nothing but a comment may be left of this one. -/
def nextLine (s : List Char) : Except TomlFault (List Char) := do
  let rest ← skipToLineEnd s
  match rest with
  | [] => return []
  | _ =>
    match lineBreak? rest with
    | some rest => return rest
    | none => .error .unexpectedCharacter

/-- Reads the lines of a document, given the path of the last header and the document so far. -/
def readLines : Nat → List String → DraftEntries → List Char → Except TomlFault DraftEntries
  | 0, _, document, _ => .ok document
  | fuel + 1, header, document, s =>
    match skipBlanks s with
    | [] => .ok document
    | '[' :: '[' :: rest => do
      let (path, key, rest) ← readHeader [']', ']'] rest
      let document ← Draft.openElement path key document
      readLines fuel (path ++ [key]) document (← nextLine rest)
    | '[' :: rest => do
      let (path, key, rest) ← readHeader [']'] rest
      let document ← Draft.openTable path key document
      readLines fuel (path ++ [key]) document (← nextLine rest)
    | c :: rest =>
      if c = '#' ∨ (lineBreak? (c :: rest)).isSome then do readLines fuel header document (← nextLine (c :: rest))
      else do
        let (path, key, rest) ← readKey (rest.length + 2) (c :: rest)
        match rest with
        | '=' :: rest =>
          let (value, rest) ← readValue (2 * rest.length + 2) (skipBlanks rest)
          let document ← Draft.assign header path key value document
          readLines fuel header document (← nextLine rest)
        | [] => .error .unexpectedEnd
        | _ => .error .unexpectedCharacter

/-- The text behind a byte order mark. -/
def skipByteOrderMark : List Char → List Char
  | '\ufeff' :: rest => rest
  | s => s

/-- The document of a text. -/
def parse (text : String) : Except TomlFault Toml := do
  let s := skipByteOrderMark text.toList
  let document ← readLines (s.length + 1) [] [] s
  return .table (Draft.finishEntries document)

end FormValidation.Toml
