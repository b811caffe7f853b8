import FormValidation.Yaml.Basic

/-!
# Scanning YAML

A text becomes a list of tokens. Indentation becomes tokens that open and close block lists and maps. Whether a scalar
is a key shows only at the colon behind it, so the scanner keeps in mind where a key could have started, one place for
each open bracket, and puts the key token there afterwards.
-/

set_option autoImplicit false

namespace FormValidation.Yaml

/-- A token of a document. -/
inductive Token where
  | documentStart
  | documentEnd
  | blockListStart
  | blockMapStart
  | blockEnd
  | flowListStart
  | flowListEnd
  | flowMapStart
  | flowMapEnd
  | entry
  | comma
  | key
  | value
  | scalar (plain : Bool) (text : String)
  deriving DecidableEq, Repr

/-- A place where a key could have started. -/
structure KeyPlace where
  required : Bool
  tokenNumber : Nat
  index : Nat
  line : Nat
  column : Nat
  deriving DecidableEq, Repr

/-- The state of the scanner: the text to come and its position, the indentation of the open blocks, the possible keys
(that of the innermost bracket first), and the tokens so far, the latest first. -/
structure Scanner where
  rest : List Char
  index : Nat := 0
  line : Nat := 0
  column : Nat := 0
  indent : Int := -1
  indents : List Int := []
  keyAllowed : Bool := true
  keys : List (Option KeyPlace) := [none]
  tokens : List Token := []
  count : Nat := 0

/-! ## Characters -/

/-- Whether a document may contain a character. -/
def isAllowed (c : Char) : Bool :=
  let n := c.toNat
  n == 9 || n == 10 || n == 13 || n == 0x85 || (0x20 ≤ n && n ≤ 0x7E) || (0xA0 ≤ n && n ≤ 0xFFFD) || 0x10000 ≤ n

/-- Blanks and tabs. -/
def isBlank (c : Char) : Bool := c == ' ' || c == '\t'

/-- The characters that end a line. -/
def isBreak (c : Char) : Bool :=
  c == '\n' || c == '\r' || c.toNat == 0x85 || c.toNat == 0x2028 || c.toNat == 0x2029

/-- Whether a text starts with a blank or the end of a line, or is at its end. -/
def startsBlank : List Char → Bool
  | [] => true
  | c :: _ => isBlank c || isBreak c

/-- Whether a text starts with a marker between documents. -/
def startsMarker (s : List Char) : Bool :=
  match s with
  | '-' :: '-' :: '-' :: rest => startsBlank rest
  | '.' :: '.' :: '.' :: rest => startsBlank rest
  | _ => false

namespace Scanner

/-! ## Moving through the text -/

/-- Whether a bracket is open. -/
def inFlow (s : Scanner) : Bool := s.keys.length > 1

/-- The state behind the next character of a line. -/
def advance (s : Scanner) : Scanner :=
  match s.rest with
  | [] => s
  | _ :: rest => { s with rest, index := s.index + 1, column := s.column + 1 }

/-- The state behind some characters of a line. -/
def advanceBy (s : Scanner) : Nat → Scanner
  | 0 => s
  | n + 1 => s.advance.advanceBy n

/-- The end of a line as it counts in a scalar, and the state behind it. -/
def takeBreak (s : Scanner) : List Char × Scanner :=
  match s.rest with
  | '\r' :: '\n' :: rest => (['\n'], { s with rest, index := s.index + 2, line := s.line + 1, column := 0 })
  | c :: rest =>
    let shown := if c.toNat == 0x2028 || c.toNat == 0x2029 then c else '\n'
    ([shown], { s with rest, index := s.index + 1, line := s.line + 1, column := 0 })
  | [] => ([], s)

/-- The state behind the rest of a line. -/
def skipLine (s : Scanner) : Nat → Scanner
  | 0 => s
  | fuel + 1 =>
    match s.rest with
    | [] => s
    | c :: _ => if isBreak c then s else s.advance.skipLine fuel

/-! ## Tokens and indentation -/

/-- Adds a token. -/
def push (s : Scanner) (t : Token) : Scanner := { s with tokens := t :: s.tokens, count := s.count + 1 }

/-- Puts a token at a number; `tokens` are the tokens before and behind it, the latest first. -/
def insertAt (t : Token) : Nat → List Token → List Token
  | 0, tokens => t :: tokens
  | _ + 1, [] => [t]
  | n + 1, later :: tokens => later :: insertAt t n tokens

/-- Adds a token at a number. -/
def pushAt (s : Scanner) (number : Nat) (t : Token) : Scanner :=
  { s with tokens := insertAt t (s.count - number) s.tokens, count := s.count + 1 }

/-- Opens a block at a column, unless one as deep is open, with its token at a number. -/
def openBlock (s : Scanner) (column number : Nat) (t : Token) : Scanner :=
  if s.inFlow || (column : Int) ≤ s.indent then s
  else { s with indents := s.indent :: s.indents, indent := column }.pushAt number t

/-- Closes the blocks that are deeper than a column. -/
def closeBlocks (column : Int) : List Int → Scanner → Scanner
  | [], s => s
  | outer :: indents, s =>
    if s.indent > column then closeBlocks column indents ({ s with indent := outer, indents }.push .blockEnd) else s

/-- Closes the blocks that are deeper than a column, outside of brackets. -/
def closeDeeper (s : Scanner) (column : Int) : Scanner := if s.inFlow then s else closeBlocks column s.indents s

/-! ## Possible keys -/

/-- Drops the possible key of the innermost bracket; a required one needed its colon. -/
def dropKey (s : Scanner) : Except YamlFault Scanner :=
  match s.keys with
  | some place :: outer => if place.required then .error .keyWithoutValue else .ok { s with keys := none :: outer }
  | _ => .ok s

/-- Notes that a key could start here. -/
def noteKey (s : Scanner) : Except YamlFault Scanner := do
  if s.keyAllowed then
    let s ← s.dropKey
    let place : KeyPlace := {
      required := !s.inFlow && s.indent == (s.column : Int), tokenNumber := s.count, index := s.index,
      line := s.line, column := s.column }
    return { s with keys := some place :: s.keys.drop 1 }
  else return s

/-- Drops the possible keys that are on an earlier line or too long. -/
def dropStaleKeys (s : Scanner) : Except YamlFault Scanner := do
  let keys ← s.keys.mapM fun key =>
    match key with
    | none => .ok none
    | some place =>
      if place.line < s.line || place.index + 1024 < s.index then
        if place.required then .error .keyWithoutValue else .ok none
      else .ok (some place)
  return { s with keys }

/-! ## Scalars -/

/-- What has been read of a scalar that goes on over lines: its characters in reverse, the blanks since the last one
in reverse, the first line end since then, and the further ones in reverse. -/
structure Folding where
  done : List Char := []
  blanks : List Char := []
  leading : Option (List Char) := none
  trailing : List Char := []

namespace Folding

/-- The characters with a further one. -/
def add (f : Folding) (c : Char) : Folding := { f with done := c :: f.done }

/-- The characters with the blanks or line ends since the last one joined to them: one line end is a blank, further
ones stand for themselves. -/
def join (f : Folding) : Folding :=
  match f.leading with
  | none => { done := f.blanks ++ f.done }
  | some ['\n'] => if f.trailing.isEmpty then { done := ' ' :: f.done } else { done := f.trailing ++ f.done }
  | some leading => { done := f.trailing ++ leading.reverse ++ f.done }

/-- The text read. -/
def text (f : Folding) : String := String.ofList f.done.reverse

end Folding

/-- Reads the blanks and line ends between the words of a scalar; in a plain scalar, tabs may not stand in for the
indentation, `least`. -/
def readGap (least : Int) : Nat → Folding → Scanner → Except YamlFault (Folding × Scanner)
  | 0, f, s => .ok (f, s)
  | fuel + 1, f, s =>
    match s.rest with
    | [] => .ok (f, s)
    | c :: _ =>
      if isBlank c then
        if f.leading.isSome then
          if c = '\t' ∧ (s.column : Int) < least then .error .tabIndentation
          else readGap least fuel f s.advance
        else readGap least fuel { f with blanks := c :: f.blanks } s.advance
      else if isBreak c then
        let (shown, after) := s.takeBreak
        match f.leading with
        | none => readGap least fuel { f with blanks := [], leading := some shown } after
        | some _ => readGap least fuel { f with trailing := shown.reverse ++ f.trailing } after
      else .ok (f, s)

/-- Whether a character opens or closes a bracket or separates what is inside. -/
def isFlowIndicator (c : Char) : Bool := c == ',' || c == '[' || c == ']' || c == '\x7b' || c == '\x7d'

/-- Reads a word of a plain scalar. -/
def readWord : Nat → Folding → Scanner → Except YamlFault (Folding × Scanner)
  | 0, f, s => .ok (f, s)
  | fuel + 1, f, s =>
    match s.rest with
    | [] => .ok (f, s)
    | c :: rest =>
      if isBlank c || isBreak c then .ok (f, s)
      else if s.inFlow && c == ':' && rest.head?.any (fun d => isFlowIndicator d || d == '?') then
        .error .unexpectedCharacter
      else if (c == ':' && startsBlank rest) || (s.inFlow && isFlowIndicator c) then .ok (f, s)
      else readWord fuel (f.join.add c) s.advance

/-- Reads a plain scalar. -/
def readPlain : Nat → Folding → Scanner → Except YamlFault (Folding × Scanner)
  | 0, f, s => .ok (f, s)
  | fuel + 1, f, s =>
    if s.column = 0 ∧ startsMarker s.rest then .ok (f, s)
    else if s.rest.head? = some '#' then .ok (f, s)
    else do
      let (f, s) ← readWord (s.rest.length + 1) f s
      match s.rest with
      | [] => return (f, s)
      | c :: _ =>
        if isBlank c || isBreak c then
          let (f, s) ← readGap (s.indent + 1) (s.rest.length + 1) f s
          if !s.inFlow && (s.column : Int) < s.indent + 1 then return (f, s) else readPlain fuel f s
        else return (f, s)

/-- The character of an escape of one letter. -/
def escape? (c : Char) : Option Char :=
  if c = '0' then some (Char.ofNat 0)
  else if c = 'a' then some (Char.ofNat 7)
  else if c = 'b' then some (Char.ofNat 8)
  else if c = 't' ∨ c = '\t' then some '\t'
  else if c = 'n' then some '\n'
  else if c = 'v' then some (Char.ofNat 11)
  else if c = 'f' then some (Char.ofNat 12)
  else if c = 'r' then some '\r'
  else if c = 'e' then some (Char.ofNat 27)
  else if c = ' ' ∨ c = '"' ∨ c = '/' ∨ c = '\\' then some c
  else if c = 'N' then some (Char.ofNat 0x85)
  else if c = '_' then some (Char.ofNat 0xA0)
  else if c = 'L' then some (Char.ofNat 0x2028)
  else if c = 'P' then some (Char.ofNat 0x2029)
  else none

/-- The number of digits of an escape by code point. -/
def escapeDigits? (c : Char) : Option Nat :=
  if c = 'x' then some 2 else if c = 'u' then some 4 else if c = 'U' then some 8 else none

/-- The character that an escape stands for, and the state behind it. -/
def readEscape (s : Scanner) : Except YamlFault (Char × Scanner) :=
  match s.rest with
  | _ :: c :: rest =>
    match escape? c with
    | some shown => .ok (shown, s.advanceBy 2)
    | none =>
      match escapeDigits? c with
      | none => .error .invalidEscape
      | some count =>
        let digits := rest.take count
        match natIn? 16 digits with
        | some point =>
          if digits.length = count ∧ point.isValidChar then .ok (Char.ofNat point, s.advanceBy (2 + count))
          else .error .invalidEscape
        | none => .error .invalidEscape
  | _ => .error .invalidEscape

/-- Reads a quoted scalar up to its closing quote, which is read as well. -/
def readQuoted (double : Bool) : Nat → Folding → Scanner → Except YamlFault (Folding × Scanner)
  | 0, _, _ => .error .unclosedScalar
  | fuel + 1, f, s =>
    match s.rest with
    | [] => .error .unclosedScalar
    | c :: rest =>
      if s.column = 0 ∧ startsMarker s.rest then .error .documentMarkInScalar
      else if isBlank c || isBreak c then do
        let (f, s) ← readGap (-1) (s.rest.length + 1) f s
        readQuoted double fuel f.join s
      else if double then
        if c = '"' then .ok (f, s.advance)
        else if c = '\\' then
          match rest with
          | d :: _ =>
            if isBreak d then do
              let (_, after) := s.advance.takeBreak
              let (f, s) ← readGap (-1) (s.rest.length + 1) { f with leading := some [] } after
              readQuoted double fuel f.join s
            else do
              let (shown, s) ← s.readEscape
              readQuoted double fuel (f.add shown) s
          | [] => .error .unclosedScalar
        else readQuoted double fuel (f.add c) s.advance
      else if c = '\'' then
        match rest with
        | '\'' :: _ => readQuoted double fuel (f.add c) (s.advanceBy 2)
        | _ => .ok (f, s.advance)
      else readQuoted double fuel (f.add c) s.advance

/-! ## Block scalars -/

/-- What becomes of the line ends at the end of a block scalar. -/
inductive Chomping where
  | strip
  | clip
  | keep
  deriving DecidableEq, Repr

/-- Reads the marks behind the indicator of a block scalar: an optional depth and an optional chomping, in either
order. -/
def readHeader (s : Scanner) : Except YamlFault (Option Nat × Chomping × Scanner) := do
  let chomping? := fun (c : Option Char) =>
    if c = some '+' then some Chomping.keep else if c = some '-' then some Chomping.strip else none
  let depth? := fun (c : Option Char) => (c.filter Char.isDigit).map fun d => d.toNat - '0'.toNat
  let (first, s) := match chomping? s.rest.head? with
    | some mark => (some mark, s.advance)
    | none => (none, s)
  let (depth, s) := match depth? s.rest.head? with
    | some n => (some n, s.advance)
    | none => (none, s)
  let (second, s) := match first, depth, chomping? s.rest.head? with
    | none, some _, some mark => (some mark, s.advance)
    | _, _, _ => (first, s)
  if depth = some 0 then .error .invalidBlockHeader else return (depth, second.getD .clip, s)

/-- Reads the blank lines before a line of a block scalar: their line ends in reverse, and the greatest indentation
among them. -/
def readBlankLines (indent : Option Nat) : Nat → List Char → Nat → Scanner →
    Except YamlFault (List Char × Nat × Scanner)
  | 0, breaks, deepest, s => .ok (breaks, deepest, s)
  | fuel + 1, breaks, deepest, s =>
    let before := indent.all fun n => s.column < n
    match s.rest with
    | c :: _ =>
      if before && c == ' ' then readBlankLines indent fuel breaks (max deepest (s.column + 1)) s.advance
      else if before && c == '\t' then .error .tabIndentation
      else if isBreak c then
        let (shown, after) := s.takeBreak
        readBlankLines indent fuel (shown.reverse ++ breaks) (max deepest s.column) after
      else .ok (breaks, max deepest s.column, s)
    | [] => .ok (breaks, max deepest s.column, s)

/-- The characters up to the end of a line, put in reverse before what was read, and the state there. -/
def readLine : Nat → List Char → Scanner → List Char × Scanner
  | 0, done, s => (done, s)
  | fuel + 1, done, s =>
    match s.rest with
    | [] => (done, s)
    | c :: _ => if isBreak c then (done, s) else readLine fuel (c :: done) s.advance

/-- Reads the lines of a block scalar. `leading` is the end of the line before, `trailing` the ends of blank lines
behind it, both in reverse; `blankBefore` tells whether the line before started with a blank. -/
def readLines (literal : Bool) (chomping : Chomping) (indent : Nat) :
    Nat → List Char → List Char → List Char → Bool → Scanner → Except YamlFault (List Char × Scanner)
  | 0, done, _, _, _, s => .ok (done, s)
  | fuel + 1, done, leading, trailing, blankBefore, s =>
    if s.column = indent ∧ s.rest ≠ [] then do
      let blank := s.rest.head?.any isBlank
      let done :=
        if !literal && leading == ['\n'] && !blankBefore && !blank then
          if trailing.isEmpty then ' ' :: done else trailing ++ done
        else trailing ++ leading ++ done
      let (done, s) := readLine (s.rest.length + 1) done s
      let (shown, s) := s.takeBreak
      let (breaks, _, s) ← readBlankLines (some indent) (s.rest.length + 1) [] 0 s
      readLines literal chomping indent fuel done shown.reverse breaks blank s
    else
      match chomping with
      | .strip => return (done, s)
      | .clip => return (leading ++ done, s)
      | .keep => return (trailing ++ leading ++ done, s)

/-- Reads a block scalar behind its indicator. -/
def readBlock (literal : Bool) (s : Scanner) : Except YamlFault (String × Scanner) := do
  let (depth, chomping, s) ← s.readHeader
  let s := s.advanceBy (s.rest.takeWhile isBlank).length
  let s := if s.rest.head? = some '#' then s.skipLine (s.rest.length + 1) else s
  if s.rest.head?.any (fun c => !isBreak c) then .error .invalidBlockHeader
  else
    let (_, s) := s.takeBreak
    let least := (s.indent + 1).toNat
    let fixed := depth.map fun n => if s.indent ≥ 0 then s.indent.toNat + n else n
    let (breaks, deepest, s) ← readBlankLines fixed (s.rest.length + 1) [] 0 s
    let indent := fixed.getD (max (max deepest least) 1)
    let (done, s) ← readLines literal chomping indent (s.rest.length + 1) [] [] breaks false s
    return (String.ofList done.reverse, s)

/-! ## The next token -/

/-- The state at the start of the next token: behind blanks, comments and line ends. -/
def skipToToken : Nat → Scanner → Scanner
  | 0, s => s
  | fuel + 1, s =>
    match s.rest with
    | [] => s
    | c :: _ =>
      if c = ' ' ∨ (c = '\t' ∧ (s.inFlow ∨ !s.keyAllowed)) then skipToToken fuel s.advance
      else if c = '#' then skipToToken fuel (s.skipLine (s.rest.length + 1))
      else if isBreak c then
        let (_, after) := s.takeBreak
        skipToToken fuel (if s.inFlow then after else { after with keyAllowed := true })
      else s

/-- Reads a marker between documents. -/
def readMarker (s : Scanner) (t : Token) : Except YamlFault Scanner := do
  let s ← (s.closeDeeper (-1)).dropKey
  return ({ s with keyAllowed := false }.push t).advanceBy 3

/-- Reads an opening bracket. -/
def openFlow (s : Scanner) (t : Token) : Except YamlFault Scanner := do
  let s ← s.noteKey
  return { s with keys := none :: s.keys, keyAllowed := true }.push t |>.advance

/-- Reads a closing bracket. -/
def closeFlow (s : Scanner) (t : Token) : Except YamlFault Scanner := do
  let s ← s.dropKey
  let keys := match s.keys with
    | _ :: outer :: more => outer :: more
    | keys => keys
  return { s with keys, keyAllowed := false }.push t |>.advance

/-- Reads a comma. -/
def readComma (s : Scanner) : Except YamlFault Scanner := do
  let s ← s.dropKey
  return { s with keyAllowed := true }.push .comma |>.advance

/-- Reads the mark of a list entry. -/
def readEntry (s : Scanner) : Except YamlFault Scanner := do
  if !s.inFlow && !s.keyAllowed then .error .entryNotAllowed
  else
    let s ← (s.openBlock s.column s.count .blockListStart).dropKey
    return { s with keyAllowed := true }.push .entry |>.advance

/-- Reads the mark of a key. -/
def readKeyMark (s : Scanner) : Except YamlFault Scanner := do
  if !s.inFlow && !s.keyAllowed then .error .keyNotAllowed
  else
    let s ← (s.openBlock s.column s.count .blockMapStart).dropKey
    return { s with keyAllowed := !s.inFlow }.push .key |>.advance

/-- Reads the colon before a value: what started at the noted place is its key. -/
def readValueMark (s : Scanner) : Except YamlFault Scanner := do
  match s.keys with
  | some place :: outer =>
    let s := { s with keys := none :: outer, keyAllowed := false }
    let s := (s.pushAt place.tokenNumber .key).openBlock place.column place.tokenNumber .blockMapStart
    return s.push .value |>.advance
  | _ =>
    if !s.inFlow && !s.keyAllowed then .error .valueNotAllowed
    else
      let s := s.openBlock s.column s.count .blockMapStart
      return { s with keyAllowed := !s.inFlow }.push .value |>.advance

/-- Reads a plain scalar as a token. -/
def readPlainToken (s : Scanner) : Except YamlFault Scanner := do
  let s ← s.noteKey
  let (f, s) ← readPlain (s.rest.length + 1) {} { s with keyAllowed := false }
  return { s with keyAllowed := f.leading.isSome }.push (.scalar true f.text)

/-- Reads a quoted scalar as a token. -/
def readQuotedToken (double : Bool) (s : Scanner) : Except YamlFault Scanner := do
  let s ← s.noteKey
  let (f, s) ← readQuoted double (s.rest.length + 1) {} { s with keyAllowed := false }.advance
  return s.push (.scalar false f.text)

/-- Reads a block scalar as a token. -/
def readBlockToken (literal : Bool) (s : Scanner) : Except YamlFault Scanner := do
  let s ← s.dropKey
  let (text, s) ← readBlock literal { s with keyAllowed := true }.advance
  return s.push (.scalar false text)

/-- Whether a character can only start something other than a plain scalar. -/
def isIndicator (c : Char) : Bool := "-?:,[]\x7b\x7d#&*!|>'\"%@`".toList.contains c

/-- Reads the next token; the text is not at its end. -/
def readToken (s : Scanner) (c : Char) (rest : List Char) : Except YamlFault Scanner :=
  if s.column = 0 ∧ c = '%' then .error .unsupported
  else if s.column = 0 ∧ startsMarker s.rest then s.readMarker (if c = '-' then .documentStart else .documentEnd)
  else if c = '[' then s.openFlow .flowListStart
  else if c = '\x7b' then s.openFlow .flowMapStart
  else if c = ']' then s.closeFlow .flowListEnd
  else if c = '\x7d' then s.closeFlow .flowMapEnd
  else if c = ',' then s.readComma
  else if c = '-' ∧ startsBlank rest then s.readEntry
  else if c = '?' ∧ (s.inFlow ∨ startsBlank rest) then s.readKeyMark
  else if c = ':' ∧ (s.inFlow ∨ startsBlank rest) then s.readValueMark
  else if c = '*' ∨ c = '&' ∨ c = '!' then .error .unsupported
  else if c = '|' ∧ !s.inFlow then s.readBlockToken true
  else if c = '>' ∧ !s.inFlow then s.readBlockToken false
  else if c = '\'' then s.readQuotedToken false
  else if c = '"' then s.readQuotedToken true
  else if !isIndicator c || (c == '-' && !rest.head?.any isBlank) || (!s.inFlow && (c == '?' || c == ':')) then
    s.readPlainToken
  else .error .unexpectedCharacter

/-- Reads tokens to the end of the text. -/
def readAll : Nat → Scanner → Except YamlFault (List Token)
  | 0, s => .ok s.tokens.reverse
  | fuel + 1, s => do
    let s := skipToToken (s.rest.length + 1) s
    let s ← s.dropStaleKeys
    let s := s.closeDeeper s.column
    match s.rest with
    | [] =>
      let s ← (s.closeDeeper (-1)).dropKey
      return s.tokens.reverse
    | c :: rest =>
      let s ← s.readToken c rest
      readAll fuel s

end Scanner

/-- The tokens of a text. A byte order mark at its start is passed over. -/
def scan (text : String) : Except YamlFault (List Token) :=
  let s := match text.toList with
    | c :: rest => if c.toNat = 0xFEFF then rest else c :: rest
    | [] => []
  if s.all isAllowed then Scanner.readAll (s.length + 1) { rest := s } else .error .forbiddenCharacter

end FormValidation.Yaml
