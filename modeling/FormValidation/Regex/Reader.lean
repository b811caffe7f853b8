import FormValidation.Regex.Expr
import FormValidation.Json.Reader

/-!
# Reading regular expressions

The notation of patterns: alternatives, groups, repetitions with greedy and lazy forms, bracketed sets with nested
sets and set operations, classes, escapes, places such as `^` and `\b`, and the flags `i m s U u x R` in force up to
the end of their group. There is no look-around and there are no back-references. A malformed pattern, or one whose
compiled form would take more than ten megabytes, is refused.
-/

set_option autoImplicit false

namespace FormValidation.Regex

/-- Why a text is not a regular expression. -/
inductive ReadFault where
  | unclosedGroup
  | unopenedGroup
  | emptyGroupName
  | unclosedGroupName
  | invalidGroupName
  | duplicateGroupName
  | lookAround
  | backReference
  | unknownFlag
  | duplicateFlag
  | repeatedNegation
  | danglingNegation
  | unclosedFlags
  | nothingToRepeat
  | unclosedCount
  | missingCount
  | countTooLarge
  | countRange
  | unclosedClass
  | classRange
  | classRangeEnd
  | notInClass
  | unfinishedEscape
  | unknownEscape
  | invalidHex
  | unknownProperty
  | unknownWordBoundary
  | notUnicode
  | invalidBytes
  | nestedTooDeep
  | tooLarge
  deriving DecidableEq, Repr

/-- A description of the fault. -/
def ReadFault.message : ReadFault → String
  | unclosedGroup => "unclosed group"
  | unopenedGroup => "unopened group"
  | emptyGroupName => "empty capture group name"
  | unclosedGroupName => "unclosed capture group name"
  | invalidGroupName => "invalid capture group character"
  | duplicateGroupName => "duplicate capture group name"
  | lookAround => "look-around, including look-ahead and look-behind, is not supported"
  | backReference => "backreferences are not supported"
  | unknownFlag => "unrecognized flag"
  | duplicateFlag => "duplicate flag"
  | repeatedNegation => "flag negation operator repeated"
  | danglingNegation => "dangling flag negation operator"
  | unclosedFlags => "expected flag but got end of regex"
  | nothingToRepeat => "repetition operator missing expression"
  | unclosedCount => "unclosed counted repetition"
  | missingCount => "repetition quantifier expects a valid decimal"
  | countTooLarge => "decimal literal invalid"
  | countRange => "invalid repetition count range, the start must be <= the end"
  | unclosedClass => "unclosed character class"
  | classRange => "invalid character class range, the start must be <= the end"
  | classRangeEnd => "invalid range boundary, must be a literal"
  | notInClass => "invalid escape sequence found in character class"
  | unfinishedEscape => "incomplete escape sequence, reached end of pattern prematurely"
  | unknownEscape => "unrecognized escape sequence"
  | invalidHex => "invalid hexadecimal digit"
  | unknownProperty => "Unicode property not found"
  | unknownWordBoundary => "unrecognized special word boundary assertion"
  | notUnicode => "Unicode not allowed here"
  | invalidBytes => "pattern can match invalid UTF-8"
  | nestedTooDeep => "exceed the maximum number of nested parentheses/brackets (250)"
  | tooLarge => "Compiled regex exceeds size limit of 10485760 bytes."

/-- The flags in force at a point of a pattern. -/
structure Flags where
  ignoreCase : Bool := false
  multiLine : Bool := false
  dotAll : Bool := false
  swapGreed : Bool := false
  unicode : Bool := true
  ignoreSpace : Bool := false
  crlf : Bool := false
  deriving DecidableEq, Repr

/-- The flags with one of them set or cleared. -/
def Flags.assign (flags : Flags) (name : Char) (on : Bool) : Option Flags :=
  match name with
  | 'i' => some { flags with ignoreCase := on }
  | 'm' => some { flags with multiLine := on }
  | 's' => some { flags with dotAll := on }
  | 'U' => some { flags with swapGreed := on }
  | 'u' => some { flags with unicode := on }
  | 'x' => some { flags with ignoreSpace := on }
  | 'R' => some { flags with crlf := on }
  | _ => none

/-- Skips what the `x` flag ignores: blanks, and comments up to the end of their line. -/
def skipIgnored (flags : Flags) : List Char → List Char
  | [] => []
  | c :: rest => if flags.ignoreSpace then skip false (c :: rest) else c :: rest
where
  /-- Skips blanks and comments; `inComment` tells whether a comment has begun. -/
  skip (inComment : Bool) : List Char → List Char
    | [] => []
    | c :: rest =>
      if inComment then skip (c != '\n') rest
      else if Text.isBlank c then skip false rest
      else if c == '#' then skip true rest
      else c :: rest

/-- What a single element of a pattern stands for. A byte is a character written by two hexadecimal digits. -/
inductive Element where
  | literal (c : Char) (byte : Bool)
  | set (s : CharSet)
  | look (l : Look)
  deriving DecidableEq, Repr

/-- The set of a literal under the flags. -/
def literalSet (flags : Flags) (c : Char) : CharSet :=
  if flags.ignoreCase then
    if flags.unicode then
      if (Text.caseVariants c.toNat).length = 1 then .single c else .fold (.single c)
    else if c.isAlpha then .foldAscii (.single c) else .single c
  else .single c

/-- Checks that a literal may stand under the flags: without Unicode, a byte beyond ASCII is no character. -/
def checkLiteral (flags : Flags) (c : Char) (byte : Bool) : Except ReadFault Unit :=
  if !flags.unicode && byte && c.toNat > 0x7F then .error .invalidBytes else .ok ()

/-- A set that was closed under case and negated as the flags and the notation ask; without Unicode it may hold ASCII
characters only. -/
def finishSet (flags : Flags) (negated : Bool) (s : CharSet) : CharSet :=
  let s := if flags.ignoreCase then (if flags.unicode then .fold s else .foldAscii s) else s
  if negated then .negate s else s

/-- Restricts a set to ASCII when the pattern is read without Unicode, and refuses one that reaches further. -/
def asciiOnly (flags : Flags) (s : CharSet) : Except ReadFault CharSet :=
  if flags.unicode then .ok s
  else if s.hasHighByte then .error .invalidBytes
  else .ok (.inter (.ranges [(0, 127)]) s)

/-- The ASCII digits. -/
def asciiDigits : CharSet := .ranges [(0x30, 0x39)]

/-- The ASCII blanks. -/
def asciiBlanks : CharSet := .ranges [(0x09, 0x0D), (0x20, 0x20)]

/-- The ASCII word characters. -/
def asciiWord : CharSet := .ranges [(0x30, 0x39), (0x41, 0x5A), (0x5F, 0x5F), (0x61, 0x7A)]

/-- The classes written by one letter: digits, blanks and word characters, in upper case their negations. -/
def letterClass? (flags : Flags) (c : Char) : Option (Except ReadFault CharSet) :=
  let build (unicode ascii : CharSet) (negated : Bool) : Except ReadFault CharSet :=
    let s := if flags.unicode then unicode else ascii
    asciiOnly flags (if negated then .negate s else s)
  match c with
  | 'd' => some (build (.property .decimalDigit) asciiDigits false)
  | 'D' => some (build (.property .decimalDigit) asciiDigits true)
  | 's' => some (build (.property .blank) asciiBlanks false)
  | 'S' => some (build (.property .blank) asciiBlanks true)
  | 'w' => some (build (.property .word) asciiWord false)
  | 'W' => some (build (.property .word) asciiWord true)
  | _ => none

/-- The sets with a name in brackets and colons. -/
def asciiClass? : String → Option CharSet
  | "alnum" => some (.ranges [(0x30, 0x39), (0x41, 0x5A), (0x61, 0x7A)])
  | "alpha" => some (.ranges [(0x41, 0x5A), (0x61, 0x7A)])
  | "ascii" => some (.ranges [(0x00, 0x7F)])
  | "blank" => some (.ranges [(0x09, 0x09), (0x20, 0x20)])
  | "cntrl" => some (.ranges [(0x00, 0x1F), (0x7F, 0x7F)])
  | "digit" => some asciiDigits
  | "graph" => some (.ranges [(0x21, 0x7E)])
  | "lower" => some (.ranges [(0x61, 0x7A)])
  | "print" => some (.ranges [(0x20, 0x7E)])
  | "punct" => some (.ranges [(0x21, 0x2F), (0x3A, 0x40), (0x5B, 0x60), (0x7B, 0x7E)])
  | "space" => some asciiBlanks
  | "upper" => some (.ranges [(0x41, 0x5A)])
  | "word" => some asciiWord
  | "xdigit" => some (.ranges [(0x30, 0x39), (0x41, 0x46), (0x61, 0x66)])
  | _ => none

/-- A property name in the loose form in which names are compared: lower case, without blanks, hyphens, underscores
and a leading `is`. -/
def looseName (s : List Char) : String :=
  let kept := (s.filter fun c => c.toNat < 0x80 && !(c == ' ' || c == '_' || c == '-')).map Char.toLower
  match kept with
  | 'i' :: 's' :: rest => if rest = ['c'] then "isc" else String.ofList rest
  | _ => String.ofList kept

/-- The category with a loose name. -/
def categorySet? (name : String) : Option CharSet :=
  match name with
  | "any" => some (.property .any)
  | "assigned" => some (.negate (.property (.category ["cn"])))
  | "ascii" => some (.ranges [(0, 127)])
  | _ => (categoryNames.find? fun e => e.1.contains name).map fun e => .property (.category e.2)

/-- The script with a loose name. -/
def scriptSet? (name : String) : Option CharSet :=
  (Text.Table.scripts.find? fun e => e.1.contains name).map fun _ => .property (.script name)

/-- The property with a loose name, whether a property of its own, a category or a script. -/
def propertySet? (name : String) : Option CharSet :=
  match name with
  | "alphabetic" | "alpha" => some (.property .alphabetic)
  | "whitespace" | "wspace" | "space" => some (.property .blank)
  | "lowercase" | "lower" => some (.property .lowercase)
  | "uppercase" | "upper" => some (.property .uppercase)
  | "cased" => some (.property .cased)
  | "caseignorable" | "ci" => some (.property .caseIgnorable)
  | "joincontrol" | "joinc" => some (.property .joinControl)
  | "asciihexdigit" | "ahex" => some (.ranges [(0x30, 0x39), (0x41, 0x46), (0x61, 0x66)])
  | _ =>
    match categorySet? name with
    | some s => some s
    | none => scriptSet? name

/-- Splits a text at the first occurrence of a character. -/
def splitAt? (c : Char) (s : List Char) : Option (List Char × List Char) :=
  match s.dropWhile (· != c) with
  | [] => none
  | _ :: rest => some (s.takeWhile (· != c), rest)

/-- The set that the name in a property escape stands for: a name alone, or a property with a value. -/
def namedSet? (name : List Char) : Option CharSet :=
  let byValue (key value : List Char) : Option CharSet :=
    match looseName key with
    | "gc" | "generalcategory" => categorySet? (looseName value)
    | "sc" | "script" | "scx" | "scriptextensions" => scriptSet? (looseName value)
    | _ => none
  match splitAt? '=' name, splitAt? ':' name with
  | some (key, value), _ =>
    match key.reverse with
    | '!' :: rest => (byValue rest.reverse value).map .negate
    | _ => byValue key value
  | none, some (key, value) => byValue key value
  | none, none => propertySet? (looseName name)

/-- A character of exactly `n` hexadecimal digits. -/
def readHexDigits : Nat → Nat → List Char → Except ReadFault (Nat × List Char)
  | 0, value, s => .ok (value, s)
  | _ + 1, _, [] => .error .unfinishedEscape
  | n + 1, value, c :: rest =>
    match Json.hexValue? c with
    | some d => readHexDigits n (16 * value + d) rest
    | none => .error .invalidHex

/-- A code point as a character, surrogates and numbers beyond the last code point refused. -/
def charOfPoint (value : Nat) : Except ReadFault Char :=
  if value < 0xD800 ∨ (0xDFFF < value ∧ value < 0x110000) then .ok (Char.ofNat value) else .error .invalidHex

/-- The character behind `\x`, `\u` or `\U`: so many digits, or any number of them in braces. -/
def readHexEscape (digits : Nat) (s : List Char) : Except ReadFault (Element × List Char) :=
  match s with
  | [] => .error .unfinishedEscape
  | '\x7b' :: rest =>
    match splitAt? '\x7d' rest with
    | none => .error .unfinishedEscape
    | some (inner, rest) =>
      if inner.isEmpty then .error .invalidHex
      else do
        let (value, _) ← readHexDigits inner.length 0 inner
        let c ← charOfPoint value
        return (.literal c false, rest)
  | _ => do
    let (value, rest) ← readHexDigits digits 0 s
    let c ← charOfPoint value
    return (.literal c (digits = 2), rest)

/-- The property behind `\p` or `\P`. -/
def readProperty (flags : Flags) (negated : Bool) (s : List Char) : Except ReadFault (Element × List Char) := do
  let (name, rest) ← (match s with
    | [] => .error .unfinishedEscape
    | '\x7b' :: rest =>
      match splitAt? '\x7d' rest with
      | none => .error .unfinishedEscape
      | some (name, rest) => .ok (name, rest)
    | '\\' :: _ => .error .unknownProperty
    | c :: rest => .ok ([c], rest) : Except ReadFault (List Char × List Char))
  if !flags.unicode then .error .notUnicode
  else
    match namedSet? name with
    | some s => return (.set (finishSet flags negated s), rest)
    | none => .error .unknownProperty

/-- Whether an escaped character that is not a letter or digit stands for itself. -/
def isEscapable (c : Char) : Bool := c.toNat < 0x80 && !c.isAlphanum && c != '<' && c != '>'

/-- The characters of the names of special word boundaries. -/
def isBoundaryNameChar (c : Char) : Bool := c.isAlpha || c == '-'

/-- A word boundary, with the special ones that are named in braces. Braces that hold no name are left to be read as a
repetition. -/
def readBoundary (flags : Flags) (s : List Char) : Except ReadFault (Element × List Char) :=
  let ascii := !flags.unicode
  let plain : Except ReadFault (Element × List Char) := .ok (.look (.wordBoundary ascii), s)
  match s with
  | '\x7b' :: rest =>
    match skipIgnored flags rest with
    | [] => .error .unclosedCount
    | c :: rest =>
      if !isBoundaryNameChar c then plain
      else
        let name := String.ofList ((c :: rest).takeWhile isBoundaryNameChar)
        match (c :: rest).dropWhile isBoundaryNameChar with
        | '\x7d' :: rest =>
          match name with
          | "start" => .ok (.look (.wordStart ascii), rest)
          | "end" => .ok (.look (.wordEnd ascii), rest)
          | "start-half" => .ok (.look (.wordStartHalf ascii), rest)
          | "end-half" => .ok (.look (.wordEndHalf ascii), rest)
          | _ => .error .unknownWordBoundary
        | _ => .error .unknownWordBoundary
  | _ => plain

/-- The element behind a backslash. -/
def readEscape (flags : Flags) (s : List Char) : Except ReadFault (Element × List Char) :=
  match s with
  | [] => .error .unfinishedEscape
  | c :: rest =>
    let ascii := !flags.unicode
    if c.isDigit then .error .backReference
    else
      match letterClass? flags c with
      | some set => do return (.set (← set), rest)
      | none =>
        if isEscapable c then .ok (.literal c false, rest)
        else
          match c with
          | 'x' => readHexEscape 2 rest
          | 'u' => readHexEscape 4 rest
          | 'U' => readHexEscape 8 rest
          | 'p' => readProperty flags false rest
          | 'P' => readProperty flags true rest
          | 'a' => .ok (.literal '\x07' false, rest)
          | 'f' => .ok (.literal '\x0c' false, rest)
          | 't' => .ok (.literal '\t' false, rest)
          | 'n' => .ok (.literal '\n' false, rest)
          | 'r' => .ok (.literal '\r' false, rest)
          | 'v' => .ok (.literal '\x0b' false, rest)
          | 'A' => .ok (.look .textStart, rest)
          | 'z' => .ok (.look .textEnd, rest)
          | 'b' => readBoundary flags rest
          | 'B' => .ok (.look (.noWordBoundary ascii), rest)
          | '<' => .ok (.look (.wordStart ascii), rest)
          | '>' => .ok (.look (.wordEnd ascii), rest)
          | _ => .error .unknownEscape

/-! ## Bracketed sets -/

/-- An element inside brackets. -/
def readClassElement (flags : Flags) (s : List Char) : Except ReadFault (Element × List Char) :=
  match s with
  | [] => .error .unclosedClass
  | '\\' :: rest => readEscape flags rest
  | c :: rest => .ok (.literal c false, rest)

/-- A literal inside brackets; without Unicode it must be an ASCII character. -/
def classLiteral (flags : Flags) (c : Char) (byte : Bool) : Except ReadFault Nat := do
  checkLiteral flags c byte
  if !flags.unicode && c.toNat > 0x7F then .error .notUnicode else return c.toNat

/-- The set of an element inside brackets. -/
def classElementSet (flags : Flags) : Element → Except ReadFault CharSet
  | .literal c byte => do
    let point ← classLiteral flags c byte
    return .ranges [(point, point)]
  | .set s => .ok s
  | .look _ => .error .notInClass

/-- The end of a range inside brackets. -/
def classRangeBound (flags : Flags) : Element → Except ReadFault Nat
  | .literal c byte => classLiteral flags c byte
  | _ => .error .classRangeEnd

/-- An element or a range of two elements inside brackets. A hyphen makes no range before a closing bracket or another
hyphen. -/
def readClassRange (flags : Flags) (s : List Char) : Except ReadFault (CharSet × List Char) := do
  let (first, rest) ← readClassElement flags s
  match skipIgnored flags rest with
  | [] => .error .unclosedClass
  | '-' :: rest =>
    match skipIgnored flags rest with
    | ']' :: _ => return (← classElementSet flags first, '-' :: rest)
    | '-' :: _ => return (← classElementSet flags first, '-' :: rest)
    | [] => .error .unclosedClass
    | rest =>
      let (last, rest) ← readClassElement flags rest
      let low ← classRangeBound flags first
      let high ← classRangeBound flags last
      if high < low then .error .classRange else return (.ranges [(low, high)], rest)
  | rest => return (← classElementSet flags first, rest)

/-- A set named in brackets and colons, if one stands here. -/
def readAsciiClass? (flags : Flags) (s : List Char) : Option (CharSet × List Char) :=
  match s with
  | '[' :: ':' :: rest =>
    let (negated, rest) := match rest with
      | '^' :: rest => (true, rest)
      | _ => (false, rest)
    match splitAt? ':' rest with
    | some (name, ']' :: rest) =>
      (asciiClass? (String.ofList name)).map fun s => (finishSet flags negated s, rest)
    | _ => none
  | _ => none

/-- An operation between two parts of a bracketed set. -/
inductive SetOperation where
  | intersection
  | difference
  | symmetricDifference
  deriving DecidableEq, Repr

/-- The operation at the front of the text. -/
def readSetOperation? : List Char → Option (SetOperation × List Char)
  | '&' :: '&' :: rest => some (.intersection, rest)
  | '-' :: '-' :: rest => some (.difference, rest)
  | '~' :: '~' :: rest => some (.symmetricDifference, rest)
  | _ => none

/-- Two parts of a bracketed set under an operation; both are closed under case first. -/
def applySetOperation (flags : Flags) (op : SetOperation) (s t : CharSet) : CharSet :=
  let s := finishSet flags false s
  let t := finishSet flags false t
  match op with
  | .intersection => .inter s t
  | .difference => .minus s t
  | .symmetricDifference => .symmDiff s t

/-- The part before an operation combined with the part behind it. -/
def combinePending (flags : Flags) (pending : Option (SetOperation × CharSet)) (s : CharSet) : CharSet :=
  match pending with
  | none => s
  | some (op, left) => applySetOperation flags op left s

/-- The union of two sets, an empty one left out. -/
def joinSets (s t : CharSet) : CharSet :=
  match s, t with
  | .ranges a, .ranges b => .ranges (a ++ b)
  | .ranges [], t => t
  | s, .ranges [] => s
  | s, t => .union s t

/-- The hyphens, and then the closing bracket, that stand for themselves behind an opening bracket. -/
def readClassHead (flags : Flags) : Nat → List (Nat × Nat) → List Char → Except ReadFault (CharSet × List Char)
  | 0, _, _ => .error .unclosedClass
  | _ + 1, _, [] => .error .unclosedClass
  | fuel + 1, seen, c :: rest =>
    if c = '-' then readClassHead flags fuel (seen ++ [(0x2D, 0x2D)]) (skipIgnored flags rest)
    else if c = ']' ∧ seen.isEmpty then
      match skipIgnored flags rest with
      | [] => .error .unclosedClass
      | rest => .ok (.ranges [(0x5D, 0x5D)], rest)
    else .ok (.ranges seen, c :: rest)

mutual

/-- A bracketed set whose opening bracket has been read. -/
def readClass (flags : Flags) : Nat → Nat → List Char → Except ReadFault (CharSet × List Char)
  | 0, _, _ => .error .unclosedClass
  | _ + 1, 0, _ => .error .nestedTooDeep
  | fuel + 1, depth + 1, s => do
    let (negated, rest) := match skipIgnored flags s with
      | '^' :: rest => (true, skipIgnored flags rest)
      | rest => (false, rest)
    let (head, rest) ← readClassHead flags (rest.length + 1) [] rest
    let (set, rest) ← readClassItems flags fuel depth none head rest
    return (finishSet flags negated set, rest)

/-- The items of a bracketed set up to its closing bracket: `pending` is the part before the last operation, `current`
the union read since. -/
def readClassItems (flags : Flags) : Nat → Nat → Option (SetOperation × CharSet) → CharSet → List Char →
    Except ReadFault (CharSet × List Char)
  | 0, _, _, _, _ => .error .unclosedClass
  | fuel + 1, depth, pending, current, s =>
    match skipIgnored flags s with
    | [] => .error .unclosedClass
    | ']' :: rest => .ok (combinePending flags pending current, rest)
    | '[' :: rest =>
      match readAsciiClass? flags ('[' :: rest) with
      | some (set, rest) => readClassItems flags fuel depth pending (joinSets current set) rest
      | none => do
        let (set, rest) ← readClass flags fuel depth rest
        readClassItems flags fuel depth pending (joinSets current set) rest
    | c :: rest =>
      match readSetOperation? (c :: rest) with
      | some (op, rest) => readClassItems flags fuel depth (some (op, combinePending flags pending current)) .empty rest
      | none => do
        let (set, rest) ← readClassRange flags (c :: rest)
        readClassItems flags fuel depth pending (joinSets current set) rest

end

/-! ## Repetitions, groups and alternatives -/

/-- A count in braces. Blanks around it are passed over. -/
def readCount (s : List Char) : Except ReadFault (Nat × List Char) :=
  let s := s.dropWhile Text.isBlank
  let digits := s.takeWhile Char.isDigit
  match Number.readDigits? digits with
  | none => .error .missingCount
  | some n =>
    if n < Number.twoTo 32 then .ok (n, (s.dropWhile Char.isDigit).dropWhile Text.isBlank) else .error .countTooLarge

/-- The counts of a repetition, its opening brace read: the least number and the number of extra copies. -/
def readCounts (flags : Flags) (s : List Char) : Except ReadFault (Nat × Option Nat × List Char) := do
  match skipIgnored flags s with
  | [] => .error .unclosedCount
  | s =>
    let (low, rest) ← readCount s
    match rest with
    | '\x7d' :: rest => return (low, some 0, rest)
    | ',' :: rest =>
      match skipIgnored flags rest with
      | [] => .error .unclosedCount
      | '\x7d' :: rest => return (low, none, rest)
      | rest =>
        let (high, rest) ← readCount rest
        match rest with
        | '\x7d' :: rest => if high < low then .error .countRange else return (low, some (high - low), rest)
        | _ => .error .unclosedCount
    | _ => .error .unclosedCount

/-- A repetition operator at the front of the text: the least number of copies and the number of extra ones. -/
def readRepetition? (flags : Flags) : List Char → Option (Except ReadFault (Nat × Option Nat × List Char))
  | '?' :: rest => some (.ok (0, some 1, rest))
  | '*' :: rest => some (.ok (0, none, rest))
  | '+' :: rest => some (.ok (1, none, rest))
  | '\x7b' :: rest => some (readCounts flags rest)
  | _ => none

/-- A part of a sequence. A setting of flags is a part that cannot be repeated. -/
inductive Part where
  | expr (e : Expr)
  | flags

/-- The expression of the parts of a sequence, the last part first. -/
def sequence (parts : List Part) : Expr :=
  parts.foldl (fun acc part =>
    match part with
    | .flags => acc
    | .expr e => match acc with
      | .empty => e
      | _ => .seq e acc) .empty

/-- The flags written before a colon or a closing parenthesis: the flags then in force, and whether any stood there. -/
def readFlags : Nat → Bool → Bool → List Char → Flags → List Char →
    Except ReadFault (Flags × Bool × List Char)
  | 0, _, _, _, _, _ => .error .unclosedFlags
  | _ + 1, _, _, _, _, [] => .error .unclosedFlags
  | fuel + 1, negated, dangling, seen, flags, c :: rest =>
    if c = ':' ∨ c = ')' then
      if dangling then .error .danglingNegation else .ok (flags, !seen.isEmpty, c :: rest)
    else if c = '-' then
      if negated then .error .repeatedNegation else readFlags fuel true true ('-' :: seen) flags rest
    else
      match flags.assign c (!negated) with
      | none => .error .unknownFlag
      | some flags =>
        if seen.contains c then .error .duplicateFlag else readFlags fuel negated false (c :: seen) flags rest

/-- Whether a character may stand in the name of a group. -/
def isGroupNameChar (first : Bool) (c : Char) : Bool :=
  if first then c == '_' || Text.isAlphabetic c
  else c == '_' || c == '.' || c == '[' || c == ']' || Text.isAlphanumeric c

/-- The name of a group up to its closing angle bracket, added to the names seen so far. -/
def readGroupName (names : List (List Char)) (s : List Char) : Except ReadFault (List (List Char) × List Char) :=
  let name := s.takeWhile (· != '>')
  match name, s.dropWhile (· != '>') with
  | _, [] => .error .unclosedGroupName
  | [], _ => .error .emptyGroupName
  | c :: tail, _ :: rest =>
    if !isGroupNameChar true c || tail.any (fun d => !isGroupNameChar false d) then .error .invalidGroupName
    else if names.contains (c :: tail) then .error .duplicateGroupName
    else .ok ((c :: tail) :: names, rest)

/-- The place that a caret or a dollar sign stands for. -/
def anchor (flags : Flags) (start : Bool) : Look :=
  match flags.multiLine, flags.crlf, start with
  | false, _, true => .textStart
  | false, _, false => .textEnd
  | true, false, true => .lineStart
  | true, false, false => .lineEnd
  | true, true, true => .crlfLineStart
  | true, true, false => .crlfLineEnd

/-- The set that a dot stands for. -/
def dotSet (flags : Flags) : Except ReadFault CharSet :=
  if !flags.unicode then .error .invalidBytes
  else if flags.dotAll then .ok (.property .any)
  else if flags.crlf then .ok (.negate (.ranges [(0x0A, 0x0A), (0x0D, 0x0D)]))
  else .ok (.negate (.ranges [(0x0A, 0x0A)]))

/-- The expression of a single element. -/
def elementExpr (flags : Flags) : Element → Except ReadFault Expr
  | .literal c byte => do
    checkLiteral flags c byte
    return .set (literalSet flags c)
  | .set s => .ok (.set s)
  | .look l => .ok (.look l)

mutual

/-- Alternatives up to a closing parenthesis or the end. The flags set in one alternative hold in the later ones. -/
def readAlternatives : Nat → Nat → Flags → List (List Char) → List Char →
    Except ReadFault (Expr × List (List Char) × List Char)
  | 0, _, _, _, _ => .error .unclosedGroup
  | fuel + 1, depth, flags, names, s => do
    let (first, flags, names, rest) ← readSequence fuel depth flags names [] s
    match rest with
    | '|' :: rest =>
      let (others, names, rest) ← readAlternatives fuel depth flags names rest
      return (.alt first others, names, rest)
    | _ => return (first, names, rest)

/-- A sequence up to a bar, a closing parenthesis or the end; `parts` are the parts read so far, the last one first. -/
def readSequence : Nat → Nat → Flags → List (List Char) → List Part → List Char →
    Except ReadFault (Expr × Flags × List (List Char) × List Char)
  | 0, _, _, _, _, _ => .error .unclosedGroup
  | fuel + 1, depth, flags, names, parts, s =>
    match skipIgnored flags s with
    | [] => .ok (sequence parts, flags, names, [])
    | '|' :: rest => .ok (sequence parts, flags, names, '|' :: rest)
    | ')' :: rest => .ok (sequence parts, flags, names, ')' :: rest)
    | '(' :: rest => do
      let (part, flags, names, rest) ← readGroup fuel depth flags names (skipIgnored flags rest)
      readSequence fuel depth flags names (part :: parts) rest
    | '[' :: rest => do
      let (set, rest) ← readClass flags (rest.length + 2) depth rest
      let set ← asciiOnly flags set
      readSequence fuel depth flags names (.expr (.set set) :: parts) rest
    | '\\' :: rest => do
      let (element, rest) ← readEscape flags rest
      readSequence fuel depth flags names (.expr (← elementExpr flags element) :: parts) rest
    | '.' :: rest => do
      readSequence fuel depth flags names (.expr (.set (← dotSet flags)) :: parts) rest
    | '^' :: rest => readSequence fuel depth flags names (.expr (.look (anchor flags true)) :: parts) rest
    | '$' :: rest => readSequence fuel depth flags names (.expr (.look (anchor flags false)) :: parts) rest
    | c :: rest =>
      match readRepetition? flags (c :: rest) with
      | none => do
        readSequence fuel depth flags names (.expr (← elementExpr flags (.literal c false)) :: parts) rest
      | some counts =>
        match parts with
        | .expr e :: parts => do
          let (least, extra, rest) ← counts
          let (lazy, rest) := match skipIgnored flags rest with
            | '?' :: rest => (true, rest)
            | rest => (false, rest)
          let greedy := lazy == flags.swapGreed
          readSequence fuel depth flags names (.expr (.repeated greedy least extra e) :: parts) rest
        | _ => .error .nothingToRepeat

/-- A group or a setting of flags, the opening parenthesis read. -/
def readGroup : Nat → Nat → Flags → List (List Char) → List Char →
    Except ReadFault (Part × Flags × List (List Char) × List Char)
  | 0, _, _, _, _ => .error .unclosedGroup
  | _ + 1, 0, _, _, _ => .error .nestedTooDeep
  | fuel + 1, depth + 1, flags, names, s =>
    let inner (innerFlags : Flags) (names : List (List Char)) (s : List Char) :
        Except ReadFault (Part × Flags × List (List Char) × List Char) := do
      let (e, names, rest) ← readAlternatives fuel depth innerFlags names s
      match rest with
      | ')' :: rest => return (.expr e, flags, names, rest)
      | _ => .error .unclosedGroup
    match s with
    | '?' :: '=' :: _ => .error .lookAround
    | '?' :: '!' :: _ => .error .lookAround
    | '?' :: '<' :: '=' :: _ => .error .lookAround
    | '?' :: '<' :: '!' :: _ => .error .lookAround
    | '?' :: 'P' :: '<' :: rest => do
      let (names, rest) ← readGroupName names rest
      inner flags names rest
    | '?' :: '<' :: rest => do
      let (names, rest) ← readGroupName names rest
      inner flags names rest
    | ['?'] => .error .unclosedGroup
    | '?' :: rest => do
      let (newFlags, present, rest) ← readFlags (rest.length + 1) false false [] flags rest
      match rest with
      | ':' :: rest => inner newFlags names rest
      | ')' :: rest => if present then return (.flags, newFlags, names, rest) else .error .nothingToRepeat
      | _ => .error .unclosedFlags
    | _ => inner flags names s

end

/-- The number of bytes that a compiled expression may take. -/
def sizeLimit : Nat := 10 * Number.twoTo 20

end Regex

/-- A compiled regular expression with its source text. -/
structure Regex where
  source : String
  expr : Regex.Expr
  deriving DecidableEq, Repr

namespace Regex

/-- Compiles a pattern. -/
def compile (source : String) : Except ReadFault Regex := do
  let s := source.toList
  let (e, _, rest) ← readAlternatives (2 * s.length + 4) 250 {} [] s
  match rest with
  | [] => if e.weight > sizeLimit then .error .tooLarge else return ⟨source, e⟩
  | _ => .error .unopenedGroup

/-- The first match in a text. -/
def find (r : Regex) (text : String) : Option Split := r.expr.find text.toList

/-- The text of the first match. -/
def firstMatch (r : Regex) (text : String) : Option String := (r.find text).map fun s => String.ofList s.matched

/-- Whether the pattern matches somewhere in a text. -/
def isMatch (r : Regex) (text : String) : Bool := (r.find text).isSome

end Regex

end FormValidation
