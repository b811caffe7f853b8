import FormValidation.FieldMap
import FormValidation.Regex.Reader

/-!
# Patterns for field names and values

A pattern is a compiled regular expression, or a text in the delimited notation of profile files, such as `/^addr_/i`
or `m!_name$!`. A text is compiled only where a profile needs it. Its body is everything between the first delimiter
and the last, so the body may hold the delimiter itself; the letters behind the last delimiter are flags.
-/

set_option autoImplicit false

namespace FormValidation

/-- Why a pattern text cannot be used. -/
inductive PatternFault where
  | unterminated
  | unsupportedFlag (flag : Char)
  | malformed (fault : Regex.ReadFault)
  deriving DecidableEq, Repr

/-- The reason as it is reported. -/
def PatternFault.message : PatternFault → String
  | unterminated => "unterminated pattern"
  | unsupportedFlag flag => "unsupported flag '" ++ flag.toString ++ "'"
  | malformed fault => fault.message

/-- A pattern: compiled already, or a text that is compiled on use. -/
inductive FieldPattern where
  | compiled (regex : Regex)
  | delimited (text : String)
  deriving DecidableEq, Repr

namespace FieldPattern

/-- The text the pattern was written as. -/
def source : FieldPattern → String
  | compiled regex => regex.source
  | delimited text => text

/-- Whether a character may open a pattern behind the letter m. -/
def isOpener (c : Char) : Bool := !Text.isAlphanumeric c && !Text.isBlank c && c != '_'

/-- The opening delimiter of a delimited text and what stands behind it. -/
def opening? : List Char → Option (Char × List Char)
  | '/' :: rest => some ('/', rest)
  | 'm' :: c :: rest => if isOpener c then some (c, rest) else none
  | _ => none

/-- Whether a text is in the delimited notation. -/
def isDelimited (text : String) : Bool := (opening? text.toList).isSome

/-- The delimiter that closes what a delimiter opens: the matching bracket, or the same character again. -/
def closerOf (c : Char) : Char :=
  if c = '(' then ')'
  else if c = '\x7b' then '\x7d'
  else if c = '[' then ']'
  else if c = '<' then '>'
  else c

/-- What stands before and behind the last occurrence of a character. -/
def splitAtLast (c : Char) : List Char → Option (List Char × List Char)
  | [] => none
  | x :: rest =>
    match splitAtLast c rest with
    | some (before, behind) => some (x :: before, behind)
    | none => if x = c then some ([], rest) else none

/-- Whether a flag changes how the pattern matches. -/
def isInlineFlag (c : Char) : Bool := c == 'i' || c == 'm' || c == 's' || c == 'x'

/-- Whether a flag is accepted without an effect: compiling once and matching globally mean nothing for one match. -/
def isIdleFlag (c : Char) : Bool := c == 'o' || c == 'g'

/-- The flags that change the matching, each once and in the order of their first use, behind those found so far. -/
def inlineFlags (found : List Char) : List Char → Except PatternFault (List Char)
  | [] => .ok found
  | c :: rest =>
    if isInlineFlag c then inlineFlags (if found.contains c then found else found ++ [c]) rest
    else if isIdleFlag c then inlineFlags found rest
    else .error (.unsupportedFlag c)

/-- The body of a pattern with its flags put in front of it. -/
def withFlags (flags body : List Char) : List Char :=
  if flags.isEmpty then body else '(' :: '?' :: flags ++ ')' :: body

/-- The expression that a delimited text stands for; any other text is an expression itself. -/
def translateChars (s : List Char) : Except PatternFault (List Char) :=
  match opening? s with
  | none => .ok s
  | some (opener, rest) =>
    match splitAtLast (closerOf opener) rest with
    | none => .error .unterminated
    | some (body, letters) =>
      match inlineFlags [] letters with
      | .error fault => .error fault
      | .ok flags => .ok (withFlags flags body)

/-- `translateChars` on strings. -/
def translate (text : String) : Except PatternFault String :=
  match translateChars text.toList with
  | .error fault => .error fault
  | .ok source => .ok (String.ofList source)

/-- The compiled pattern. -/
def compile : FieldPattern → Except PatternFault Regex
  | compiled regex => .ok regex
  | delimited text =>
    match translate text with
    | .error fault => .error fault
    | .ok source =>
      match Regex.compile source with
      | .error fault => .error (.malformed fault)
      | .ok regex => .ok regex

end FieldPattern

/-- The names that a pattern matches, in the order given. -/
def Regex.matchingNames (regex : Regex) (names : List String) : List String := names.filter regex.isMatch

end FormValidation
