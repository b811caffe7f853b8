import FormValidation.Text.Class
import FormValidation.Text.Table.Case

/-!
# Upper and lower case

Case conversion of whole texts by the rules of the Unicode standard that hold in every language: a letter may become
several characters, and a capital sigma at the end of a word becomes the final sigma. `caseVariants` lists the
characters that a comparison without regard to case takes for one another.
-/

set_option autoImplicit false

namespace FormValidation.Text

/-- The code point to which the runs of a case table move a code point. -/
def shiftedBy (point : Nat) : List (Nat × Nat × Nat × Int) → Option Nat
  | [] => none
  | (first, last, step, shift) :: rest =>
    if point < first then none
    else if point ≤ last && (point - first) % step == 0 then some (Int.toNat (point + shift))
    else shiftedBy point rest

/-- The code point that the runs of a case table move to a code point. -/
def shiftedTo (point : Nat) : List (Nat × Nat × Nat × Int) → Option Nat
  | [] => none
  | (first, last, step, shift) :: rest =>
    let source := Int.toNat (point - shift)
    if first ≤ source && source ≤ last && (source - first) % step == 0 then some source
    else shiftedTo point rest

/-- The case of one character by a table of runs and a table of longer results. -/
def mapCase (runs : List (Nat × Nat × Nat × Int)) (long : List (Nat × List Nat)) (c : Char) : List Char :=
  match shiftedBy c.toNat runs with
  | some point => [Char.ofNat point]
  | none =>
    match long.find? (fun e => e.1 == c.toNat) with
    | some (_, points) => points.map Char.ofNat
    | none => [c]

/-- The lower case of a character that stands alone. -/
def lowerChar (c : Char) : List Char := mapCase Table.toLowerRuns Table.toLowerLong c

/-- The upper case of a character. -/
def upperChar (c : Char) : List Char := mapCase Table.toUpperRuns Table.toUpperLong c

/-- Whether the first character that is not passed over has a case. -/
def casedAhead (s : List Char) : Bool :=
  match s.dropWhile isCaseIgnorable with
  | [] => false
  | c :: _ => isCased c

/-- Lower case of a text that follows the characters `before` (nearest first): a capital sigma becomes the final
sigma when a letter with case stands before it and none stands after it. -/
def lowerAfter (before : List Char) : List Char → List Char
  | [] => []
  | c :: rest =>
    let lowered :=
      if c = 'Σ' then if casedAhead before && !casedAhead rest then ['ς'] else ['σ']
      else lowerChar c
    lowered ++ lowerAfter (c :: before) rest

/-- The lower case of a text. -/
def lower (s : List Char) : List Char := lowerAfter [] s

/-- The upper case of a text. -/
def upper (s : List Char) : List Char := s.flatMap upperChar

/-- `lower` on strings. -/
def lowerString (s : String) : String := String.ofList (lower s.toList)

/-- The lower case of a text in which only the letters A to Z have a case. -/
def asciiLower (s : List Char) : List Char := s.map Char.toLower

/-- Whether two texts are the same but for the case of the letters A to Z. -/
def equalIgnoringAsciiCase (s t : List Char) : Bool := asciiLower s == asciiLower t

/-- The code points that differ from a code point in case alone, itself included. -/
def caseVariants (point : Nat) : List Nat :=
  match Table.foldGroups.find? (fun group => group.contains point) with
  | some group => group
  | none =>
    match shiftedBy point Table.foldRuns with
    | some other => [point, other]
    | none =>
      match shiftedTo point Table.foldRuns with
      | some other => [point, other]
      | none => [point]

end FormValidation.Text
