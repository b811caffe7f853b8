import FormValidation.Text.Case
import FormValidation.Text.Table.Category
import FormValidation.Text.Table.Script

/-!
# Sets of characters

The sets that a pattern can name: ranges, properties of the Unicode standard, and what the bracket notation builds
from them. A set is kept as it was built and asked for membership, so negation and the set operations are exact, and
`fold` closes a set under change of case.
-/

set_option autoImplicit false

namespace FormValidation.Regex

/-- A named property of characters. -/
inductive Property where
  | any
  | blank
  | word
  | decimalDigit
  | alphabetic
  | lowercase
  | uppercase
  | cased
  | caseIgnorable
  | joinControl
  | category (names : List String)
  | script (name : String)
  deriving DecidableEq, Repr

/-- The general categories by their short names, with the ranges of each. -/
def categoryTables : List (String × List (Nat × Nat)) := [
  ("lu", Text.Table.upperLetter), ("ll", Text.Table.lowerLetter), ("lt", Text.Table.titleLetter),
  ("lm", Text.Table.modifierLetter), ("lo", Text.Table.otherLetter), ("mn", Text.Table.nonspacingMark),
  ("mc", Text.Table.spacingMark), ("me", Text.Table.enclosingMark), ("nd", Text.Table.decimalDigit),
  ("nl", Text.Table.letterNumber), ("no", Text.Table.otherNumber), ("pc", Text.Table.connector),
  ("pd", Text.Table.dashPunctuation), ("ps", Text.Table.openPunctuation), ("pe", Text.Table.closePunctuation),
  ("pi", Text.Table.initialPunctuation), ("pf", Text.Table.finalPunctuation), ("po", Text.Table.otherPunctuation),
  ("sm", Text.Table.mathSymbol), ("sc", Text.Table.currencySymbol), ("sk", Text.Table.modifierSymbol),
  ("so", Text.Table.otherSymbol), ("zs", Text.Table.spaceSeparator), ("zl", Text.Table.lineSeparator),
  ("zp", Text.Table.paragraphSeparator), ("cc", Text.Table.control), ("cf", Text.Table.format),
  ("co", Text.Table.privateUse), ("cn", Text.Table.unassigned)]

/-- Names of general categories, in lower case without separators, with the short names of the categories that each
stands for. -/
def categoryNames : List (List String × List String) := [
  (["lu", "uppercaseletter"], ["lu"]), (["ll", "lowercaseletter"], ["ll"]), (["lt", "titlecaseletter"], ["lt"]),
  (["lc", "casedletter"], ["lu", "ll", "lt"]), (["lm", "modifierletter"], ["lm"]), (["lo", "otherletter"], ["lo"]),
  (["l", "letter"], ["lu", "ll", "lt", "lm", "lo"]), (["mn", "nonspacingmark"], ["mn"]),
  (["mc", "spacingmark"], ["mc"]), (["me", "enclosingmark"], ["me"]),
  (["m", "mark", "combiningmark"], ["mn", "mc", "me"]), (["nd", "decimalnumber", "digit"], ["nd"]),
  (["nl", "letternumber"], ["nl"]), (["no", "othernumber"], ["no"]), (["n", "number"], ["nd", "nl", "no"]),
  (["pc", "connectorpunctuation"], ["pc"]), (["pd", "dashpunctuation"], ["pd"]),
  (["ps", "openpunctuation"], ["ps"]), (["pe", "closepunctuation"], ["pe"]),
  (["pi", "initialpunctuation"], ["pi"]), (["pf", "finalpunctuation"], ["pf"]),
  (["po", "otherpunctuation"], ["po"]),
  (["p", "punctuation", "punct"], ["pc", "pd", "ps", "pe", "pi", "pf", "po"]), (["sm", "mathsymbol"], ["sm"]),
  (["sc", "currencysymbol"], ["sc"]), (["sk", "modifiersymbol"], ["sk"]), (["so", "othersymbol"], ["so"]),
  (["s", "symbol"], ["sm", "sc", "sk", "so"]), (["zs", "spaceseparator"], ["zs"]),
  (["zl", "lineseparator"], ["zl"]), (["zp", "paragraphseparator"], ["zp"]),
  (["z", "separator"], ["zs", "zl", "zp"]), (["cc", "control", "cntrl"], ["cc"]), (["cf", "format"], ["cf"]),
  (["co", "privateuse"], ["co"]), (["cn", "unassigned"], ["cn"]), (["cs", "surrogate"], []),
  (["c", "other"], ["cc", "cf", "co", "cn"])]

/-- Whether a code point lies in a category, given by its short name. -/
def inCategory (point : Nat) (name : String) : Bool :=
  match categoryTables.find? (fun e => e.1 == name) with
  | some (_, ranges) => Text.inRanges point ranges
  | none => false

/-- Whether a code point has a property. -/
def Property.holds (point : Nat) : Property → Bool
  | any => true
  | blank => Text.inRanges point Text.Table.blank
  | word => Text.isWordChar (Char.ofNat point)
  | decimalDigit => Text.inRanges point Text.Table.decimalDigit
  | alphabetic => Text.inRanges point Text.Table.alphabetic
  | lowercase => Text.inRanges point Text.Table.lowercase
  | uppercase => Text.inRanges point Text.Table.uppercase
  | cased => Text.inRanges point Text.Table.cased
  | caseIgnorable => Text.inRanges point Text.Table.caseIgnorable
  | joinControl => Text.inRanges point Text.Table.joinControl
  | category names => names.any (inCategory point)
  | script name =>
    match Text.Table.scripts.find? (fun e => e.1.contains name) with
    | some (_, ranges) => Text.inRanges point ranges
    | none => false

/-- An estimate of the bytes that a compiled pattern spends on a property: about 72 for each range of its table. -/
def Property.weight : Property → Nat
  | any => 400
  | blank => 300
  | word => 57000
  | decimalDigit => 5000
  | alphabetic => 54000
  | lowercase => 48000
  | uppercase => 47000
  | cased => 12000
  | caseIgnorable => 32000
  | joinControl => 100
  | category names =>
    categoryTables.foldl (fun total e => if names.contains e.1 then total + 72 * e.2.length else total) 400
  | script _ => 1000

/-- A set of characters as a pattern writes it. -/
inductive CharSet where
  | ranges (list : List (Nat × Nat))
  | property (p : Property)
  | negate (s : CharSet)
  | union (s t : CharSet)
  | inter (s t : CharSet)
  | minus (s t : CharSet)
  | symmDiff (s t : CharSet)
  | fold (s : CharSet)
  | foldAscii (s : CharSet)
  deriving DecidableEq, Repr

/-- The code points that differ from a code point in the case of the letters A to Z alone, itself included. -/
def asciiVariants (point : Nat) : List Nat :=
  if 0x41 ≤ point ∧ point ≤ 0x5A then [point, point + 0x20]
  else if 0x61 ≤ point ∧ point ≤ 0x7A then [point, point - 0x20]
  else [point]

namespace CharSet

/-- Whether a code point belongs to the set. -/
def has : CharSet → Nat → Bool
  | ranges list, point => list.any fun r => r.1 ≤ point && point ≤ r.2
  | property p, point => p.holds point
  | negate s, point => !s.has point
  | union s t, point => s.has point || t.has point
  | inter s t, point => s.has point && t.has point
  | minus s t, point => s.has point && !t.has point
  | symmDiff s t, point => s.has point != t.has point
  | fold s, point => (Text.caseVariants point).any fun other => s.has other
  | foldAscii s, point => (asciiVariants point).any fun other => s.has other

/-- The set without members. -/
def empty : CharSet := ranges []

/-- The set of one character. -/
def single (c : Char) : CharSet := ranges [(c.toNat, c.toNat)]

/-- Whether a character belongs to the set. -/
def contains (s : CharSet) (c : Char) : Bool := s.has c.toNat

/-- Whether the set has a member among the bytes that stand for no character on their own. -/
def hasHighByte (s : CharSet) : Bool := (List.range 128).any fun k => s.has (k + 128)

/-- An estimate of the bytes that a compiled pattern spends on the set. -/
def weight : CharSet → Nat
  | ranges [(first, last)] => if first = last then 32 * (Char.ofNat first).utf8Size else if last < 128 then 32 else 96
  | ranges list => list.foldl (fun total r => total + if r.2 < 128 then 8 else 72) 32
  | property p => p.weight
  | negate s => 300 + s.weight
  | union s t => s.weight + t.weight
  | inter s t => max s.weight t.weight
  | minus s t => s.weight + t.weight
  | symmDiff s t => s.weight + t.weight
  | fold s => 2 * s.weight
  | foldAscii s => s.weight + 8

end CharSet

end FormValidation.Regex
