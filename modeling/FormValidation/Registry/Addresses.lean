import FormValidation.Constraint.Function

/-!
# Addresses

Constraints on the parts of an address: electronic mail, postal codes, telephone numbers and internet addresses. A
postal code is accepted with blanks around it, and what is kept of it is its usual written form.
-/

set_option autoImplicit false

namespace FormValidation.Address

/-! ## Electronic mail -/

/-- Whether a character may stand before the at sign. -/
def isLocalChar (c : Char) : Bool := c.isAlphanum || ".!#$%&'*+/=?^_`\x7b|\x7d~-".toList.contains c

/-- Whether a text is a label of a domain: letters, digits and hyphens, with no hyphen at either end. -/
def isLabel (s : List Char) : Bool :=
  s.all (fun c => c.isAlphanum || c == '-') && s.head?.any Char.isAlphanum && s.getLast?.any Char.isAlphanum

/-- Whether a text is a top-level domain: two letters or more. -/
def isTopLevel (s : List Char) : Bool := s.all Char.isAlpha && s.length ≥ 2

/-- Whether the parts of a domain are labels ending in a top-level domain; there are two parts at least. -/
def isDomain : List (List Char) → Bool
  | [] => false
  | [_] => false
  | [label, top] => isLabel label && isTopLevel top
  | label :: rest => isLabel label && isDomain rest

/-- Whether a text is an address of electronic mail. -/
def isEmail (text : String) : Bool :=
  match Text.splitAll '@' text.toList with
  | [front, domain] => !front.isEmpty && front.all isLocalChar && isDomain (Text.splitAll '.' domain)
  | _ => false

/-! ## Postal codes -/

/-- Whether a text consists of a number of decimal digits. -/
def isDigits (count : Nat) (s : List Char) : Bool := s.length == count && s.all Text.isDecimalDigit

/-- Whether a text is a zip code, five digits, or one with four more behind a hyphen. -/
def isZip (s : List Char) : Bool :=
  match Text.splitAll '-' s with
  | [code] => isDigits 5 code
  | [code, more] => isDigits 5 code && isDigits 4 more
  | _ => false

/-- A zip code with blanks around it. -/
def zip (text : String) : Verdict :=
  let code := Text.trim text.toList
  Verdict.check (isZip code) (String.ofList code)

/-- Whether a letter names a region of postcodes. -/
def isRegionLetter (c : Char) : Bool := "ABCEGHJKLMNPRSTVXYabceghjklmnprstvxy".toList.contains c

/-- The second half of a postcode behind the blanks and the hyphen that may stand before it. -/
def secondHalf (s : List Char) : List Char :=
  match s.dropWhile Text.isBlank with
  | '-' :: rest => rest.dropWhile Text.isBlank
  | rest => rest

/-- The two halves of a postcode. -/
def postcodeHalves? : List Char → Option (List Char × List Char)
  | a :: b :: c :: rest =>
    if isRegionLetter a && Text.isDecimalDigit b && c.isAlpha then
      match secondHalf rest with
      | [x, y, z] =>
        if Text.isDecimalDigit x && y.isAlpha && Text.isDecimalDigit z then some ([a, b, c], [x, y, z]) else none
      | _ => none
    else none
  | _ => none

/-- A postcode with blanks around it, its halves together or apart; kept in capitals with one blank between them. -/
def postcode (text : String) : Verdict :=
  match postcodeHalves? (Text.trim text.toList) with
  | some (first, second) => .matched (String.ofList (Text.upper first ++ ' ' :: Text.upper second))
  | none => .rejected

/-! ## Telephone numbers and internet addresses -/

/-- The number of digits from 0 to 9 in a text. -/
def digitCount (text : String) : Nat := (text.toList.filter Char.isDigit).length

/-- Whether a text is a number of an internet address: at most three digits, at most 255. -/
def isOctet (s : List Char) : Bool :=
  s.length ≤ 3 && s.all Char.isDigit && (Number.readDigits? s).any (fun n => n ≤ 255)

/-- Whether a text is an internet address of four numbers. -/
def isInternetAddress (text : String) : Bool :=
  let octets := Text.splitAll '.' text.toList
  octets.length == 4 && octets.all isOctet

end FormValidation.Address
