import FormValidation.Text.Split
import FormValidation.Text.Utf8
import FormValidation.Json.Reader

/-!
# Form parameters

A web form submits pairs of names and values in an order of their own, and one name may occur several times. A query
string is such a sequence in the URL-encoded notation; every text can be read as one, since what is not well encoded
stands for itself.
-/

set_option autoImplicit false

namespace FormValidation

/-- Submitted pairs of names and values, in the order of submission. -/
structure FormParams where
  pairs : List (String × String)
  deriving DecidableEq, Repr

namespace FormParams

/-- The submission without pairs. -/
def empty : FormParams := ⟨[]⟩

/-- The submission with one more pair at its end. -/
def append (p : FormParams) (name value : String) : FormParams := ⟨p.pairs ++ [(name, value)]⟩

/-- The number of submitted pairs. -/
def size (p : FormParams) : Nat := p.pairs.length

/-- Whether nothing was submitted. -/
def isEmpty (p : FormParams) : Bool := p.pairs.isEmpty

/-- The names of pairs that are not among the names met so far, each at its first place. -/
def newNames (met : List String) : List (String × String) → List String
  | [] => []
  | (name, _) :: rest =>
    if met.contains name then newNames met rest else name :: newNames (name :: met) rest

/-- The submitted names, each at its first place. -/
def names (p : FormParams) : List String := newNames [] p.pairs

/-- The values submitted under a name, in the order of submission. -/
def values (p : FormParams) (name : String) : List String :=
  (p.pairs.filter fun pair => pair.1 == name).map fun pair => pair.2

end FormParams

namespace UrlEncoding

/-- The bytes of an encoded text: a plus sign is a blank, a percent sign with two hexadecimal digits is the byte they
name, everything else stands for itself. -/
def bytes : List Char → List UInt8
  | [] => []
  | '+' :: rest => ' '.toUInt8 :: bytes rest
  | '%' :: a :: b :: rest =>
    match Json.hexValue? a, Json.hexValue? b with
    | some x, some y => UInt8.ofNat (x * 16 + y) :: bytes rest
    | _, _ => '%'.toUInt8 :: bytes (a :: b :: rest)
  | c :: rest => String.utf8EncodeChar c ++ bytes rest

/-- The text that an encoded text stands for. -/
def decode (s : List Char) : String := String.ofList (Text.decodeUtf8 (bytes s))

/-- One pair: a name, and behind the first equals sign its value. -/
def readPair (s : List Char) : String × String :=
  match Text.splitAtFirst? '=' s with
  | some (name, value) => (decode name, decode value)
  | none => (decode s, "")

/-- The pairs between ampersands; empty ones are passed over. -/
def readPairs (s : List Char) : List (String × String) :=
  ((Text.splitAll '&' s).filter fun part => !part.isEmpty).map readPair

end UrlEncoding

/-- The parameters of a query string, which may start with a question mark. -/
def FormParams.ofQuery (query : String) : FormParams :=
  ⟨UrlEncoding.readPairs (match query.toList with | '?' :: rest => rest | s => s)⟩

end FormValidation
