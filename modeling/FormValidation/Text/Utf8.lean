/-!
# Bytes as text

Reading bytes as UTF-8. Bytes that are not the encoding of a character are replaced, every longest beginning of an
encoding by one replacement character, so that any sequence of bytes has a text.
-/

set_option autoImplicit false

namespace FormValidation.Text

/-- The character that stands for bytes that cannot be read. -/
def replacementChar : Char := Char.ofNat 0xFFFD

/-- The number of continuation bytes behind a leading byte, and the bounds of the first of them. -/
def leadingByte? (b : UInt8) : Option (Nat × UInt8 × UInt8) :=
  if 0xC2 ≤ b && b ≤ 0xDF then some (1, 0x80, 0xBF)
  else if b = 0xE0 then some (2, 0xA0, 0xBF)
  else if b = 0xED then some (2, 0x80, 0x9F)
  else if 0xE1 ≤ b && b ≤ 0xEF then some (2, 0x80, 0xBF)
  else if b = 0xF0 then some (3, 0x90, 0xBF)
  else if 0xF1 ≤ b && b ≤ 0xF3 then some (3, 0x80, 0xBF)
  else if b = 0xF4 then some (3, 0x80, 0x8F)
  else none

/-- An encoding that has begun: the continuation bytes still to come, the bounds of the next one, and the bits read. -/
structure Begun where
  missing : Nat
  least : UInt8
  greatest : UInt8
  bits : Nat
  deriving DecidableEq, Repr

/-- The encoding that a leading byte begins. -/
def begin? (b : UInt8) : Option Begun :=
  (leadingByte? b).map fun (count, least, greatest) =>
    { missing := count, least, greatest, bits := b.toNat % (64 >>> count) }

/-- The text from a byte on at which an encoding starts: its characters before the rest of the bytes, and the encoding
that is begun there. -/
def startByte (b : UInt8) : List Char × Option Begun :=
  if b < 0x80 then ([Char.ofNat b.toNat], none)
  else match begin? b with
    | some begun => ([], some begun)
    | none => ([replacementChar], none)

/-- The text of the bytes behind an encoding that has begun, if one has. -/
def decodeFrom : Option Begun → List UInt8 → List Char
  | none, [] => []
  | some _, [] => [replacementChar]
  | none, b :: rest =>
    let (chars, begun) := startByte b
    chars ++ decodeFrom begun rest
  | some e, b :: rest =>
    if e.least ≤ b && b ≤ e.greatest then
      let bits := e.bits * 64 + b.toNat % 64
      if e.missing ≤ 1 then Char.ofNat bits :: decodeFrom none rest
      else decodeFrom (some { missing := e.missing - 1, least := 0x80, greatest := 0xBF, bits }) rest
    else
      let (chars, begun) := startByte b
      replacementChar :: chars ++ decodeFrom begun rest

/-- The text of a sequence of bytes. -/
def decodeUtf8 (bytes : List UInt8) : List Char := decodeFrom none bytes

end FormValidation.Text
