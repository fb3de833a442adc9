/-
# Concordance.Text.Utf8 -- bytes as text

`decodeStrict` takes only bytes that are a text.  `decodeLossy` takes any bytes:
every longest piece that could begin a character and does not end one becomes a
single replacement character.
-/

namespace Concordance.Text

set_option autoImplicit false

/-- The bytes of a text. -/
def utf8 (s : List Char) : List UInt8 := s.flatMap String.utf8EncodeChar

/-- The text of the bytes, if they are one. -/
def decodeStrict (bytes : List UInt8) : Option String :=
  String.fromUTF8? (ByteArray.mk bytes.toArray)

/-- A character of which some bytes are read: how many are to come, between which bounds the next
one lies, and the bits so far. -/
structure Begun where
  missing : Nat
  lower : Nat
  upper : Nat
  bits : Nat

/-- What a first byte means: a character, the beginning of one, or nothing. -/
def beginChar (b : Nat) : List Char × Option Begun :=
  if b < 0x80 then ([Char.ofNat b], none)
  else if 0xc2 ≤ b ∧ b ≤ 0xdf then ([], some ⟨1, 0x80, 0xbf, b - 0xc0⟩)
  else if b = 0xe0 then ([], some ⟨2, 0xa0, 0xbf, 0⟩)
  else if b = 0xed then ([], some ⟨2, 0x80, 0x9f, 13⟩)
  else if 0xe1 ≤ b ∧ b ≤ 0xef then ([], some ⟨2, 0x80, 0xbf, b - 0xe0⟩)
  else if b = 0xf0 then ([], some ⟨3, 0x90, 0xbf, 0⟩)
  else if 0xf1 ≤ b ∧ b ≤ 0xf3 then ([], some ⟨3, 0x80, 0xbf, b - 0xf0⟩)
  else if b = 0xf4 then ([], some ⟨3, 0x80, 0x8f, 4⟩)
  else (['\ufffd'], none)

/-- The characters of the bytes, after the bytes of `begun`. -/
def decodeFrom : Option Begun → List UInt8 → List Char
  | none, [] => []
  | some _, [] => ['\ufffd']
  | none, b :: rest =>
      let (chars, begun) := beginChar b.toNat
      chars ++ decodeFrom begun rest
  | some s, b :: rest =>
      if s.lower ≤ b.toNat ∧ b.toNat ≤ s.upper then
        let bits := s.bits * 64 + (b.toNat - 0x80)
        if s.missing = 1 then Char.ofNat bits :: decodeFrom none rest
        else decodeFrom (some ⟨s.missing - 1, 0x80, 0xbf, bits⟩) rest
      else
        let (chars, begun) := beginChar b.toNat
        '\ufffd' :: chars ++ decodeFrom begun rest

/-- The characters of the bytes, with replacement characters for what is no character. -/
def decodeLossy (bytes : List UInt8) : List Char := decodeFrom none bytes

end Concordance.Text
