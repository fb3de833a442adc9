/-
# Concordance.Digest.SipHash -- a keyed 64-bit digest of bytes

SipHash with one round per word and three rounds at the end, here under the zero
key.  The bytes are read as little-endian words of eight; the last word holds what
is left, and the length in its top byte.
-/

namespace Concordance.Digest

set_option autoImplicit false

/-- The four words that a round mixes. -/
structure SipState where
  v0 : UInt64
  v1 : UInt64
  v2 : UInt64
  v3 : UInt64

namespace SipState

/-- Turns a word left by fewer than 64 bits. -/
def rotate (x : UInt64) (by_ : UInt64) : UInt64 := (x <<< by_) ||| (x >>> (64 - by_))

/-- The state under the zero key. -/
def initial : SipState :=
  ⟨0x736f6d6570736575, 0x646f72616e646f6d, 0x6c7967656e657261, 0x7465646279746573⟩

/-- One round of mixing. -/
def round (s : SipState) : SipState :=
  let v0 := s.v0 + s.v1
  let v1 := rotate s.v1 13 ^^^ v0
  let v0 := rotate v0 32
  let v2 := s.v2 + s.v3
  let v3 := rotate s.v3 16 ^^^ v2
  let v0 := v0 + v3
  let v3 := rotate v3 21 ^^^ v0
  let v2 := v2 + v1
  let v1 := rotate v1 17 ^^^ v2
  let v2 := rotate v2 32
  ⟨v0, v1, v2, v3⟩

/-- Takes in one word. -/
def absorb (s : SipState) (word : UInt64) : SipState :=
  let mixed := round { s with v3 := s.v3 ^^^ word }
  { mixed with v0 := mixed.v0 ^^^ word }

/-- Closes the state and reads the digest off it. -/
def finish (s : SipState) : UInt64 :=
  let t := round (round (round { s with v2 := s.v2 ^^^ 0xff }))
  t.v0 ^^^ t.v1 ^^^ t.v2 ^^^ t.v3

end SipState

/-- The little-endian word of at most eight bytes. -/
def littleEndian : List UInt8 → UInt64
  | [] => 0
  | b :: rest => b.toUInt64 ||| (littleEndian rest <<< 8)

/-- Takes in the bytes eight at a time; what is left shares a word with the low byte of `length`. -/
def absorbBytes (length : UInt64) (s : SipState) : List UInt8 → SipState
  | a :: b :: c :: d :: e :: f :: g :: h :: rest =>
      absorbBytes length (s.absorb (littleEndian [a, b, c, d, e, f, g, h])) rest
  | rest => s.absorb (littleEndian rest ||| (length <<< 56))

/-- The digest of a list of bytes. -/
def sipHash (bytes : List UInt8) : UInt64 :=
  (absorbBytes (UInt64.ofNat bytes.length) SipState.initial bytes).finish

/-- The digest of a text: of its UTF-8 bytes and a byte `0xff`, which no text holds. -/
def hashText (s : String) : UInt64 := sipHash (s.toUTF8.toList ++ [0xff])

end Concordance.Digest
