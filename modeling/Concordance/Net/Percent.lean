/-
# Concordance.Net.Percent -- characters as percent signs and digits

Addresses hold a restricted set of characters.  Any other is written byte by byte,
each byte as a percent sign and two hexadecimal digits.  Decoding undoes this and
leaves a percent sign alone that two digits do not follow.
-/
import Concordance.Text.Hex
import Concordance.Text.Utf8

namespace Concordance.Net

open Concordance.Text

set_option autoImplicit false

/-- The upper-case hexadecimal digit of a number below sixteen. -/
def upperHexDigit (n : Nat) : Char := if n < 10 then Char.ofNat (48 + n) else Char.ofNat (55 + n)

/-- A byte as a percent sign and two digits. -/
def percentByte (b : UInt8) : List Char :=
  ['%', upperHexDigit (b.toNat / 16), upperHexDigit (b.toNat % 16)]

/-- A character, percent-encoded if it is not ASCII or if `encode` says so. -/
def percentChar (encode : Char → Bool) (c : Char) : List Char :=
  if c.toNat < 128 && !encode c then [c] else (String.utf8EncodeChar c).flatMap percentByte

/-- A text, percent-encoded where `encode` says so. -/
def percentEncode (encode : Char → Bool) (s : List Char) : List Char :=
  s.flatMap (percentChar encode)

/-- The byte that two hexadecimal digits write. -/
def hexByte? (high low : UInt8) : Option UInt8 :=
  match hexValue? (Char.ofNat high.toNat), hexValue? (Char.ofNat low.toNat) with
  | some h, some l => some (UInt8.ofNat (h * 16 + l))
  | _, _ => none

/-- The bytes that percent-encoded bytes stand for. -/
def percentDecode : List UInt8 → List UInt8
  | b :: high :: low :: rest =>
      if b = 37 then
        match hexByte? high low with
        | some byte => byte :: percentDecode rest
        | none => b :: percentDecode (high :: low :: rest)
      else b :: percentDecode (high :: low :: rest)
  | bytes => bytes

/-! ## Which characters are encoded where -/

/-- Control characters. -/
def isControl (c : Char) : Bool := c.toNat < 32 || c.toNat = 127

/-- Characters that are encoded in a fragment. -/
def encodedInFragment (c : Char) : Bool :=
  isControl c || c = ' ' || c = '\"' || c = '<' || c = '>' || c.toNat = 96

/-- Characters that are encoded in a query. -/
def encodedInQuery (c : Char) : Bool :=
  isControl c || c = ' ' || c = '\"' || c = '#' || c = '<' || c = '>'

/-- Characters that are encoded in the query of a web address. -/
def encodedInSpecialQuery (c : Char) : Bool := encodedInQuery c || c = '\''

/-- Characters that are encoded in a path. -/
def encodedInPath (c : Char) : Bool :=
  encodedInFragment c || c = '#' || c = '?' || c = '\x7b' || c = '\x7d'

/-- Characters that are encoded in a form, the space apart. -/
def encodedInForm (c : Char) : Bool :=
  !(c.isAlphanum || c = '*' || c = '-' || c = '.' || c = '_')

end Concordance.Net
