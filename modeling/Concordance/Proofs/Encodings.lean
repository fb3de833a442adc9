/-
# Concordance.Proofs.Encodings -- what is encoded reads back

A text becomes bytes, and a part of an address becomes characters that addresses may
hold; whoever receives it undoes both.  Here each step is undone: bytes of a text read
as that text, strictly (`decodeStrict_eq_some_iff`) and leniently (`decodeLossy_utf8`); bytes
that were percent-encoded come back (`percentDecode_percentEncode`), provided that a
percent sign was encoded itself; and a value in a form is read as it was written
(`formDecode_formEncode`).

Which characters an encoded text consists of is said by `mem_percentEncode`, so that
whatever cuts addresses apart never cuts inside one.
-/
import Concordance.Net.Form
import Mathlib

namespace Concordance

set_option autoImplicit false

namespace Text

/-! ## Bytes of a text -/

@[simp] theorem utf8_nil : utf8 [] = [] := rfl

theorem utf8_cons (c : Char) (s : List Char) : utf8 (c :: s) = String.utf8EncodeChar c ++ utf8 s :=
  List.flatMap_cons

theorem utf8_append (s t : List Char) : utf8 (s ++ t) = utf8 s ++ utf8 t := List.flatMap_append

/-- An ASCII character is one byte. -/
theorem utf8EncodeChar_of_lt {c : Char} (ascii : c.toNat < 128) :
    String.utf8EncodeChar c = [UInt8.ofNat c.toNat] := by
  have short : c.val.toNat ≤ 127 := Nat.lt_succ_iff.1 ascii
  rw [String.utf8EncodeChar, if_pos short]
  rfl

theorem fromUTF8?_eq_some_iff {bytes : ByteArray} {text : String} :
    String.fromUTF8? bytes = some text ↔ bytes = text.toUTF8 := by
  rw [String.fromUTF8?]
  constructor
  · intro read
    split at read
    · cases read
      rfl
    · cases read
  · rintro rfl
    exact dif_pos text.isValidUTF8

/-- The bytes of a text, in an array. -/
theorem toUTF8_eq_mk (s : String) : s.toUTF8 = ByteArray.mk (utf8 s.toList).toArray := by
  rw [String.toUTF8_eq_toByteArray, ← String.utf8Encode_toList, ByteArray.ext_iff, List.utf8Encode,
    List.data_toByteArray, utf8]

/-- Bytes are read strictly as the text whose bytes they are. -/
theorem decodeStrict_eq_some_iff {bytes : List UInt8} {s : String} :
    decodeStrict bytes = some s ↔ bytes = utf8 s.toList := by
  rw [decodeStrict, fromUTF8?_eq_some_iff, toUTF8_eq_mk, ByteArray.mk.injEq, Array.mk.injEq]

/-- The bytes of a text are that text. -/
theorem decodeStrict_utf8 (s : List Char) : decodeStrict (utf8 s) = some (String.ofList s) := by
  rw [decodeStrict_eq_some_iff, String.toList_ofList]

/-! ## Bytes one by one -/

theorem toNat_ofNat_of_lt {n : Nat} (small : n < 256) : (UInt8.ofNat n).toNat = n :=
  UInt8.toNat_ofNat_of_lt' small

/-- ASCII characters of one byte are the same. -/
theorem eq_of_byte_eq {c d : Char} (ascii : c.toNat < 128) (also : d.toNat < 128)
    (same : UInt8.ofNat c.toNat = UInt8.ofNat d.toNat) : c = d := by
  have number := congrArg UInt8.toNat same
  rw [toNat_ofNat_of_lt (by omega), toNat_ofNat_of_lt (by omega)] at number
  exact Char.toNat_inj.1 number

/-- No byte of a character that is not ASCII is one of ASCII. -/
theorem le_of_mem_utf8EncodeChar {c : Char} (beyond : 128 ≤ c.toNat) {b : UInt8}
    (mem : b ∈ String.utf8EncodeChar c) : 128 ≤ b.toNat := by
  have number : c.val.toNat = c.toNat := rfl
  have valid : c.toNat < 0xd800 ∨ (0xdfff < c.toNat ∧ c.toNat < 0x110000) := c.valid
  rw [String.utf8EncodeChar, number] at mem
  generalize c.toNat = v at beyond valid mem
  rw [if_neg (by omega)] at mem
  split_ifs at mem
  all_goals
    simp only [List.mem_cons, List.not_mem_nil, or_false] at mem
    rcases mem with rfl | rfl | rfl | rfl
    all_goals
      rw [toNat_ofNat_of_lt (by omega)]
      omega

/-- A byte that can be next goes into the character that was begun. -/
theorem decodeFrom_more {missing lower upper bits : Nat} {b : UInt8} (rest : List UInt8)
    (more : missing ≠ 1) (least : lower ≤ b.toNat) (most : b.toNat ≤ upper) :
    decodeFrom (some ⟨missing, lower, upper, bits⟩) (b :: rest) =
      decodeFrom (some ⟨missing - 1, 0x80, 0xbf, bits * 64 + (b.toNat - 0x80)⟩) rest := by
  rw [decodeFrom, if_pos ⟨least, most⟩]
  exact if_neg more

/-- The last byte that is missing ends the character. -/
theorem decodeFrom_last {lower upper bits : Nat} {b : UInt8} (rest : List UInt8)
    (least : lower ≤ b.toNat) (most : b.toNat ≤ upper) :
    decodeFrom (some ⟨1, lower, upper, bits⟩) (b :: rest) =
      Char.ofNat (bits * 64 + (b.toNat - 0x80)) :: decodeFrom none rest := by
  rw [decodeFrom, if_pos ⟨least, most⟩]
  exact if_pos rfl

theorem decodeFrom_first (b : UInt8) (rest : List UInt8) :
    decodeFrom none (b :: rest) = (beginChar b.toNat).1 ++ decodeFrom (beginChar b.toNat).2 rest := rfl

/-- The first byte of two. -/
theorem beginChar_two {b : Nat} (least : 0xc2 ≤ b) (most : b ≤ 0xdf) :
    beginChar b = ([], some ⟨1, 0x80, 0xbf, b - 0xc0⟩) := by
  rw [beginChar, if_neg (by omega), if_pos ⟨least, most⟩]

/-- The first byte of three: the next one is bounded from below behind the least first byte, and
from above where the surrogates would begin. -/
theorem beginChar_three {b : Nat} (least : 0xe0 ≤ b) (most : b ≤ 0xef) :
    beginChar b = ([], some ⟨2, if b = 0xe0 then 0xa0 else 0x80, if b = 0xed then 0x9f else 0xbf,
      b - 0xe0⟩) := by
  rw [beginChar, if_neg (by omega), if_neg (by omega)]
  split
  · rename_i lowest
    subst lowest
    rfl
  · split
    · rename_i surrogates
      subst surrogates
      rfl
    · rw [if_pos (by omega)]

/-- The first byte of four: the next one is bounded at both ends of Unicode. -/
theorem beginChar_four {b : Nat} (least : 0xf0 ≤ b) (most : b ≤ 0xf4) :
    beginChar b = ([], some ⟨3, if b = 0xf0 then 0x90 else 0x80, if b = 0xf4 then 0x8f else 0xbf,
      b - 0xf0⟩) := by
  rw [beginChar, if_neg (by omega), if_neg (by omega), if_neg (by omega), if_neg (by omega),
    if_neg (by omega)]
  split
  · rename_i lowest
    subst lowest
    rfl
  · split
    · rename_i notLowest within
      rw [if_neg (by omega)]
    · rw [if_pos (by omega)]
      have last : b = 0xf4 := by omega
      subst last
      rfl

/-- One byte of a character of ASCII. -/
theorem decodeFrom_one {v : Nat} (most : v < 0x80) (rest : List UInt8) :
    decodeFrom none (UInt8.ofNat v :: rest) = Char.ofNat v :: decodeFrom none rest := by
  rw [decodeFrom_first, toNat_ofNat_of_lt (by omega), beginChar, if_pos most]
  rfl

/-- Two bytes, of which the first holds five bits. -/
theorem decodeFrom_two {v : Nat} (least : 0x80 ≤ v) (most : v < 0x800) (rest : List UInt8) :
    decodeFrom none (UInt8.ofNat (v / 64 % 0x20 + 0xc0) :: UInt8.ofNat (v % 0x40 + 0x80) :: rest) =
      Char.ofNat v :: decodeFrom none rest := by
  have first := toNat_ofNat_of_lt (show v / 64 % 0x20 + 0xc0 < 256 by omega)
  have second := toNat_ofNat_of_lt (show v % 0x40 + 0x80 < 256 by omega)
  have bits : (v / 64 % 0x20 + 0xc0 - 0xc0) * 64 + (v % 0x40 + 0x80 - 0x80) = v := by omega
  rw [decodeFrom_first, first, beginChar_two (by omega) (by omega), List.nil_append,
    decodeFrom_last _ (by omega) (by omega), second, bits]

/-- Three bytes, of which the first holds four bits; surrogates are none of them. -/
theorem decodeFrom_three {v : Nat} (least : 0x800 ≤ v) (most : v < 0x10000)
    (valid : v < 0xd800 ∨ 0xdfff < v) (rest : List UInt8) :
    decodeFrom none (UInt8.ofNat (v / 4096 % 0x10 + 0xe0) :: UInt8.ofNat (v / 64 % 0x40 + 0x80) ::
      UInt8.ofNat (v % 0x40 + 0x80) :: rest) = Char.ofNat v :: decodeFrom none rest := by
  have first := toNat_ofNat_of_lt (show v / 4096 % 0x10 + 0xe0 < 256 by omega)
  have second := toNat_ofNat_of_lt (show v / 64 % 0x40 + 0x80 < 256 by omega)
  have third := toNat_ofNat_of_lt (show v % 0x40 + 0x80 < 256 by omega)
  have bits : ((v / 4096 % 0x10 + 0xe0 - 0xe0) * 64 + (v / 64 % 0x40 + 0x80 - 0x80)) * 64 +
      (v % 0x40 + 0x80 - 0x80) = v := by omega
  rw [decodeFrom_first, first, beginChar_three (by omega) (by omega), List.nil_append,
    decodeFrom_more _ (by decide), second, decodeFrom_last _ (by omega) (by omega), third, bits]
  · rw [second]
    split <;> omega
  · rw [second]
    split <;> omega

/-- Four bytes, of which the first holds three bits. -/
theorem decodeFrom_four {v : Nat} (least : 0x10000 ≤ v) (most : v < 0x110000) (rest : List UInt8) :
    decodeFrom none (UInt8.ofNat (v / 262144 % 0x08 + 0xf0) ::
      UInt8.ofNat (v / 4096 % 0x40 + 0x80) :: UInt8.ofNat (v / 64 % 0x40 + 0x80) ::
      UInt8.ofNat (v % 0x40 + 0x80) :: rest) = Char.ofNat v :: decodeFrom none rest := by
  have first := toNat_ofNat_of_lt (show v / 262144 % 0x08 + 0xf0 < 256 by omega)
  have second := toNat_ofNat_of_lt (show v / 4096 % 0x40 + 0x80 < 256 by omega)
  have third := toNat_ofNat_of_lt (show v / 64 % 0x40 + 0x80 < 256 by omega)
  have fourth := toNat_ofNat_of_lt (show v % 0x40 + 0x80 < 256 by omega)
  have bits : (((v / 262144 % 0x08 + 0xf0 - 0xf0) * 64 + (v / 4096 % 0x40 + 0x80 - 0x80)) * 64 +
      (v / 64 % 0x40 + 0x80 - 0x80)) * 64 + (v % 0x40 + 0x80 - 0x80) = v := by omega
  rw [decodeFrom_first, first, beginChar_four (by omega) (by omega), List.nil_append,
    decodeFrom_more _ (by decide), second, decodeFrom_more _ (by decide) (by omega) (by omega),
    third, decodeFrom_last _ (by omega) (by omega), fourth, bits]
  · rw [second]
    split <;> omega
  · rw [second]
    split <;> omega

/-- **The bytes of a character** are read as that character. -/
theorem decodeFrom_utf8EncodeChar (c : Char) (rest : List UInt8) :
    decodeFrom none (String.utf8EncodeChar c ++ rest) = c :: decodeFrom none rest := by
  have valid : c.toNat < 0xd800 ∨ (0xdfff < c.toNat ∧ c.toNat < 0x110000) := c.valid
  have same : Char.ofNat c.toNat = c := Char.ofNat_toNat c
  have number : c.val.toNat = c.toNat := rfl
  rw [String.utf8EncodeChar, number]
  generalize c.toNat = v at valid same number
  subst same
  split_ifs with one two three
  · exact decodeFrom_one (by omega) rest
  · exact decodeFrom_two (by omega) (by omega) rest
  · exact decodeFrom_three (by omega) (by omega) (by omega) rest
  · exact decodeFrom_four (by omega) (by omega) rest

/-- Nothing of a text is replaced when its bytes are read leniently. -/
theorem decodeLossy_utf8 (s : List Char) : decodeLossy (utf8 s) = s := by
  unfold decodeLossy
  induction s with
  | nil => rfl
  | cons c rest ih => rw [utf8_cons, decodeFrom_utf8EncodeChar, ih]

theorem utf8_injective : Function.Injective utf8 := Function.LeftInverse.injective decodeLossy_utf8

/-! ## Endings -/

/-- A text whose bytes end in a byte of ASCII ends in that character. -/
theorem eq_append_of_utf8_eq_concat {s : List Char} {c : Char} (ascii : c.toNat < 128)
    {front : List UInt8} (bytes : utf8 s = front ++ utf8 [c]) :
    ∃ r, s = r ++ [c] ∧ utf8 r = front := by
  rw [utf8_cons, utf8_nil, List.append_nil, utf8EncodeChar_of_lt ascii] at bytes
  obtain rfl | ⟨r, last, rfl⟩ := List.eq_nil_or_concat' s
  · simp at bytes
  · rw [utf8_append, utf8_cons, utf8_nil, List.append_nil] at bytes
    have lastByte : UInt8.ofNat c.toNat ∈ String.utf8EncodeChar last := by
      have ends := congrArg List.getLast? bytes
      rw [List.getLast?_append_of_ne_nil _ String.utf8EncodeChar_ne_nil, List.getLast?_concat] at ends
      exact List.mem_of_getLast? ends
    have isAscii : last.toNat < 128 := by
      by_contra beyond
      have high := le_of_mem_utf8EncodeChar (Nat.le_of_not_lt beyond) lastByte
      rw [toNat_ofNat_of_lt (by omega)] at high
      omega
    rw [utf8EncodeChar_of_lt isAscii] at bytes
    obtain ⟨same, byte⟩ := List.append_singleton_inj.1 bytes
    obtain rfl := eq_of_byte_eq isAscii ascii byte
    exact ⟨r, rfl, same⟩

/-- **An ending in ASCII is seen from the bytes.** -/
theorem eq_append_of_utf8_eq_append {s t : List Char} (ascii : ∀ c ∈ t, c.toNat < 128)
    {front : List UInt8} (bytes : utf8 s = front ++ utf8 t) :
    ∃ r, s = r ++ t ∧ utf8 r = front := by
  induction t using List.reverseRecOn generalizing s with
  | nil => exact ⟨s, by simp, by simpa using bytes⟩
  | append_singleton t c ih =>
    rw [utf8_append, ← List.append_assoc] at bytes
    obtain ⟨s, rfl, front⟩ := eq_append_of_utf8_eq_concat (ascii c (by simp)) bytes
    obtain ⟨r, rfl, same⟩ := ih (fun d mem => ascii d (by simp [mem])) front
    exact ⟨r, List.append_assoc _ _ _, same⟩

end Text

namespace Net

open Text

/-! ## Percent signs and digits -/

/-- An ASCII character satisfies what every code point below 128 satisfies. -/
theorem ascii_forall {P : Char → Prop} (all : ∀ n < 128, P (Char.ofNat n)) {c : Char}
    (ascii : c.toNat < 128) : P c := by
  have here := all c.toNat ascii
  rwa [Char.ofNat_toNat] at here

theorem upperHexDigit_ascii : ∀ n < 16, (upperHexDigit n).toNat < 128 := by decide

theorem hexValue?_upperHexDigit : ∀ n < 16, hexValue? (upperHexDigit n) = some n := by decide

/-- The characters of percent-encoded bytes. -/
def percentAlphabet : List Char :=
  ['%', '0', '1', '2', '3', '4', '5', '6', '7', '8', '9', 'A', 'B', 'C', 'D', 'E', 'F']

theorem upperHexDigit_mem : ∀ n < 16, upperHexDigit n ∈ percentAlphabet := by decide

theorem mem_percentByte {d : Char} {b : UInt8} (h : d ∈ percentByte b) : d ∈ percentAlphabet := by
  have bound := b.toNat_lt
  simp only [percentByte, List.mem_cons, List.not_mem_nil, or_false] at h
  obtain rfl | rfl | rfl := h
  · decide
  · exact upperHexDigit_mem _ (by omega)
  · exact upperHexDigit_mem _ (by omega)

/-- The three bytes of a percent-encoded byte. -/
theorem utf8_percentByte (b : UInt8) :
    utf8 (percentByte b) = [37, UInt8.ofNat (upperHexDigit (b.toNat / 16)).toNat,
      UInt8.ofNat (upperHexDigit (b.toNat % 16)).toNat] := by
  have bound := b.toNat_lt
  rw [percentByte, utf8_cons, utf8_cons, utf8_cons, utf8_nil,
    utf8EncodeChar_of_lt (by decide),
    utf8EncodeChar_of_lt (upperHexDigit_ascii _ (by omega)),
    utf8EncodeChar_of_lt (upperHexDigit_ascii _ (by omega))]
  rfl

/-- The byte of an upper-case digit is read as that digit. -/
theorem hexValue?_byte {n : Nat} (small : n < 16) :
    hexValue? (Char.ofNat (UInt8.ofNat (upperHexDigit n).toNat).toNat) = some n := by
  have ascii := upperHexDigit_ascii n small
  rw [toNat_ofNat_of_lt (by omega), Char.ofNat_toNat, hexValue?_upperHexDigit n small]

/-- A byte that is no percent sign stays. -/
theorem percentDecode_cons_of_ne {b : UInt8} (plain : b ≠ 37) (rest : List UInt8) :
    percentDecode (b :: rest) = b :: percentDecode rest := by
  match rest with
  | [] => rfl
  | [_] => rfl
  | high :: low :: rest => rw [percentDecode, if_neg plain]

/-- A percent-encoded byte is that byte. -/
theorem percentDecode_percentByte (b : UInt8) (rest : List UInt8) :
    percentDecode (utf8 (percentByte b) ++ rest) = b :: percentDecode rest := by
  have bound := b.toNat_lt
  have byte : hexByte? (UInt8.ofNat (upperHexDigit (b.toNat / 16)).toNat)
      (UInt8.ofNat (upperHexDigit (b.toNat % 16)).toNat) = some b := by
    rw [hexByte?, hexValue?_byte (by omega), hexValue?_byte (by omega)]
    change some (UInt8.ofNat (b.toNat / 16 * 16 + b.toNat % 16)) = some b
    rw [Nat.div_add_mod', UInt8.ofNat_toNat]
  rw [utf8_percentByte, List.cons_append, List.cons_append, List.cons_append, List.nil_append,
    percentDecode, if_pos rfl, byte]

theorem percentDecode_percentBytes (bytes rest : List UInt8) :
    percentDecode (utf8 (bytes.flatMap percentByte) ++ rest) = bytes ++ percentDecode rest := by
  induction bytes with
  | nil => rfl
  | cons b bytes ih =>
    rw [List.flatMap_cons, utf8_append, List.append_assoc, percentDecode_percentByte, ih,
      List.cons_append]

/-! ## Encoded texts -/

theorem percentEncode_cons (encode : Char → Bool) (c : Char) (s : List Char) :
    percentEncode encode (c :: s) = percentChar encode c ++ percentEncode encode s :=
  List.flatMap_cons

theorem percentChar_of_plain {encode : Char → Bool} {c : Char} (ascii : c.toNat < 128)
    (plain : encode c = false) : percentChar encode c = [c] := by
  simp [percentChar, ascii, plain]

theorem mem_percentChar {encode : Char → Bool} {c d : Char} (h : d ∈ percentChar encode c) :
    (d = c ∧ c.toNat < 128 ∧ encode c = false) ∨ d ∈ percentAlphabet := by
  unfold percentChar at h
  split at h
  · rename_i plain
    simp only [Bool.and_eq_true, decide_eq_true_eq, Bool.not_eq_true'] at plain
    exact .inl ⟨List.mem_singleton.1 h, plain⟩
  · obtain ⟨b, -, mem⟩ := List.mem_flatMap.1 h
    exact .inr (mem_percentByte mem)

/-- **The characters of an encoded text** are its own that need no encoding, percent signs and
digits. -/
theorem mem_percentEncode {encode : Char → Bool} {s : List Char} {d : Char}
    (h : d ∈ percentEncode encode s) :
    (d ∈ s ∧ d.toNat < 128 ∧ encode d = false) ∨ d ∈ percentAlphabet := by
  obtain ⟨c, mem, inside⟩ := List.mem_flatMap.1 h
  obtain ⟨rfl, plain⟩ | escaped := mem_percentChar inside
  · exact .inl ⟨mem, plain⟩
  · exact .inr escaped

/-- A text of which nothing needs encoding stays. -/
theorem percentEncode_of_plain {encode : Char → Bool} {s : List Char}
    (plain : ∀ c ∈ s, c.toNat < 128 ∧ encode c = false) : percentEncode encode s = s := by
  induction s with
  | nil => rfl
  | cons c rest ih =>
    obtain ⟨⟨ascii, kept⟩, behind⟩ := List.forall_mem_cons.1 plain
    rw [percentEncode_cons, percentChar_of_plain ascii kept, ih behind, List.singleton_append]

theorem percentAlphabet_path : ∀ d ∈ percentAlphabet, d.toNat < 128 ∧ encodedInPath d = false := by
  simp [percentAlphabet, encodedInPath, encodedInFragment, isControl]

/-- What was encoded for a path is not encoded again. -/
theorem percentEncode_path_twice (s : List Char) :
    percentEncode encodedInPath (percentEncode encodedInPath s) = percentEncode encodedInPath s := by
  apply percentEncode_of_plain
  intro d mem
  obtain ⟨-, plain⟩ | escaped := mem_percentEncode mem
  · exact plain
  · exact percentAlphabet_path d escaped

/-- **Encoded bytes come back**, if percent signs were encoded. -/
theorem percentDecode_percentEncode {encode : Char → Bool} {s : List Char}
    (marks : '%' ∈ s → encode '%' = true) :
    percentDecode (utf8 (percentEncode encode s)) = utf8 s := by
  induction s with
  | nil => rfl
  | cons c rest ih =>
    have behind := ih (fun mem => marks (List.mem_cons_of_mem _ mem))
    rw [percentEncode_cons, utf8_append, utf8_cons, percentChar]
    split
    · rename_i plain
      simp only [Bool.and_eq_true, decide_eq_true_eq, Bool.not_eq_true'] at plain
      have noMark : UInt8.ofNat c.toNat ≠ 37 := by
        intro mark
        obtain rfl : c = '%' := eq_of_byte_eq plain.1 (by decide) mark
        exact Bool.noConfusion ((marks List.mem_cons_self).symm.trans plain.2)
      rw [utf8_cons, utf8_nil, utf8EncodeChar_of_lt plain.1, List.append_nil, List.singleton_append,
        percentDecode_cons_of_ne noMark, behind, List.singleton_append]
    · rw [percentDecode_percentBytes, behind]

/-! ## Forms -/

/-- What is encoded in a form before its spaces become plus signs. -/
def encodedBeforeForm (c : Char) : Bool := c ≠ ' ' && encodedInForm c

/-- A value in a form holds no character that ends it. -/
theorem mem_formEncode {s : String} {d : Char} (h : d ∈ (formEncode s).toList) :
    d = '+' ∨ (d.toNat < 128 ∧ encodedInForm d = false) ∨ d ∈ percentAlphabet := by
  rw [formEncode, String.toList_ofList] at h
  obtain ⟨c, -, inside⟩ := List.mem_flatMap.1 h
  split at inside
  · exact .inl (List.mem_singleton.1 inside)
  · obtain ⟨rfl, plain⟩ | escaped := mem_percentChar inside
    · exact .inr (.inl plain)
    · exact .inr (.inr escaped)

/-- With its plus signs back as spaces, a value is percent-encoded, spaces apart. -/
theorem formEncode_spaces (s : String) :
    (formEncode s).toList.map (fun c => if c = '+' then ' ' else c) =
      percentEncode encodedBeforeForm s.toList := by
  rw [formEncode, String.toList_ofList, List.map_flatMap, percentEncode]
  congr 1
  funext c
  split
  · rename_i space
    subst space
    decide
  · rename_i noSpace
    have same : percentChar encodedBeforeForm c = percentChar encodedInForm c := by
      simp [percentChar, encodedBeforeForm, noSpace]
    rw [same]
    have noPlus : ∀ d ∈ percentChar encodedInForm c, (if d = '+' then ' ' else d) = d := by
      intro d mem
      apply if_neg
      rintro rfl
      obtain ⟨rfl, -, plain⟩ | escaped := mem_percentChar mem
      · exact absurd plain (by decide)
      · exact absurd escaped (by decide)
    rw [List.map_congr_left noPlus, List.map_id']

/-- **A value is read from a form as it was written.** -/
theorem formDecode_formEncode (s : String) : formDecode (formEncode s).toList = s := by
  rw [formDecode, formEncode_spaces, percentDecode_percentEncode (fun _ => by decide),
    decodeLossy_utf8, String.ofList_toList]

/-! ## Cutting -/

/-- The front of a text goes up to the first character that does not belong to it; bytes are cut
so too. -/
theorem span_append {α : Type} {p : α → Bool} {s rest : List α} (within : ∀ c ∈ s, p c = true)
    (stops : ∀ c ∈ rest.head?, p c = false) : (s ++ rest).span p = (s, rest) := by
  rw [List.span_eq_takeWhile_dropWhile, List.takeWhile_append_of_pos within,
    List.dropWhile_append_of_pos within]
  cases rest with
  | nil => rw [List.takeWhile_nil, List.dropWhile_nil, List.append_nil]
  | cons c rest =>
    have ends : ¬ p c = true := by simp [stops c rfl]
    rw [List.takeWhile_cons_of_neg ends, List.dropWhile_cons_of_neg ends, List.append_nil]

theorem isOther_of_notMem {α : Type} [DecidableEq α] {sep : α} {s : List α} (absent : sep ∉ s) :
    ∀ c ∈ s, decide (c ≠ sep) = true :=
  fun _ mem => decide_eq_true (fun same => absent (same ▸ mem))

/-- A text without the separator is all before it. -/
theorem splitOnce_of_notMem {sep : Char} {s : List Char} (absent : sep ∉ s) :
    splitOnce sep s = (s, none) := by
  have cut : (s ++ []).span (· ≠ sep) = (s, []) := span_append (isOther_of_notMem absent) nofun
  rw [List.append_nil] at cut
  rw [splitOnce, cut]

/-- A text is cut at its first separator. -/
theorem splitOnce_append {sep : Char} {s : List Char} (absent : sep ∉ s) (t : List Char) :
    splitOnce sep (s ++ sep :: t) = (s, some t) := by
  rw [splitOnce, span_append (isOther_of_notMem absent) (by simp)]

/-- A value in a form does not end it, and does not begin one. -/
theorem formEncode_whole (s : String) {sep : Char} (ends : sep = '&' ∨ sep = '=' ∨ sep = '#' ∨ sep = '?') :
    sep ∉ (formEncode s).toList := by
  intro mem
  obtain rfl | ⟨-, plain⟩ | escaped := mem_formEncode mem
  · revert ends; decide
  · obtain rfl | rfl | rfl | rfl := ends <;> exact absurd plain (by decide)
  · obtain rfl | rfl | rfl | rfl := ends <;> exact absurd escaped (by decide)

/-- **The form of one name and value** is read as that name and value. -/
theorem readForm_formPair (name value : String) :
    readForm (formPair name value).toList = [(name, value)] := by
  have text : (formPair name value).toList =
      (formEncode name).toList ++ '=' :: (formEncode value).toList := by
    simp [formPair]
  have whole : ∀ c ∈ (formPair name value).toList, (c == '&') = false := by
    intro c mem
    apply beq_false_of_ne
    rintro rfl
    rw [text, List.mem_append, List.mem_cons] at mem
    obtain mem | same | mem := mem
    · exact formEncode_whole name (.inl rfl) mem
    · exact absurd same (by decide)
    · exact formEncode_whole value (.inl rfl) mem
  rw [readForm, List.splitOn, List.splitOnP_eq_singleton whole]
  have filled : (!(formPair name value).toList.isEmpty) = true := by simp [text]
  rw [List.filter_singleton, filled, cond_true, List.map_singleton, text,
    splitOnce_append (formEncode_whole name (.inr (.inl rfl)))]
  simp only [Option.getD_some, formDecode_formEncode]

end Net

end Concordance
