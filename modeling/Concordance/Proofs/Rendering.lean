/-
# Concordance.Proofs.Rendering -- what is rendered reads back

`Json.render` writes a value as a text and `readWhole` reads texts.  The text of a value
is read as the value again (`readWhole_render`), provided that its numbers fit into 64
bits: a longer number would come back as a double.

Quotes are undone character by character (`readPieces_escapeChar`), numbers digit by
digit (`readNumber_toDigits`).  Arrays and objects are read with fuel, and any fuel
beyond the length of the text is enough, because every part of a text is shorter than
the text.  What follows a value must not go on where a number stopped (`Stops`); commas
and closing brackets do not.
-/
import Concordance.Json.Reading
import Concordance.Proofs.Encodings

namespace Concordance.Json

open Text

set_option autoImplicit false

/-! ## Texts in quotes -/

theorem hexValue?_hexDigit : ∀ n < 16, hexValue? (hexDigit n) = some n := by decide

/-- A simple escape is the character it stands for. -/
theorem readPieces_simple {e c : Char} (simple : simpleEscape? e = some c) (noUnit : e ≠ 'u')
    (rest : List Char) :
    readPieces ('\\' :: e :: rest) =
      (readPieces rest).map (fun found => (.char c :: found.1, found.2)) := by
  rw [readPieces, simple]
  · cases readPieces rest <;> rfl
  · exact fun _ _ _ _ _ unit => absurd unit noUnit

/-- The escape of a control character is that character. -/
theorem readPieces_control {c : Char} (control : c.toNat < 32) (rest : List Char) :
    readPieces ('\\' :: 'u' :: '0' :: '0' :: hexDigit (c.toNat / 16) :: hexDigit (c.toNat % 16) ::
      rest) = (readPieces rest).map (fun found => (.char c :: found.1, found.2)) := by
  have unit : hexWord? '0' '0' (hexDigit (c.toNat / 16)) (hexDigit (c.toNat % 16)) =
      some c.toNat := by
    have zero : hexValue? '0' = some 0 := by decide
    have digits : c.toNat / 16 * 16 + c.toNat % 16 = c.toNat := Nat.div_add_mod' _ _
    simp [hexWord?, zero, hexValue?_hexDigit _ (show c.toNat / 16 < 16 by omega),
      hexValue?_hexDigit _ (show c.toNat % 16 < 16 by omega), digits]
  have piece : Piece.ofUnit c.toNat = .char c := by
    rw [Piece.ofUnit, if_neg (by omega), Char.ofNat_toNat]
  rw [readPieces, unit]
  cases readPieces rest with
  | none => rfl
  | some found => simp only [piece, Option.map_some]

/-- A character is written as a simple escape, as the escape of a control character, or as it is. -/
theorem escapeChar_cases (c : Char) :
    (∃ e, simpleEscape? e = some c ∧ e ≠ 'u' ∧ (escapeChar c).toList = ['\\', e]) ∨
    (c.toNat < 32 ∧ (escapeChar c).toList =
      ['\\', 'u', '0', '0', hexDigit (c.toNat / 16), hexDigit (c.toNat % 16)]) ∨
    (32 ≤ c.toNat ∧ c ≠ '\"' ∧ c ≠ '\\' ∧ (escapeChar c).toList = [c]) := by
  have named : ∀ n, c.toNat = n → c = Char.ofNat n := fun n same => by
    rw [← same, Char.ofNat_toNat]
  unfold escapeChar
  split_ifs with quote backslash line feed tab backspace formFeed control
  · exact .inl ⟨'\"', by rw [quote]; decide, by decide, rfl⟩
  · exact .inl ⟨'\\', by rw [backslash]; decide, by decide, rfl⟩
  · exact .inl ⟨'n', by rw [line]; decide, by decide, rfl⟩
  · exact .inl ⟨'r', by rw [feed]; decide, by decide, rfl⟩
  · exact .inl ⟨'t', by rw [tab]; decide, by decide, rfl⟩
  · exact .inl ⟨'b', by rw [named 8 backspace]; decide, by decide, rfl⟩
  · exact .inl ⟨'f', by rw [named 12 formFeed]; decide, by decide, rfl⟩
  · exact .inr (.inl ⟨control, by simp⟩)
  · exact .inr (.inr ⟨by omega, quote, backslash, String.toList_singleton c⟩)

/-- **A character in quotes** is read as that character. -/
theorem readPieces_escapeChar (c : Char) (rest : List Char) :
    readPieces ((escapeChar c).toList ++ rest) =
      (readPieces rest).map (fun found => (.char c :: found.1, found.2)) := by
  obtain ⟨e, simple, noUnit, text⟩ | ⟨control, text⟩ | ⟨visible, noQuote, noBackslash, text⟩ :=
    escapeChar_cases c
  · rw [text]
    exact readPieces_simple simple noUnit rest
  · rw [text]
    exact readPieces_control control rest
  · rw [text, List.singleton_append, readPieces, if_neg (by omega)]
    · exact noQuote
    · exact fun _ _ _ _ _ backslash => absurd backslash noBackslash
    · exact fun _ _ backslash => absurd backslash noBackslash

theorem readPieces_escaped (s rest : List Char) :
    readPieces (s.flatMap (fun c => (escapeChar c).toList) ++ '\"' :: rest) =
      some (s.map .char, rest) := by
  induction s with
  | nil => rfl
  | cons c s ih =>
    rw [List.flatMap_cons, List.append_assoc, readPieces_escapeChar, ih]
    rfl

theorem joinPieces_chars (s : List Char) : joinPieces (s.map .char) = some s := by
  induction s with
  | nil => rfl
  | cons c s ih => rw [List.map_cons, joinPieces, ih, Option.map_some]

/-- What stands behind the opening quote of a text. -/
def quotedTail (s : String) : List Char :=
  s.toList.flatMap (fun c => (escapeChar c).toList) ++ ['\"']

theorem quote_toList (s : String) : (quote s).toList = '\"' :: quotedTail s := by
  simp [quote, quotedTail, List.flatMap_map]

/-- **A text in quotes** is read as that text. -/
theorem readText_quotedTail (s : String) (rest : List Char) :
    readText (quotedTail s ++ rest) = some (some s, rest) := by
  rw [readText, quotedTail, List.append_assoc, List.singleton_append, readPieces_escaped]
  simp only [Option.map_some, joinPieces_chars, String.ofList_toList]

/-! ## Numbers -/

/-- Whether nothing goes on at the beginning of a text that a number could go on with. -/
def Stops (rest : List Char) : Prop :=
  ∀ c ∈ rest.head?, c.isDigit = false ∧ c ≠ '.' ∧ c ≠ 'e' ∧ c ≠ 'E'

theorem stops_nil : Stops [] := nofun

/-- Digits never make a number smaller. -/
theorem le_ofDigitChars (digits : List Char) (n : Nat) : n ≤ Nat.ofDigitChars 10 digits n := by
  induction digits generalizing n with
  | nil => exact Nat.le_refl n
  | cons c rest ih =>
    rw [Nat.ofDigitChars_cons]
    exact Nat.le_trans (by omega) (ih _)

/-- Digits of a number that fits are all taken. -/
theorem takeWhole_eq (digits : List Char) {n : Nat} (power : Int)
    (fits : Nat.ofDigitChars 10 digits n < UInt64.size) :
    Significand.takeWhole ⟨n, power⟩ digits = ⟨Nat.ofDigitChars 10 digits n, power⟩ := by
  induction digits generalizing n with
  | nil => rfl
  | cons c rest ih =>
    have next : n * 10 + decimalValue c = 10 * n + (c.toNat - '0'.toNat) := by
      rw [decimalValue, Nat.mul_comm]
      rfl
    rw [Nat.ofDigitChars_cons] at fits
    have fitsHere : Significand.fits ⟨n, power⟩ c = true := by
      rw [Significand.fits, decide_eq_true_iff, next]
      exact Nat.lt_of_le_of_lt (le_ofDigitChars rest _) fits
    rw [Significand.takeWhole_fits fitsHere, next, ih fits, Nat.ofDigitChars_cons]

/-- No number but zero begins with a zero. -/
theorem head?_toDigits {n : Nat} (some : 0 < n) : (Nat.toDigits 10 n).head? ≠ Option.some '0' := by
  induction n using Nat.strongRecOn with
  | ind n ih =>
    by_cases short : n < 10
    · rw [Nat.toDigits_of_lt_base short]
      have digits : ∀ d < 10, 0 < d → Nat.digitChar d ≠ '0' := by decide
      exact fun zero => digits n short some (Option.some.inj zero)
    · have front : 0 < n / 10 := by omega
      have cut : Nat.toDigits 10 n = Nat.toDigits 10 (n / 10) ++ Nat.toDigits 10 (n % 10) := by
        rw [Nat.toDigits_append_toDigits (by decide) front (by omega), Nat.div_add_mod]
      rw [cut, List.head?_append_of_ne_nil _ Nat.toDigits_ne_nil]
      exact ih (n / 10) (by omega) front

/-- The digits of a number, and where they stop. -/
theorem span_toDigits (n : Nat) {rest : List Char} (stops : Stops rest) :
    (Nat.toDigits 10 n ++ rest).span Char.isDigit = (Nat.toDigits 10 n, rest) := by
  have digits : ∀ c ∈ Nat.toDigits 10 n, c.isDigit = true := fun c mem =>
    Nat.isDigit_of_mem_toDigits (by decide) (by decide) mem
  exact Net.span_append digits (fun c first => (stops c first).1)

/-- **A number** is read as that number, if it fits into 64 bits. -/
theorem readNumber_toDigits {n : Nat} (fits : n < UInt64.size) {rest : List Char}
    (stops : Stops rest) :
    readNumber false (Nat.toDigits 10 n ++ rest) = some (.integer false n, rest) := by
  have value : Nat.ofDigitChars 10 (Nat.toDigits 10 n) 0 = n :=
    Nat.ofDigitChars_toDigits (by decide) (by decide)
  have whole : Number.ofWhole false (Nat.toDigits 10 n) = .integer false n := by
    rw [Number.ofWhole, takeWhole_eq _ _ (by rwa [value]), value]
    rfl
  have noZero : ¬ ((Nat.toDigits 10 n).head? = some '0' ∧ (Nat.toDigits 10 n).length ≠ 1) := by
    rintro ⟨zero, long⟩
    obtain rfl | positive := Nat.eq_zero_or_pos n
    · exact long rfl
    · exact head?_toDigits positive zero
  rw [readNumber, span_toDigits n stops]
  obtain ⟨d, digits, cut⟩ := List.exists_cons_of_ne_nil (Nat.toDigits_ne_nil (n := n) (b := 10))
  rw [cut] at whole noZero ⊢
  simp only [noZero, if_false]
  cases rest with
  | nil => simp [whole]
  | cons c rest =>
    obtain ⟨-, noPoint, noPower, noUpperPower⟩ := stops c rfl
    simp [noPoint, noPower, noUpperPower, whole]

/-! ## Values and what stands between them -/

mutual

/-- The numbers of a value fit into 64 bits. -/
def Fits : Json → Prop
  | .nat n => n < UInt64.size
  | .array items => AllFit items
  | .object members => MembersFit members
  | _ => True

/-- The numbers of all values fit into 64 bits. -/
def AllFit : List Json → Prop
  | [] => True
  | item :: rest => Fits item ∧ AllFit rest

/-- The numbers of the values of all members fit into 64 bits. -/
def MembersFit : List (String × Json) → Prop
  | [] => True
  | (_, value) :: rest => Fits value ∧ MembersFit rest

end

/-- The numbers of all items of a list fit if those of each do. -/
theorem allFit_map {α : Type} {encode : α → Json} {items : List α}
    (fit : ∀ a ∈ items, Fits (encode a)) : AllFit (items.map encode) := by
  induction items with
  | nil => trivial
  | cons a rest ih =>
    obtain ⟨here, later⟩ := List.forall_mem_cons.1 fit
    exact ⟨here, ih later⟩

theorem renderItems_eq_map (items : List Json) : renderItems items = items.map render := by
  induction items with
  | nil => rfl
  | cons item rest ih => rw [renderItems, ih, List.map_cons]

/-- The text of a member. -/
def memberText (m : String × Json) : List Char := (quote m.1).toList ++ ':' :: m.2.render.toList

theorem renderMembers_toList (members : List (String × Json)) :
    (renderMembers members).map String.toList = members.map memberText := by
  induction members with
  | nil => rfl
  | cons m rest ih => simp [renderMembers, memberText, ih]

/-- Each text with a comma before it. -/
def afterCommas (texts : List (List Char)) : List Char := texts.flatMap (',' :: ·)

theorem afterCommas_cons (text : List Char) (rest : List (List Char)) :
    afterCommas (text :: rest) = ',' :: (text ++ afterCommas rest) := rfl

theorem intercalate_comma (first : List Char) (rest : List (List Char)) :
    List.intercalate [','] (first :: rest) = first ++ afterCommas rest := by
  induction rest generalizing first with
  | nil => simp [afterCommas]
  | cons next rest ih =>
    rw [List.intercalate_cons_cons, ih, afterCommas_cons, List.append_assoc, List.singleton_append]

/-- What stands between the brackets of several texts with commas between them. -/
def joined (texts : List (List Char)) : List Char := List.intercalate [','] texts

theorem render_array_toList (items : List Json) :
    (render (.array items)).toList =
      '[' :: (joined (items.map (fun item => item.render.toList)) ++ [']']) := by
  simp [render, renderItems_eq_map, String.toList_intercalate, joined, Function.comp_def]

theorem render_object_toList (members : List (String × Json)) :
    (render (.object members)).toList = '\x7b' :: (joined (members.map memberText) ++ ['\x7d']) := by
  simp [render, String.toList_intercalate, renderMembers_toList, joined]

theorem render_nat_toList (n : Nat) : (render (.nat n)).toList = Nat.toDigits 10 n :=
  Nat.toList_repr

/-- A text that begins with neither a blank, a comma nor a closing bracket. -/
def Opens (s : List Char) : Prop :=
  ∃ c more, s = c :: more ∧ isGap c = false ∧ c ≠ ',' ∧ c ≠ ']' ∧ c ≠ '\x7d'

/-- A digit is no other character. -/
theorem ne_of_isDigit {d : Char} (digit : d.isDigit = true) (c : Char) (other : c.isDigit = false) :
    d ≠ c := by
  rintro rfl
  exact absurd digit (by simp [other])

theorem exists_toDigits (n : Nat) :
    ∃ d digits, Nat.toDigits 10 n = d :: digits ∧ d.isDigit = true := by
  obtain ⟨d, digits, cut⟩ := List.exists_cons_of_ne_nil (Nat.toDigits_ne_nil (n := n) (b := 10))
  refine ⟨d, digits, cut, Nat.isDigit_of_mem_toDigits (b := 10) (n := n) (by decide) (by decide) ?_⟩
  rw [cut]
  exact List.mem_cons_self

theorem opens_render (j : Json) : Opens j.render.toList := by
  cases j with
  | null => exact ⟨'n', _, rfl, by decide⟩
  | bool b => cases b <;> exact ⟨_, _, rfl, by decide⟩
  | nat n =>
    obtain ⟨d, digits, cut, digit⟩ := exists_toDigits n
    have other := ne_of_isDigit digit
    refine ⟨d, digits, (render_nat_toList n).trans cut, ?_, other _ (by decide), other _ (by decide),
      other _ (by decide)⟩
    simp [isGap, other ' ' (by decide), other '\n' (by decide), other '\t' (by decide),
      other '\r' (by decide)]
  | string s => exact ⟨'\"', _, quote_toList s, by decide⟩
  | array items => exact ⟨'[', _, render_array_toList items, by decide⟩
  | object members => exact ⟨'\x7b', _, render_object_toList members, by decide⟩

/-- A value is read from its text, given fuel beyond its length, up to where nothing goes on. -/
def Reads (j : Json) : Prop :=
  ∀ (fuel : Nat) (rest : List Char), j.render.toList.length < fuel → Stops rest →
    readValue fuel (j.render.toList ++ rest) = (j.reading, some rest)

theorem skipGap_cons {c : Char} (noGap : isGap c = false) (s : List Char) :
    skipGap (c :: s) = c :: s := List.dropWhile_cons_of_neg (by simp [noGap])

theorem skipGap_of_opens {s : List Char} (opens : Opens s) (rest : List Char) :
    skipGap (s ++ rest) = s ++ rest := by
  obtain ⟨c, more, rfl, noGap, -⟩ := opens
  exact skipGap_cons noGap (more ++ rest)

/-- Commas and closing brackets end a number. -/
theorem stops_afterCommas (texts : List (List Char)) {close : Char}
    (closes : close = ']' ∨ close = '\x7d') (rest : List Char) :
    Stops (afterCommas texts ++ close :: rest) := by
  intro c first
  cases texts with
  | nil =>
    obtain rfl : close = c := Option.some.inj first
    obtain rfl | rfl := closes <;> decide
  | cons text texts =>
    obtain rfl : ',' = c := Option.some.inj first
    decide

/-! ## Scalars -/

theorem reads_null : Reads .null := by
  rintro (- | fuel) rest enough -
  · exact absurd enough (Nat.not_lt_zero _)
  · rfl

theorem reads_bool (b : Bool) : Reads (.bool b) := by
  rintro (- | fuel) rest enough -
  · exact absurd enough (Nat.not_lt_zero _)
  · cases b <;> rfl

theorem reads_string (s : String) : Reads (.string s) := by
  rintro (- | fuel) rest enough -
  · exact absurd enough (Nat.not_lt_zero _)
  · have text : (render (.string s)).toList ++ rest = '\"' :: (quotedTail s ++ rest) := by
      rw [render, quote_toList, List.cons_append]
    rw [text, readValue, skipGap_cons (by decide)]
    simp only [readText_quotedTail, reading]

theorem reads_nat {n : Nat} (fits : n < UInt64.size) : Reads (.nat n) := by
  rintro (- | fuel) rest enough stops
  · exact absurd enough (Nat.not_lt_zero _)
  · obtain ⟨d, digits, cut, digit⟩ := exists_toDigits n
    have other := ne_of_isDigit digit
    have number := readNumber_toDigits fits stops
    rw [readValue, skipGap_of_opens (opens_render (.nat n)), render_nat_toList]
    rw [cut, List.cons_append] at number ⊢
    simp [number, reading, other 'n' (by decide), other 't' (by decide), other 'f' (by decide),
      other '\"' (by decide), other '-' (by decide), other '[' (by decide),
      other '\x7b' (by decide)]

/-! ## Arrays -/

/-- The first item of an array is read, and then those behind it. -/
theorem readItems_first {fuel : Nat} {s rest : List Char} {r : Reading} (opens : Opens s)
    (value : readValue fuel (s ++ rest) = (r, some rest)) :
    readItems (fuel + 1) true (s ++ rest) =
      (r :: (readItems fuel false rest).1, (readItems fuel false rest).2) := by
  rw [readItems, skipGap_of_opens opens]
  obtain ⟨c, more, rfl, -, noComma, noBracket, -⟩ := opens
  rw [List.cons_append] at value ⊢
  simp [noComma, noBracket, value]

/-- So is an item behind a comma. -/
theorem readItems_next {fuel : Nat} {s rest : List Char} {r : Reading} (opens : Opens s)
    (value : readValue fuel (s ++ rest) = (r, some rest)) :
    readItems (fuel + 1) false (',' :: (s ++ rest)) =
      (r :: (readItems fuel false rest).1, (readItems fuel false rest).2) := by
  rw [readItems, skipGap_cons (by decide)]
  simp only [skipGap_of_opens opens]
  obtain ⟨c, more, rfl, -, noComma, noBracket, -⟩ := opens
  rw [List.cons_append] at value ⊢
  simp [noBracket, value]

theorem readItems_afterCommas {items : List Json} (all : ∀ item ∈ items, Reads item) {fuel : Nat}
    (enough : (afterCommas (items.map (fun item => item.render.toList))).length < fuel)
    (rest : List Char) :
    readItems fuel false (afterCommas (items.map (fun item => item.render.toList)) ++ ']' :: rest) =
      (readings items, some rest) := by
  induction items generalizing fuel with
  | nil =>
    obtain _ | fuel := fuel
    · exact absurd enough (Nat.not_lt_zero _)
    · rfl
  | cons item items ih =>
    obtain ⟨value, later⟩ := List.forall_mem_cons.1 all
    obtain _ | fuel := fuel
    · exact absurd enough (Nat.not_lt_zero _)
    · rw [List.map_cons, afterCommas_cons, List.length_cons, List.length_append] at enough
      rw [List.map_cons, afterCommas_cons, List.cons_append, List.append_assoc,
        readItems_next (opens_render item)
          (value fuel _ (by omega) (stops_afterCommas _ (.inl rfl) rest)),
        ih later (by omega), readings]

theorem reads_array {items : List Json} (all : ∀ item ∈ items, Reads item) : Reads (.array items) := by
  rintro fuel rest enough -
  rw [render_array_toList, List.length_cons, List.length_append, List.length_singleton] at enough
  obtain _ | _ | fuel := fuel
  · exact absurd enough (Nat.not_lt_zero _)
  · omega
  have items_eq : readItems (fuel + 1) true
      (joined (items.map (fun item => item.render.toList)) ++ ']' :: rest) =
      (readings items, some rest) := by
    cases items with
    | nil => rfl
    | cons item items =>
      obtain ⟨value, later⟩ := List.forall_mem_cons.1 all
      rw [List.map_cons, joined, intercalate_comma, List.length_append] at enough
      rw [List.map_cons, joined, intercalate_comma, List.append_assoc,
        readItems_first (opens_render item)
          (value fuel _ (by omega) (stops_afterCommas _ (.inl rfl) rest)),
        readItems_afterCommas later (by omega), readings]
  rw [render_array_toList, List.cons_append, List.append_assoc, List.singleton_append, readValue,
    skipGap_cons (by decide)]
  simp only [items_eq, reading, Option.isSome_some]

/-! ## Objects -/

theorem memberText_append (m : String × Json) (rest : List Char) :
    memberText m ++ rest = '\"' :: (quotedTail m.1 ++ ':' :: (m.2.render.toList ++ rest)) := by
  simp [memberText, quote_toList]

/-- The first member of an object is read, and then those behind it. -/
theorem readMembers_first {fuel : Nat} {m : String × Json} {rest : List Char} {r : Reading}
    (value : readValue fuel (m.2.render.toList ++ rest) = (r, some rest)) :
    readMembers (fuel + 1) true (memberText m ++ rest) =
      ((some m.1, r) :: (readMembers fuel false rest).1, (readMembers fuel false rest).2) := by
  have colon : ∀ s, skipGap (':' :: s) = ':' :: s := skipGap_cons (by decide)
  rw [memberText_append, readMembers, skipGap_cons (by decide)]
  simp [readText_quotedTail, colon, value]

/-- So is a member behind a comma. -/
theorem readMembers_next {fuel : Nat} {m : String × Json} {rest : List Char} {r : Reading}
    (value : readValue fuel (m.2.render.toList ++ rest) = (r, some rest)) :
    readMembers (fuel + 1) false (',' :: (memberText m ++ rest)) =
      ((some m.1, r) :: (readMembers fuel false rest).1, (readMembers fuel false rest).2) := by
  have colon : ∀ s, skipGap (':' :: s) = ':' :: s := skipGap_cons (by decide)
  rw [memberText_append, readMembers, skipGap_cons (by decide)]
  simp only [Bool.false_eq_true, if_false]
  rw [skipGap_cons (by decide)]
  simp [readText_quotedTail, colon, value]

theorem readMembers_afterCommas {members : List (String × Json)} (all : ∀ m ∈ members, Reads m.2)
    {fuel : Nat} (enough : (afterCommas (members.map memberText)).length < fuel) (rest : List Char) :
    readMembers fuel false (afterCommas (members.map memberText) ++ '\x7d' :: rest) =
      (memberReadings members, some rest) := by
  induction members generalizing fuel with
  | nil =>
    obtain _ | fuel := fuel
    · exact absurd enough (Nat.not_lt_zero _)
    · rfl
  | cons m members ih =>
    obtain ⟨value, later⟩ := List.forall_mem_cons.1 all
    obtain _ | fuel := fuel
    · exact absurd enough (Nat.not_lt_zero _)
    · rw [List.map_cons, afterCommas_cons, List.length_cons, List.length_append, memberText,
        List.length_append, List.length_cons] at enough
      rw [List.map_cons, afterCommas_cons, List.cons_append, List.append_assoc,
        readMembers_next (value fuel _ (by omega) (stops_afterCommas _ (.inr rfl) rest)),
        ih later (by omega), memberReadings]

theorem reads_object {members : List (String × Json)} (all : ∀ m ∈ members, Reads m.2) :
    Reads (.object members) := by
  rintro fuel rest enough -
  rw [render_object_toList, List.length_cons, List.length_append, List.length_singleton] at enough
  obtain _ | _ | fuel := fuel
  · exact absurd enough (Nat.not_lt_zero _)
  · omega
  have members_eq : readMembers (fuel + 1) true (joined (members.map memberText) ++ '\x7d' :: rest) =
      (memberReadings members, some rest) := by
    cases members with
    | nil => rfl
    | cons m members =>
      obtain ⟨value, later⟩ := List.forall_mem_cons.1 all
      rw [List.map_cons, joined, intercalate_comma, List.length_append, memberText,
        List.length_append, List.length_cons] at enough
      rw [List.map_cons, joined, intercalate_comma, List.append_assoc,
        readMembers_first (value fuel _ (by omega) (stops_afterCommas _ (.inr rfl) rest)),
        readMembers_afterCommas later (by omega), memberReadings]
  rw [render_object_toList, List.cons_append, List.append_assoc, List.singleton_append, readValue,
    skipGap_cons (by decide)]
  simp only [members_eq, reading, Option.isSome_some]

/-! ## Whole texts -/

mutual

/-- A value whose numbers fit is read from its text. -/
theorem reads_of_fits : ∀ j : Json, j.Fits → Reads j
  | .null, _ => reads_null
  | .bool b, _ => reads_bool b
  | .nat _, fits => reads_nat fits
  | .string s, _ => reads_string s
  | .array items, fits => reads_array (allRead_of_fit items fits)
  | .object members, fits => reads_object (membersRead_of_fit members fits)

theorem allRead_of_fit : ∀ items : List Json, AllFit items → ∀ item ∈ items, Reads item
  | [], _ => nofun
  | item :: rest, fit =>
      List.forall_mem_cons.2 ⟨reads_of_fits item fit.1, allRead_of_fit rest fit.2⟩

theorem membersRead_of_fit :
    ∀ members : List (String × Json), MembersFit members → ∀ m ∈ members, Reads m.2
  | [], _ => nofun
  | (_, value) :: rest, fit =>
      List.forall_mem_cons.2 ⟨reads_of_fits value fit.1, membersRead_of_fit rest fit.2⟩

end

/-- **What is rendered reads back**, if its numbers fit into 64 bits. -/
theorem readWhole_render {j : Json} (fits : j.Fits) : readWhole j.render = j.reading := by
  have length : j.render.toList.length < 2 * j.render.length + 2 := by
    rw [String.length_toList]
    omega
  have read := reads_of_fits j fits _ [] length stops_nil
  rw [List.append_nil] at read
  rw [readWhole, readText?, read]
  rfl

end Concordance.Json
