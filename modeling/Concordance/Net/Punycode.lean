/-
# Concordance.Net.Punycode -- any characters as ASCII letters, digits and dashes

A label of a domain name that is not ASCII is written in two parts with a dash
between them: its ASCII characters as they are, and then one number for each of
the others, in the order of their code points.  A number says how far to go from
the character before, counting every place in the label for every code point.
Numbers have variable length and base 36; the thresholds that end them follow a
bias that adapts to the numbers written so far.

Both loops end because the numbers, or the digits left to read, get fewer.
-/

namespace Concordance.Net.Punycode

set_option autoImplicit false

/-! ## Digits and bias -/

/-- The digit of a value below 36: letters first. -/
def digit (d : Nat) : Char := if d < 26 then Char.ofNat (97 + d) else Char.ofNat (22 + d)

/-- The value of a digit. -/
def digitValue? (c : Char) : Option Nat :=
  if c.isLower then some (c.toNat - 97)
  else if c.isUpper then some (c.toNat - 65)
  else if c.isDigit then some (c.toNat - 22)
  else none

/-- The threshold of the digit at place `k`. -/
def threshold (bias k : Nat) : Nat := min 26 (max 1 (k - bias))

theorem threshold_pos (bias k : Nat) : 1 ≤ threshold bias k := by
  simp only [threshold]
  omega

/-- Divides `delta` down to at most 455, and adds 36 to `k` each time. -/
def scale (delta k : Nat) : Nat × Nat :=
  if 455 < delta then scale (delta / 35) (k + 36) else (delta, k)
  termination_by delta
  decreasing_by exact Nat.div_lt_self (by omega) (by omega)

/-- The bias after a number, given how many characters are placed. -/
def adapt (delta placed : Nat) (first : Bool) : Nat :=
  let damped := if first then delta / 700 else delta / 2
  let (small, k) := scale (damped + damped / placed) 0
  k + 36 * small / (small + 38)

/-! ## Writing -/

/-- The digits of a number, from place `k` on. -/
def writeNumber (bias k n : Nat) : List Char :=
  if n < threshold bias k then [digit n]
  else
    digit (threshold bias k + (n - threshold bias k) % (36 - threshold bias k)) ::
      writeNumber bias (k + 36) ((n - threshold bias k) / (36 - threshold bias k))
  termination_by n
  decreasing_by
    have := threshold_pos bias k
    have := Nat.div_le_self (n - threshold bias k) (36 - threshold bias k)
    omega

/-- A label half written: the text, the distance since the last number, the bias, and how many
characters are placed. -/
structure Writing where
  text : List Char
  delta : Nat
  bias : Nat
  placed : Nat

/-- Passes over one character of the label while characters with code point `code` are written. -/
def Writing.pass (basic code : Nat) (w : Writing) (c : Char) : Writing :=
  if c.toNat < code then { w with delta := w.delta + 1 }
  else if c.toNat = code then
    { text := w.text ++ writeNumber w.bias 36 w.delta, delta := 0,
      bias := adapt w.delta (w.placed + 1) (w.placed = basic), placed := w.placed + 1 }
  else w

/-- Writes the characters with the given code points, from code point `next` on. -/
def writeCodes (label : List Char) (basic : Nat) : List Nat → Nat → Writing → Writing
  | [], _, w => w
  | code :: rest, next, w =>
      let reached := { w with delta := w.delta + (code - next) * (w.placed + 1) }
      let passed := label.foldl (Writing.pass basic code) reached
      writeCodes label basic rest (code + 1) { passed with delta := passed.delta + 1 }

/-- The code points of a label that are not ASCII, each once, in order. -/
def extendedCodes (label : List Char) : List Nat :=
  ((label.map Char.toNat).filter (128 ≤ ·)).mergeSort.eraseDups

/-- A label as ASCII. -/
def encode (label : List Char) : List Char :=
  let basic := label.filter (fun c => c.toNat < 128)
  let start : Writing := ⟨if basic.isEmpty then [] else basic ++ ['-'], 0, 72, basic.length⟩
  (writeCodes label basic.length (extendedCodes label) 128 start).text

/-! ## Reading -/

/-- A number from place `k` on, added with weight `w` to `n`, and what follows it. Weights have 32
bits. -/
def readNumber (bias : Nat) : List Char → Nat → Nat → Nat → Option (Nat × List Char)
  | [], _, _, _ => none
  | c :: rest, k, w, n =>
      match digitValue? c with
      | none => none
      | some d =>
          if d < threshold bias k then some (n + d * w, rest)
          else if UInt32.size ≤ w * (36 - threshold bias k) then none
          else readNumber bias rest (k + 36) (w * (36 - threshold bias k)) (n + d * w)

theorem readNumber_shorter {bias : Nat} {s : List Char} {k w n : Nat} {r : Nat × List Char}
    (h : readNumber bias s k w n = some r) : r.2.length < s.length := by
  induction s generalizing k w n with
  | nil => simp [readNumber] at h
  | cons c rest ih =>
      simp only [readNumber] at h
      split at h
      · cases h
      · split at h
        · cases h
          simp
        · split at h
          · cases h
          · have := ih h
            simp only [List.length_cons]
            omega

/-- Puts the characters that the digits write into `label`, from code point `code` and place
`place` on. -/
def readCodes (bias code place : Nat) (label : List Char) (s : List Char) : Option (List Char) :=
  match s with
  | [] => some label
  | c :: rest =>
      match _h : readNumber bias (c :: rest) 36 1 place with
      | none => none
      | some (n, left) =>
          let placed := label.length + 1
          let code' := code + n / placed
          if code'.isValidChar then
            readCodes (adapt (n - place) placed (place = 0)) code' (n % placed + 1)
              (label.insertIdx (n % placed) (Char.ofNat code')) left
          else none
  termination_by s.length
  decreasing_by
    have := readNumber_shorter _h
    simpa using this

/-- The label that ASCII characters write. A dash divides only if something stands before it. -/
def decode? (s : List Char) : Option (List Char) :=
  match s.reverse.span (· ≠ '-') with
  | (digits, _ :: c :: basic) => readCodes 72 128 0 (c :: basic).reverse digits.reverse
  | _ => readCodes 72 128 0 [] s

end Concordance.Net.Punycode
