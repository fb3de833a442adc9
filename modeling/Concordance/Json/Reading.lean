/-
# Concordance.Json.Reading -- what a text says before it breaks

Texts come from outside and may be malformed.  A `Reading` is as much of a value
as can be read: where the text breaks off or stops making sense, the reading says
so in place (`broken`, or a list that is not `closed`), and keeps what came before.
Whoever takes a reading apart from front to back therefore meets a wrong shape and
a malformed place in the order of the text.

Two defects stay without effect unless the value is used: a text with an unpaired
surrogate, and a number too large for any number type.
-/
import Concordance.Json.Number
import Concordance.Json.Value
import Concordance.Text.Hex

namespace Concordance.Json

open Concordance.Text

set_option autoImplicit false

/-- As much of a value as a text holds. -/
inductive Reading
  | null
  | bool (b : Bool)
  | number (n : Number)
  /-- A text in quotes; `none` if it holds an unpaired surrogate. -/
  | text (s : Option String)
  | array (items : List Reading) (closed : Bool)
  | object (members : List (Option String × Reading)) (closed : Bool)
  /-- No value. -/
  | broken

mutual

/-- A value read back. -/
def reading : Json → Reading
  | .null => .null
  | .bool b => .bool b
  | .nat n => .number (.integer false n)
  | .string s => .text (some s)
  | .array items => .array (readings items) true
  | .object members => .object (memberReadings members) true

/-- The items of an array read back. -/
def readings : List Json → List Reading
  | [] => []
  | item :: rest => reading item :: readings rest

/-- The members of an object read back. -/
def memberReadings : List (String × Json) → List (Option String × Reading)
  | [] => []
  | (name, value) :: rest => (some name, reading value) :: memberReadings rest

end

/-! ## Scalars -/

/-- The blanks between the parts of a value. -/
def isGap (c : Char) : Bool := c = ' ' || c = '\n' || c = '\t' || c = '\r'

/-- The text from the next character that is no blank on. -/
def skipGap (s : List Char) : List Char := s.dropWhile isGap

/-- The number that four hexadecimal digits write. -/
def hexWord? (a b c d : Char) : Option Nat := do
  return (((← hexValue? a) * 16 + (← hexValue? b)) * 16 + (← hexValue? c)) * 16 + (← hexValue? d)

/-- The character of a simple escape. -/
def simpleEscape? (c : Char) : Option Char :=
  if c = '\"' || c = '\\' || c = '/' then some c
  else if c = 'b' then some (Char.ofNat 8)
  else if c = 'f' then some (Char.ofNat 12)
  else if c = 'n' then some '\n'
  else if c = 'r' then some '\r'
  else if c = 't' then some '\t'
  else none

/-- One unit of a quoted text: a character, or half of a surrogate pair. -/
inductive Piece
  | char (c : Char)
  | surrogate (unit : Nat)
  deriving DecidableEq, Repr

/-- The piece of a 16-bit unit. -/
def Piece.ofUnit (unit : Nat) : Piece :=
  if 0xd800 ≤ unit ∧ unit < 0xe000 then .surrogate unit else .char (Char.ofNat unit)

/-- The pieces up to the closing quote, and what follows it; `none` if the text is malformed. -/
def readPieces : List Char → Option (List Piece × List Char)
  | [] => none
  | '\"' :: rest => some ([], rest)
  | '\\' :: 'u' :: a :: b :: c :: d :: rest =>
      match hexWord? a b c d, readPieces rest with
      | some unit, some (pieces, after) => some (Piece.ofUnit unit :: pieces, after)
      | _, _ => none
  | '\\' :: e :: rest =>
      match simpleEscape? e, readPieces rest with
      | some c, some (pieces, after) => some (.char c :: pieces, after)
      | _, _ => none
  | c :: rest =>
      if c.toNat < 32 then none
      else (readPieces rest).map (fun found => (.char c :: found.1, found.2))

/-- The characters of the pieces; `none` if a surrogate stands alone. -/
def joinPieces : List Piece → Option (List Char)
  | [] => some []
  | .char c :: rest => (joinPieces rest).map (c :: ·)
  | .surrogate high :: .surrogate low :: rest =>
      if high < 0xdc00 ∧ 0xdc00 ≤ low then
        (joinPieces rest).map
          (Char.ofNat (0x10000 + (high - 0xd800) * 0x400 + (low - 0xdc00)) :: ·)
      else none
  | .surrogate _ :: _ => none

/-- A text after its opening quote. -/
def readText (s : List Char) : Option (Option String × List Char) :=
  (readPieces s).map (fun (pieces, rest) => ((joinPieces pieces).map String.ofList, rest))

/-- The number that decimal digits write. -/
def digitsValue (digits : List Char) : Nat := digits.foldl (fun n c => n * 10 + decimalValue c) 0

/-- The exponent of a number, after its letter. -/
def readExponent (s : List Char) : Option (Int × List Char) :=
  let (negative, s) := match s with
    | '-' :: rest => (true, rest)
    | '+' :: rest => (false, rest)
    | _ => (false, s)
  match s.span Char.isDigit with
  | ([], _) => none
  | (digits, rest) =>
      let e : Int := digitsValue digits
      some (if negative then -e else e, rest)

/-- A number after its sign; `none` if it is malformed. -/
def readNumber (negative : Bool) (s : List Char) : Option (Number × List Char) :=
  match s.span Char.isDigit with
  | ([], _) => none
  | (digits, rest) =>
      if digits.head? = some '0' ∧ digits.length ≠ 1 then none
      else
        let fraction : Option (List Char × List Char) := match rest with
          | '.' :: after =>
              match after.span Char.isDigit with
              | ([], _) => none
              | found => some found
          | _ => some ([], rest)
        match fraction with
        | none => none
        | some (decimals, rest') =>
            let exponent : Option (Int × Bool × List Char) := match rest' with
              | e :: after =>
                  if e = 'e' || e = 'E' then
                    (readExponent after).map (fun found => (found.1, true, found.2))
                  else some (0, false, rest')
              | [] => some (0, false, rest')
            match exponent with
            | none => none
            | some (power, hasPower, after) =>
                if decimals.isEmpty && !hasPower then some (.ofWhole negative digits, after)
                else some (.ofParts negative digits decimals power, after)

/-- What follows a fixed word, if the text starts with it. -/
def readWord (word : List Char) (s : List Char) : Option (List Char) :=
  if word.isPrefixOf s then some (s.drop word.length) else none

/-! ## Values -/

mutual

/-- Reads a value and gives what follows it; nothing follows a reading that broke. -/
def readValue : Nat → List Char → Reading × Option (List Char)
  | 0, _ => (.broken, none)
  | fuel + 1, s =>
      let scalar (r : Reading) (rest : Option (List Char)) : Reading × Option (List Char) :=
        match rest with
        | some rest => (r, some rest)
        | none => (.broken, none)
      match skipGap s with
      | [] => (.broken, none)
      | 'n' :: rest => scalar .null (readWord ['u', 'l', 'l'] rest)
      | 't' :: rest => scalar (.bool true) (readWord ['r', 'u', 'e'] rest)
      | 'f' :: rest => scalar (.bool false) (readWord ['a', 'l', 's', 'e'] rest)
      | '\"' :: rest =>
          match readText rest with
          | some (text, rest) => (.text text, some rest)
          | none => (.broken, none)
      | '-' :: rest =>
          match readNumber true rest with
          | some (n, rest) => (.number n, some rest)
          | none => (.broken, none)
      | '[' :: rest =>
          let (items, rest) := readItems fuel true rest
          (.array items rest.isSome, rest)
      | '\x7b' :: rest =>
          let (members, rest) := readMembers fuel true rest
          (.object members rest.isSome, rest)
      | c :: rest =>
          match readNumber false (c :: rest) with
          | some (n, rest) => (.number n, some rest)
          | none => (.broken, none)

/-- Reads the items of an array up to its end; `first` before the first one. -/
def readItems : Nat → Bool → List Char → List Reading × Option (List Char)
  | 0, _, _ => ([], none)
  | fuel + 1, first, s =>
      let item (s : List Char) : List Reading × Option (List Char) :=
        match readValue fuel s with
        | (r, none) => ([r], none)
        | (r, some rest) =>
            let (items, rest) := readItems fuel false rest
            (r :: items, rest)
      match skipGap s with
      | [] => ([], none)
      | ']' :: rest => ([], some rest)
      | ',' :: rest =>
          if first then ([.broken], none)
          else
            match skipGap rest with
            | ']' :: _ => ([], none)
            | [] => ([], none)
            | rest => item rest
      | rest => if first then item rest else ([], none)

/-- Reads the members of an object up to its end; `first` before the first one. -/
def readMembers : Nat → Bool → List Char → List (Option String × Reading) × Option (List Char)
  | 0, _, _ => ([], none)
  | fuel + 1, first, s =>
      let member (s : List Char) : List (Option String × Reading) × Option (List Char) :=
        match s with
        | '\"' :: rest =>
            match readText rest with
            | none => ([], none)
            | some (name, rest) =>
                match skipGap rest with
                | ':' :: rest =>
                    match readValue fuel rest with
                    | (r, none) => ([(name, r)], none)
                    | (r, some rest) =>
                        let (members, rest) := readMembers fuel false rest
                        ((name, r) :: members, rest)
                | _ => ([(name, .broken)], none)
        | _ => ([], none)
      match skipGap s with
      | [] => ([], none)
      | '\x7d' :: rest => ([], some rest)
      | ',' :: rest => if first then ([], none) else member (skipGap rest)
      | rest => if first then member rest else ([], none)

end

/-- What the text says, and what follows its first value. -/
def readText? (s : String) : Reading × Option (List Char) :=
  readValue (2 * s.length + 2) s.toList

/-- What the text says, whatever follows its first value. -/
def readPrefix (s : String) : Reading := (readText? s).1

/-- What the text says, provided that nothing but blanks follows. -/
def readWhole (s : String) : Reading :=
  match readText? s with
  | (r, some rest) => if (skipGap rest).isEmpty then r else .broken
  | (r, none) => r

end Concordance.Json
