/-
# Concordance.Net.Ip -- numeric addresses

An IPv4 address is four bytes, an IPv6 address eight 16-bit pieces.  The strict
reader of IPv4 takes four decimal numbers; the lenient one, used for the hosts of
web addresses, also takes fewer numbers, and hexadecimal and octal ones.  An IPv6
address is written with its longest run of zero pieces left out.
-/
import Concordance.Net.Numeral

namespace Concordance.Net

set_option autoImplicit false

/-! ## IPv4 -/

/-- A decimal byte without leading zeros. -/
def readByte (s : List Char) : Option Nat :=
  if s.length ≤ 3 && (s.length ≤ 1 || s.head? ≠ some '0') then readBounded 10 256 s else none

/-- Four decimal bytes with dots between them. -/
def readIpv4 (s : List Char) : Option (List Nat) :=
  match s.splitOn '.' with
  | [a, b, c, d] => [a, b, c, d].mapM readByte
  | _ => none

/-- The text of four bytes. -/
def showIpv4 (bytes : List Nat) : String := String.intercalate "." (bytes.map toString)

/-- A number of a lenient IPv4 address: hexadecimal after `0x`, octal after a zero. -/
def readLenientNumber (s : List Char) : Option Nat :=
  match s with
  | [] => none
  | '0' :: x :: rest =>
      if x = 'x' || x = 'X' then (if rest.isEmpty then some 0 else readNumeral 16 rest)
      else readNumeral 8 (x :: rest)
  | _ => readNumeral 10 s

/-- The parts of a dotted text, without an empty last one. -/
def dottedParts (s : List Char) : List (List Char) :=
  let parts := s.splitOn '.'
  if parts.getLast? = some [] then parts.dropLast else parts

/-- Whether a host is to be read as an IPv4 address: its last part is a number. -/
def endsInNumber (s : List Char) : Bool :=
  match (dottedParts s).getLast? with
  | some last => (!last.isEmpty && last.all Char.isDigit) || (readLenientNumber last).isSome
  | none => false

/-- The bytes of a number, most significant first. -/
def bytesOf (n : Nat) : List Nat :=
  [(n >>> 24) % 256, (n >>> 16) % 256, (n >>> 8) % 256, n % 256]

/-- A lenient IPv4 address: every number but the last is a byte, and the last fills what is left. -/
def readLenientIpv4 (s : List Char) : Option (List Nat) :=
  let parts := dottedParts s
  if 4 < parts.length then none
  else
    match (parts.mapM readLenientNumber).map List.reverse with
    | some (last :: before) =>
        let room := 8 * (4 - before.length)
        if last < 1 <<< room ∧ before.all (· < 256) then
          let high := before.reverse.foldl (fun n b => n * 256 + b) 0
          some (bytesOf ((high <<< room) + last))
        else none
    | _ => none

/-! ## IPv6 -/

/-- The pieces that fields write; the last field may be an IPv4 address if `dotted`. -/
def readPieces (dotted : Bool) : List (List Char) → Option (List Nat)
  | [] => some []
  | [last] =>
      if dotted && last.contains '.' then
        match readIpv4 last with
        | some [a, b, c, d] => some [a * 256 + b, c * 256 + d]
        | _ => none
      else if last.length ≤ 4 then (readNumeral 16 last).map ([·]) else none
  | field :: rest =>
      if field.length ≤ 4 then
        match readNumeral 16 field, readPieces dotted rest with
        | some piece, some pieces => some (piece :: pieces)
        | _, _ => none
      else none

/-- The pieces of a text with colons between them; an empty text has none. -/
def readColons (dotted : Bool) (s : List Char) : Option (List Nat) :=
  if s.isEmpty then some [] else readPieces dotted (s.splitOn ':')

/-- The text before the first two colons in a row, and the text behind them. -/
def splitGap : List Char → Option (List Char × List Char)
  | [] => none
  | ':' :: ':' :: rest => some ([], rest)
  | c :: rest => (splitGap rest).map (fun parts => (c :: parts.1, parts.2))

/-- An IPv6 address; two colons stand for one zero piece or more. -/
def readIpv6 (s : List Char) : Option (List Nat) :=
  match splitGap s with
  | none =>
      match readColons true s with
      | some pieces => if pieces.length = 8 then some pieces else none
      | none => none
  | some (before, after) =>
      match readColons false before, readColons true after with
      | some head, some tail =>
          if head.length + tail.length ≤ 7 then
            some (head ++ List.replicate (8 - head.length - tail.length) 0 ++ tail)
          else none
      | _, _ => none

/-- How many zeros a list starts with. -/
def leadingZeros (pieces : List Nat) : Nat := (pieces.takeWhile (· = 0)).length

/-- Where the first longest run of zeros starts, and how long it is; `at_` counts the pieces
passed, and `best` is the best so far. -/
def longestZeros : Nat → Nat × Nat → List Nat → Nat × Nat
  | _, best, [] => best
  | at_, best, piece :: rest =>
      let run := leadingZeros (piece :: rest)
      longestZeros (at_ + 1) (if best.2 < run then (at_, run) else best) rest

/-- A piece in lower-case hexadecimal. -/
def showPiece (piece : Nat) : String := String.ofList (Nat.toDigits 16 piece)

/-- The text of eight pieces, the first longest run of two zeros or more left out. -/
def showIpv6 (pieces : List Nat) : String :=
  let colons (part : List Nat) := String.intercalate ":" (part.map showPiece)
  match longestZeros 0 (0, 0) pieces with
  | (start, length) =>
      if length < 2 then colons pieces
      else colons (pieces.take start) ++ "::" ++ colons (pieces.drop (start + length))

end Concordance.Net
