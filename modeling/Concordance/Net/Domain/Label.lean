/-
# Concordance.Net.Domain.Label -- the parts of a name between its dots

A label holds characters that a name may hold, does not begin with a mark, and joins
its letters only where that can be seen (`joinersShow`).  One that is not ASCII is
written in Punycode after `xn--`, and a label that is written so has to be in its
folded form already: there is one way to write each name.
-/
import Concordance.Net.Domain.Folding
import Concordance.Net.Punycode
import Concordance.Text.Joining
import Concordance.Text.Printable
import Concordance.Text.Upcoming
import Concordance.Text.Word

namespace Concordance.Net

open Concordance.Text

set_option autoImplicit false

/-! ## Characters -/

/-- Characters that can be shown and that no name holds: they stand for text with dots, spaces or
other signs that names are free of, or describe other characters. -/
def barredRanges : List (Nat × Nat) := [
  (160, 160), (168, 168), (175, 175), (180, 180), (184, 184), (728, 733), (890, 890), (900, 901),
  (8125, 8125), (8127, 8129), (8141, 8143), (8157, 8159), (8173, 8174), (8189, 8190),
  (8192, 8202), (8215, 8215), (8228, 8230), (8239, 8239), (8254, 8254), (8263, 8265),
  (8287, 8287), (8448, 8449), (8453, 8454), (9352, 9371), (10868, 10868), (12272, 12288),
  (12443, 12444), (12783, 12783), (13250, 13250), (13255, 13255), (13272, 13272), (64606, 64611),
  (65018, 65019), (65042, 65043), (65046, 65046), (65049, 65049), (65072, 65072), (65095, 65100),
  (65106, 65106), (65109, 65110), (65119, 65119), (65128, 65128), (65130, 65131), (65136, 65136),
  (65138, 65138), (65140, 65140), (65142, 65142), (65144, 65144), (65146, 65146), (65148, 65148),
  (65150, 65150), (65507, 65507), (65532, 65533), (127232, 127232)]

/-- Whether a character that is not ASCII may stand in a name. -/
def isNameChar (c : Char) : Bool :=
  (isPrintable c || isJoiner c || isUpcoming c) && !covered barredRanges c.toNat

/-- Whether a character of a name only ever follows another. -/
def isNameMark (c : Char) : Bool := isMark c || isUpcomingMark c

/-- Whether a character is ASCII. -/
def isAscii (c : Char) : Bool := c.toNat < 128

/-! ## Joiners -/

/-- Whether the nearest character that letters do not join across is as `joins` says. -/
def meetsJoining (joins : Char → Bool) : List Char → Bool
  | [] => false
  | c :: rest => joins c || (isTransparent c && meetsJoining joins rest)

/-- Whether each joiner has something to act on: a silenced vowel before it, or, for the one that
keeps letters apart, letters on either side that would join. `before` holds what was read, last
first. -/
def joinersShow : List Char → List Char → Bool
  | _, [] => true
  | before, c :: rest =>
      (!isJoiner c ||
        match before with
        | [] => false
        | previous :: _ =>
            combiningClass previous = viramaClass ||
              (c = '\u200c' && meetsJoining joinsNext before && meetsJoining joinsPrevious rest)) &&
        joinersShow (c :: before) rest

/-! ## Labels -/

/-- What a label begins with that is written in Punycode. -/
def punycodeMark : List Char := ['x', 'n', '-', '-']

/-- The longest label that is not ASCII. -/
def longestText : Nat := 1000

/-- The longest Punycode that is read. -/
def longestPunycode : Nat := 2000

/-- A label: its characters, and how it is written. -/
structure Label where
  text : List Char
  written : List Char
  deriving DecidableEq, Repr

/-- Whether folded characters, not all of them ASCII, make a label. -/
def isLabel (text : List Char) : Bool :=
  text.all (fun c => isAscii c || isNameChar c) && !(text.take 1).any isNameMark &&
    joinersShow [] text && !punycodeMark.isPrefixOf text && text.length ≤ longestText

/-- A label that is written in Punycode, after its mark. -/
def Label.ofPunycode? (digits : List Char) : Option Label :=
  if digits.length ≤ longestPunycode then
    match Punycode.decode? digits with
    | some text =>
        if !text.all isAscii && isLabel text && foldName text = text then
          some ⟨text, punycodeMark ++ digits⟩
        else none
    | none => none
  else none

/-- A label of folded characters. -/
def Label.ofFolded? (text : List Char) : Option Label :=
  if text.all isAscii then
    if punycodeMark.isPrefixOf text then Label.ofPunycode? (text.drop 4) else some ⟨text, text⟩
  else if isLabel text then
    some ⟨text, punycodeMark ++ Punycode.encode text⟩
  else none

end Concordance.Net
