/-
# Concordance.Text.Composed -- one form for texts that look the same

An accented letter can be one character or a letter and a mark, and marks that do not
touch each other can come in either order.  `composed` brings a text into one form
(Unicode's form C): every character is taken apart, marks are sorted by their class,
and what can be put together again is put together.

Hangul syllables are taken apart and put together by arithmetic, all others by
`canonicalTable`.
-/
import Concordance.Text.Canonical

namespace Concordance.Text

set_option autoImplicit false

/-! ## Hangul -/

/-- The letters of a Hangul syllable: one to begin with, a vowel, and perhaps one to end with. -/
def hangulParts? (c : Char) : Option (List Char) :=
  if 0xac00 ≤ c.toNat ∧ c.toNat ≤ 0xd7a3 then
    let index := c.toNat - 0xac00
    let final := index % 28
    some ([Char.ofNat (0x1100 + index / 588), Char.ofNat (0x1161 + index % 588 / 28)] ++
      if final = 0 then [] else [Char.ofNat (0x11a7 + final)])
  else none

/-- The Hangul syllable of a syllable so far and one more letter. -/
def hangulPair? (first second : Char) : Option Char :=
  if 0x1100 ≤ first.toNat ∧ first.toNat ≤ 0x1112 ∧
      0x1161 ≤ second.toNat ∧ second.toNat ≤ 0x1175 then
    some (Char.ofNat
      (0xac00 + ((first.toNat - 0x1100) * 21 + (second.toNat - 0x1161)) * 28))
  else if 0xac00 ≤ first.toNat ∧ first.toNat ≤ 0xd7a3 ∧ (first.toNat - 0xac00) % 28 = 0 ∧
      0x11a8 ≤ second.toNat ∧ second.toNat ≤ 0x11c2 then
    some (Char.ofNat (first.toNat + (second.toNat - 0x11a7)))
  else none

/-! ## Taking apart -/

/-- How often a character can be taken apart again, at most. -/
def canonicalDepth : Nat := 3

/-- A character taken apart, and its parts in turn as often as `depth` says. -/
def decomposeChar : Nat → Char → List Char
  | 0, c => [c]
  | depth + 1, c =>
      match hangulParts? c with
      | some parts => parts
      | none =>
          match canonicalTable.find? c with
          | some parts => parts.flatMap (decomposeChar depth)
          | none => [c]

/-- Puts a mark in front of sorted ones: behind all that have a lower class, but never past a
character that is no mark. -/
def placeMark (c : Char) : List Char → List Char
  | [] => [c]
  | d :: rest =>
      if combiningClass d ≠ 0 ∧ combiningClass d < combiningClass c then d :: placeMark c rest
      else c :: d :: rest

/-- A text taken apart, with the marks of each letter in the order of their classes. -/
def decomposed (s : List Char) : List Char :=
  (s.flatMap (decomposeChar canonicalDepth)).foldr placeMark []

/-! ## Putting together -/

/-- Pairs of characters and what they make together. -/
def canonicalPairs : List (Char × Char × Char) :=
  canonicalTable.toList.filterMap (fun entry =>
    match entry.2 with
    | [first, second] =>
        if covered uncomposedRanges entry.1.toNat then none else some (first, second, entry.1)
    | _ => none)

/-- What two characters make together. -/
def pair? (first second : Char) : Option Char :=
  match hangulPair? first second with
  | some c => some c
  | none =>
      (canonicalPairs.find? (fun p => p.1 = first ∧ p.2.1 = second)).map (fun p => p.2.2)

/-- Puts the rest of a text together behind a letter and the marks it could not take in, the last
of which has class `last`. A mark reaches the letter if the marks between have lower classes. -/
def composeFrom (letter : Char) (marks : List Char) (last : Nat) : List Char → List Char
  | [] => letter :: marks
  | c :: rest =>
      let reaches := marks.isEmpty || last < combiningClass c
      match if reaches then pair? letter c else none with
      | some whole => composeFrom whole marks last rest
      | none =>
          if combiningClass c = 0 then letter :: marks ++ composeFrom c [] 0 rest
          else composeFrom letter (marks ++ [c]) (combiningClass c) rest

/-- A text put together. Marks without a letter in front of them stay. -/
def compose : List Char → List Char
  | [] => []
  | c :: rest => if combiningClass c = 0 then composeFrom c [] 0 rest else c :: compose rest

/-- The one form of a text. -/
def composed (s : List Char) : List Char := compose (decomposed s)

end Concordance.Text
