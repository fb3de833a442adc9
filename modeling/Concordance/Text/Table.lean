/-
# Concordance.Text.Table -- characters and the texts that they stand for

Properties that give each character a text of its own are kept as blocks.  A block
covers neighbouring code points and is written out as words: hexadecimal code points
with plus signs between them, or a dash for a character that stands for itself.

`Table.find?` looks a character up.  Blocks are in ascending order, so the search
stops at the first block that begins beyond the character.
-/
import Concordance.Text.Hex

namespace Concordance.Text

set_option autoImplicit false

/-- Neighbouring code points from `first` on, and the text of each; no text stands for the
character itself. -/
structure Block where
  first : Nat
  texts : Array (List Char)

/-- A table of characters and texts. -/
abbrev Table := List Block

/-- The text that one word of a block writes. -/
def readBlockWord (word : List Char) : List Char :=
  if word = ['-'] then [] else (word.splitOn '+').map (fun digits => Char.ofNat (hexNumber digits))

/-- A block as it is written out. -/
def Block.read (first : Nat) (words : String) : Block :=
  let isGap (c : Char) := c = ' ' || c = '\n'
  ⟨first, (((words.toList.splitOnP isGap).filter (· ≠ [])).map readBlockWord).toArray⟩

/-- The text that a character stands for, if it is not itself. -/
def Table.find? : Table → Char → Option (List Char)
  | [], _ => none
  | block :: rest, c =>
      if c.toNat < block.first then none
      else
        match block.texts[c.toNat - block.first]? with
        | some [] => none
        | some text => some text
        | none => find? rest c

/-- The characters of a table with their texts, in order. -/
def Table.toList (table : Table) : List (Char × List Char) :=
  table.flatMap (fun block =>
    (block.texts.toList.mapIdx (fun i text => (Char.ofNat (block.first + i), text))).filter
      (fun entry => entry.2 ≠ []))

end Concordance.Text
