/-
# Concordance.Net.Domain.Alignment -- names of both directions

A name that holds letters written from right to left must look the same wherever it
stands.  Each of its labels therefore begins with a letter, keeps to one direction,
and ends with a letter or number of it, marks apart; and no label mixes two kinds of
numbers (`isAligned`).
-/
import Concordance.Text.Direction

namespace Concordance.Net

open Concordance.Text

set_option autoImplicit false

/-- Whether a direction makes a name one of both directions. -/
def turns (d : Direction) : Bool := d = .rightToLeft || d = .arabicNumber

/-- Whether a direction may occur in a label that runs from left to right. -/
def inLeftToRight (d : Direction) : Bool := !turns d

/-- Whether a direction may occur in a label that runs from right to left. -/
def inRightToLeft (d : Direction) : Bool := d ≠ .leftToRight

/-- The directions of a label without the marks at its end. -/
def withoutLastMarks (label : List Direction) : List Direction :=
  (label.reverse.dropWhile (· = .nonspacing)).reverse

/-- Whether a label, given by the directions of its characters, looks the same everywhere. -/
def isAligned (label : List Direction) : Bool :=
  let core := withoutLastMarks label
  match label.head? with
  | none => true
  | some .leftToRight =>
      core.all inLeftToRight &&
        core.getLast?.any (fun d => d = .leftToRight || d = .number)
  | some .rightToLeft =>
      core.all inRightToLeft &&
        core.getLast?.any (fun d => d = .rightToLeft || d = .number || d = .arabicNumber) &&
        !(core.contains .number && core.contains .arabicNumber)
  | some _ => false

/-- Whether the labels of a name look the same everywhere. -/
def areAligned (labels : List (List Char)) : Bool :=
  let directions := labels.map (·.map direction)
  !directions.any (·.any turns) || directions.all isAligned

end Concordance.Net
