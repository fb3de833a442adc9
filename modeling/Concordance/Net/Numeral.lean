/-
# Concordance.Net.Numeral -- numbers in addresses and options

A numeral is read in a base with a bound, and holds nothing but digits.  A count
(`readCount`) may begin with a plus sign.
-/
import Concordance.Text.Hex

namespace Concordance.Net

set_option autoImplicit false

/-- The value of a digit of a base up to sixteen. -/
def digitValue? (base : Nat) (c : Char) : Option Nat :=
  match Text.hexValue? c with
  | some d => if d < base then some d else none
  | none => none

/-- The number that the digits write after `acc`; `none` if one of them is no digit. -/
def readDigits (base : Nat) (acc : Nat) : List Char → Option Nat
  | [] => some acc
  | c :: rest =>
      match digitValue? base c with
      | some d => readDigits base (acc * base + d) rest
      | none => none

/-- A number of at least one digit. -/
def readNumeral (base : Nat) (s : List Char) : Option Nat :=
  if s.isEmpty then none else readDigits base 0 s

/-- A number below `bound`. -/
def readBounded (base bound : Nat) (s : List Char) : Option Nat :=
  match readNumeral base s with
  | some n => if n < bound then some n else none
  | none => none

/-- A decimal number below `bound`, perhaps after a plus sign. -/
def readCount (bound : Nat) (s : List Char) : Option Nat :=
  match s with
  | '+' :: rest => readBounded 10 bound rest
  | _ => readBounded 10 bound s

end Concordance.Net
