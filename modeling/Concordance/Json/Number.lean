/-
# Concordance.Json.Number -- numbers as they are written, and their size

A number is read into 64 bits.  Digits that no longer fit count only as places, so
a long number becomes a significand with a power of ten (`Significand`).

A number with a fraction, a power, or more digits than fit is meant as a double.
It is worked out in two rounded steps: the significand and the power of ten are
each rounded to 53 binary digits, and so is their product.  `Number.isHuge` says
when that product is beyond all doubles; `roundBinary` is the rounding.
-/

namespace Concordance.Json

set_option autoImplicit false

/-! ## Rounding to doubles -/

/-- A number cut by `places` binary places and rounded to nearest; a half goes to the even neighbour. -/
def roundPlaces (n places : Nat) : Nat :=
  let unit := 1 <<< places
  let quotient := n / unit
  let rest := n % unit
  if unit < 2 * rest ∨ (2 * rest = unit ∧ quotient % 2 = 1) then quotient + 1 else quotient

/-- A number rounded to 53 binary digits. -/
def roundBinary (n : Nat) : Nat :=
  let places := n.log2 + 1 - 53
  roundPlaces n places <<< places

/-- The least magnitude that rounds to no finite double. -/
def doubleLimit : Nat := (1 <<< 1024) - (1 <<< 970)

/-! ## Significands -/

/-- A number in the making: its digits as far as they fit, and the power of ten beside them. -/
structure Significand where
  digits : Nat
  power : Int
  deriving DecidableEq, Repr

/-- The value of a decimal digit. -/
def decimalValue (c : Char) : Nat := c.toNat - 48

/-- Whether one more digit still fits into 64 bits. -/
def Significand.fits (n : Significand) (c : Char) : Bool :=
  n.digits * 10 + decimalValue c < UInt64.size

/-- Takes the digits before the point; from the first one that does not fit, they count as places. -/
def Significand.takeWhole (n : Significand) : List Char → Significand
  | [] => n
  | c :: rest =>
      if n.fits c then takeWhole ⟨n.digits * 10 + decimalValue c, n.power⟩ rest
      else ⟨n.digits, n.power + (rest.length + 1)⟩

/-- Takes the digits after the point up to the first one that does not fit. -/
def Significand.takeDecimals (n : Significand) : List Char → Significand
  | [] => n
  | c :: rest =>
      if n.fits c then takeDecimals ⟨n.digits * 10 + decimalValue c, n.power - 1⟩ rest else n

/-- A significand of digits that fit is the number that they write. -/
theorem Significand.takeWhole_fits {n : Significand} {c : Char} (h : n.fits c = true)
    (rest : List Char) :
    n.takeWhole (c :: rest) = takeWhole ⟨n.digits * 10 + decimalValue c, n.power⟩ rest := by
  simp [takeWhole, h]

/-! ## Numbers -/

/-- A number as it is written: a sign, and either its magnitude, which fits into 64 bits, or a
significand. -/
inductive Number
  | integer (negative : Bool) (magnitude : Nat)
  | real (negative : Bool) (significand : Significand)
  deriving DecidableEq, Repr

/-- Whether a significand is beyond all doubles. A power below zero only ever divides. -/
def Significand.isHuge (n : Significand) : Bool :=
  if n.digits = 0 ∨ n.power < 0 then false
  else if 308 < n.power then true
  else doubleLimit ≤ roundBinary n.digits * roundBinary (Nat.pow 10 n.power.toNat)

/-- Whether a number is too large for any number type. -/
def Number.isHuge : Number → Bool
  | .integer _ _ => false
  | .real _ significand => significand.isHuge

/-- An integer of these digits; one that does not fit is meant as a double. -/
def Number.ofWhole (negative : Bool) (digits : List Char) : Number :=
  let n := Significand.takeWhole ⟨0, 0⟩ digits
  if n.power = 0 then .integer negative n.digits else .real negative n

/-- A number with decimals or a power. -/
def Number.ofParts (negative : Bool) (whole decimals : List Char) (power : Int) : Number :=
  let n := (Significand.takeWhole ⟨0, 0⟩ whole).takeDecimals decimals
  .real negative ⟨n.digits, n.power + power⟩

end Concordance.Json
