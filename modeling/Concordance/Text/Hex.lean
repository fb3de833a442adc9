/-
# Concordance.Text.Hex -- hexadecimal digits

Digits above nine are letters of either case.
-/

namespace Concordance.Text

set_option autoImplicit false

/-- The value of a hexadecimal digit. -/
def hexValue? (c : Char) : Option Nat :=
  if '0' ≤ c ∧ c ≤ '9' then some (c.toNat - 48)
  else if 'a' ≤ c ∧ c ≤ 'f' then some (c.toNat - 87)
  else if 'A' ≤ c ∧ c ≤ 'F' then some (c.toNat - 55)
  else none

/-- The number that hexadecimal digits write; other characters are passed over. -/
def hexNumber (s : List Char) : Nat := (s.filterMap hexValue?).foldl (fun n d => n * 16 + d) 0

end Concordance.Text
