/-
# Concordance.Text.Quoted -- texts in quotes, for people to read

A quoted text stays on one line and shows every character that it holds: quotes and
backslashes have a backslash in front, line breaks and the like have short names,
and characters that do not show are given by number.
-/
import Concordance.Text.Mark
import Concordance.Text.Printable

namespace Concordance.Text

set_option autoImplicit false

/-- One character inside quotes. -/
def quoteChar (c : Char) : List Char :=
  if c = '\"' then ['\\', '\"']
  else if c = '\\' then ['\\', '\\']
  else if c = '\n' then ['\\', 'n']
  else if c = '\t' then ['\\', 't']
  else if c = '\r' then ['\\', 'r']
  else if c.toNat = 0 then ['\\', '0']
  else if isGraphemeExtend c || !isPrintable c then
    ['\\', 'u', '\x7b'] ++ Nat.toDigits 16 c.toNat ++ ['\x7d']
  else [c]

/-- A text in quotes. -/
def quoted (s : String) : String :=
  String.ofList ('\"' :: s.toList.flatMap quoteChar ++ ['\"'])

/-- Texts in quotes, in brackets. -/
def quotedList (texts : List String) : String :=
  "[" ++ String.intercalate ", " (texts.map quoted) ++ "]"

end Concordance.Text
