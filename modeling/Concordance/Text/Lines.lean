/-
# Concordance.Text.Lines -- the lines of a text

A line ends at a line feed; a carriage return right before the line feed is part
of the ending.  The last line needs no ending, and an ending at the very end of
the text starts no further line.
-/

namespace Concordance.Text

set_option autoImplicit false

/-- A line without the carriage return of its ending. -/
def dropReturn (line : List Char) : List Char :=
  if line.getLast? = some '\r' then line.dropLast else line

/-- The lines of a text, without their endings. -/
def lines (s : List Char) : List (List Char) :=
  match (s.splitOn '\n').reverse with
  | [] => []
  | last :: ended =>
      (ended.map dropReturn).reverse ++ (if last.isEmpty then [] else [last])

end Concordance.Text
