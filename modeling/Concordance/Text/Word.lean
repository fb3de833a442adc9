/-
# Concordance.Text.Word -- what a word is made of

Two classes of characters are in use.  A query word is made of letters, numbers
of any kind and underscores (`isQueryChar`).  A document is cut into maximal runs
of letters, combining marks, decimal digits, connecting punctuation and joiners
(`isDocumentChar`).  The classes agree on ASCII but not everywhere: a superscript
two belongs to the first only, a combining accent to the second only, and
characters that are new to Unicode (`recentRanges`) to the first only.
-/
import Concordance.Text.Alphabetic
import Concordance.Text.Blank
import Concordance.Text.Mark
import Concordance.Text.Numeric

namespace Concordance.Text

set_option autoImplicit false

/-- Connecting punctuation (Pc), the underscore among it. -/
def connectorRanges : List (Nat × Nat) := [
  (95, 95), (8255, 8256), (8276, 8276), (65075, 65076), (65101, 65103), (65343, 65343)]

/-- Letters, marks and digits that came with the newest edition of Unicode: query words may hold
them, but documents are still cut at them. -/
def recentRanges : List (Nat × Nat) := [
  (2191, 2191), (3164, 3164), (3292, 3292), (6863, 6877), (6880, 6891),
  (42958, 42959), (42962, 42962), (42964, 42964), (42993, 42993), (67904, 67929),
  (69317, 69319), (69370, 69371), (72544, 72551), (73136, 73179), (73184, 73193),
  (93856, 93880), (93883, 93907), (94194, 94198), (100344, 100351), (101641, 101662),
  (101760, 101874), (124608, 124638), (124640, 124661), (124670, 124671), (177978, 177983),
  (183970, 183981), (205744, 210041)]

/-- Whether a character joins others into one cluster without being seen: the zero-width joiner
and non-joiner. -/
def isJoiner (c : Char) : Bool := c = '\u200c' || c = '\u200d'

/-- The characters of query words. -/
def isQueryChar (c : Char) : Bool := isAlphabetic c || isNumeric c || c = '_'

/-- The characters of document words. -/
def isDocumentChar (c : Char) : Bool :=
  (isAlphabetic c || isMark c || isDecimalDigit c || covered connectorRanges c.toNat ||
    isJoiner c) && !covered recentRanges c.toNat

/-- Whether a text is a query word: not empty, and made of query characters only. -/
def isWord (s : String) : Bool := !s.toList.isEmpty && s.toList.all isQueryChar

theorem isWord_iff {s : String} :
    isWord s = true ↔ s.toList ≠ [] ∧ ∀ c ∈ s.toList, isQueryChar c = true := by
  simp [isWord]

/-- The document words of a text, in order. -/
def documentWords (s : List Char) : List (List Char) := runs (fun c => !isDocumentChar c) s

end Concordance.Text
