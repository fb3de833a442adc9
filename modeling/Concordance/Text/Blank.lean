/-
# Concordance.Text.Blank -- the Unicode property White_Space

Blanks separate words everywhere in this library, and are trimmed from the ends
of queries, locators, titles and document names.  The zero-width space and the
byte order mark are not blank.
-/
import Concordance.Text.Ranges

namespace Concordance.Text

set_option autoImplicit false

/-- The code points with the property, as ascending ranges. -/
def blankRanges : List (Nat × Nat) := [
  (9, 13), (32, 32), (133, 133), (160, 160), (5760, 5760), (8192, 8202),
  (8232, 8233), (8239, 8239), (8287, 8287), (12288, 12288)]

/-- Whether a character is white space. -/
def isBlank (c : Char) : Bool := covered blankRanges c.toNat

/-! ## Trimming and splitting -/

/-- The characters without the blanks at either end. -/
def trimChars (s : List Char) : List Char :=
  ((s.dropWhile isBlank).reverse.dropWhile isBlank).reverse

/-- The text without the blanks at either end. -/
def trim (s : String) : String := String.ofList (trimChars s.toList)

/-- Nothing is dropped from the ends of a text that holds nothing to be dropped. -/
theorem dropEnds_of_forall {p : Char → Bool} {s : List Char} (kept : ∀ c ∈ s, p c = false) :
    ((s.dropWhile p).reverse.dropWhile p).reverse = s := by
  have whole (t : List Char) (kept : ∀ c ∈ t, p c = false) : t.dropWhile p = t := by
    cases t with
    | nil => rfl
    | cons c rest => rw [List.dropWhile_cons, kept c List.mem_cons_self]; rfl
  rw [whole s kept, whole s.reverse (by simpa using kept), List.reverse_reverse]

/-- The maximal runs of characters that fail `sep`, in order. -/
def runs (sep : Char → Bool) (s : List Char) : List (List Char) :=
  (s.splitOnP sep).filter (fun run => !run.isEmpty)

/-- The words between blanks. -/
def splitBlank (s : List Char) : List (List Char) := runs isBlank s

end Concordance.Text
