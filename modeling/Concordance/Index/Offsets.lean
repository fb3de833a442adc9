/-
# Concordance.Index.Offsets -- the words of a text and where they stand

A text is put in lower case and cut into document words.  Each word is numbered
from zero, and every word of the text counts, so two words follow one another
exactly when their numbers do.  Numbers are 32-bit words.
-/
import Concordance.Entry
import Concordance.Text.Lowercase
import Concordance.Text.Word

namespace Concordance.Index

open Concordance.Data Concordance.Text

set_option autoImplicit false

/-- The words of a text in lower case, in order. -/
def textWords (text : String) : List String :=
  (documentWords (lowerChars [] text.toList)).map String.ofList

/-- Files the words under their numbers, starting at `offset`, in a map from words to numbers in
order. -/
def fileWords (offset : Nat) (acc : SortedMap String (List UInt32)) :
    List String → SortedMap String (List UInt32)
  | [] => acc
  | word :: rest =>
      let seen := (acc.find? word).getD []
      fileWords (offset + 1) (acc.insert word (seen ++ [UInt32.ofNat offset])) rest

/-- The words of a text, each with the numbers at which it stands. -/
def wordOffsets (text : String) : SortedMap String (List UInt32) :=
  fileWords 0 SortedMap.empty (textWords text)

end Concordance.Index
