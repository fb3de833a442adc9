/-
# Concordance.Entry -- what an index knows of a word and of a document

An entry says that a word, or a query, occurs in a document, and at which word
offsets.  A document's description carries its title and its size in words.
-/
import Concordance.Data.SortedMap
import Concordance.Data.SortedSet

namespace Concordance

open Concordance.Data

set_option autoImplicit false

/-- Word offsets inside one document. -/
abbrev Positions := SortedSet UInt32

/-- One word, or one combined query, occurring in one document. -/
structure Entry where
  subject : String
  uri : String
  positions : Positions
  deriving DecidableEq

/-- An entry at the given offsets, in any order. -/
def Entry.ofOffsets (subject uri : String) (positions : List UInt32) : Entry :=
  ⟨subject, uri, SortedSet.ofList positions⟩

/-- What an index keeps of a document besides its words. -/
structure Description where
  uri : String
  title : Option String
  wordCount : Nat
  uniqueWords : Nat
  deriving DecidableEq, Repr

end Concordance
