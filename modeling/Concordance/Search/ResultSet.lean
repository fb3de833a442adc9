/-
# Concordance.Search.ResultSet -- the documents that a search matched

A result set has a subject and one entry per document, listed by document name.
-/
import Concordance.Entry

namespace Concordance.Search

open Concordance.Data

set_option autoImplicit false

/-- The documents that match a subject, each with the positions of the match. -/
structure ResultSet where
  subject : String
  entries : SortedMap String Entry
  deriving DecidableEq

namespace ResultSet

/-- A set without documents. -/
def empty (subject : String) : ResultSet := ⟨subject, SortedMap.empty⟩

instance : Inhabited ResultSet := ⟨empty ""⟩

/-- The entry of a document. -/
def get? (s : ResultSet) (uri : String) : Option Entry := s.entries.find? uri

/-- Whether a document is in the set. -/
def contains (s : ResultSet) (uri : String) : Bool := s.entries.contains uri

/-- The names of the documents, in order. -/
def uris (s : ResultSet) : List String := s.entries.keys

/-- The entries, in the order of the documents' names. -/
def toList (s : ResultSet) : List Entry := s.entries.values

/-- How many documents there are. -/
def size (s : ResultSet) : Nat := s.entries.size

/-- Whether there are no documents. -/
def isEmpty (s : ResultSet) : Bool := s.entries.isEmpty

/-- Adds an entry as it is; a second one for the same document only adds its positions. -/
def merge (s : ResultSet) (entry : Entry) : ResultSet :=
  let merged := match s.get? entry.uri with
    | some old => { old with positions := old.positions.union entry.positions }
    | none => entry
  { s with entries := s.entries.insert entry.uri merged }

/-- The set of an index's answer. -/
def ofEntries (subject : String) (entries : List Entry) : ResultSet :=
  entries.foldl merge (empty subject)

/-- Puts a document into the set under the set's own subject. -/
def put (s : ResultSet) (uri : String) (positions : Positions) : ResultSet :=
  { s with entries := s.entries.insert uri ⟨s.subject, uri, positions⟩ }

end ResultSet

end Concordance.Search
