/-
# Concordance.Index.Memory -- an inverted index held in memory

The index files every word of every document: first by word, then by document.
Descriptions of the documents are kept beside.  A document that is added again
replaces its earlier version, and no word is kept that no document holds.
-/
import Concordance.Entry
import Concordance.Index.Offsets

namespace Concordance.Index

open Concordance.Data

set_option autoImplicit false

/-- Words, the documents that hold them, and the documents themselves. -/
structure Memory where
  postings : SortedMap String (SortedMap String Entry)
  documents : SortedMap String Description

namespace Memory

/-- An index without documents. -/
def empty : Memory := ⟨SortedMap.empty, SortedMap.empty⟩

instance : Inhabited Memory := ⟨empty⟩

/-- The postings without those of one document. -/
def withoutDocument (postings : SortedMap String (SortedMap String Entry)) (uri : String) :
    SortedMap String (SortedMap String Entry) :=
  (postings.map (fun documents => documents.erase uri)).filter (fun _ documents => !documents.isEmpty)

/-- Files one word of one document. -/
def filePosting (postings : SortedMap String (SortedMap String Entry)) (entry : Entry) :
    SortedMap String (SortedMap String Entry) :=
  postings.insert entry.subject
    (((postings.find? entry.subject).getD SortedMap.empty).insert entry.uri entry)

/-- The description of a text under a name. -/
def describe (uri : String) (title : Option String) (offsets : SortedMap String (List UInt32)) :
    Description :=
  { uri, title
    wordCount := offsets.values.foldl (fun count positions => count + positions.length) 0
    uniqueWords := offsets.size }

/-- Adds a document, replacing any earlier version of it, and gives its description. -/
def add (index : Memory) (uri : String) (title : Option String) (text : String) :
    Memory × Description :=
  let cleared :=
    if index.documents.contains uri then withoutDocument index.postings uri else index.postings
  let offsets := wordOffsets text
  let entries := offsets.toList.map (fun p => Entry.ofOffsets p.1 uri p.2)
  let description := describe uri title offsets
  (⟨entries.foldl filePosting cleared, index.documents.insert uri description⟩, description)

/-- Removes a document; false if there is none of that name. -/
def remove (index : Memory) (uri : String) : Memory × Bool :=
  if index.documents.contains uri then
    (⟨withoutDocument index.postings uri, index.documents.erase uri⟩, true)
  else (index, false)

/-- The entries of a word, in the order of the documents' names. -/
def lookup (index : Memory) (word : String) : List Entry :=
  match index.postings.find? word with
  | some documents => documents.values
  | none => []

/-- The description of a document. -/
def description? (index : Memory) (uri : String) : Option Description := index.documents.find? uri

/-- How many documents there are. -/
def documentCount (index : Memory) : Nat := index.documents.size

/-- How many distinct words there are. -/
def wordCount (index : Memory) : Nat := index.postings.size

end Memory

end Concordance.Index
