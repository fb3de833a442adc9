/-
# Concordance.Wire.Index -- what nodes say to each other about an index

A node serves its own indexes to others: the entries of a word, the description
of a document.  It also takes documents in.  Each message has one encoding, and
one decoder that reads it back.
-/
import Concordance.Entry
import Concordance.Json.Decode

namespace Concordance.Wire

open Concordance.Data Concordance.Json

set_option autoImplicit false

/-! ## Entries and descriptions -/

/-- Positions, in order. -/
def encodePositions (positions : Positions) : Json :=
  .list (fun p => Json.nat p.toNat) positions.toList

/-- Positions, in any order. -/
def decodePositions : Decoder Positions := fun r => (decodeList decodeWord r).map SortedSet.ofList

/-- An entry. -/
def encodeEntry (e : Entry) : Json :=
  .object [("subject", .string e.subject), ("uri", .string e.uri),
    ("positions", encodePositions e.positions)]

/-- An entry; without positions it has none. -/
def decodeEntry : Decoder Entry := fun r => do
  let found ← collect [field "subject" decodeText, field "uri" decodeText,
    trailingField "positions" decodePositions] r
  let subject ← required decodeText found "subject"
  let uri ← required decodeText found "uri"
  let positions ← match found.lookup "positions" with
    | some r => decodePositions r
    | none => .ok SortedSet.empty
  return { subject, uri, positions }

/-- The description of a document. -/
def encodeDescription (d : Description) : Json :=
  .object [("uri", .string d.uri), ("title", .option Json.string d.title),
    ("word_count", .nat d.wordCount), ("unique_words", .nat d.uniqueWords)]

/-- The description of a document; a missing title is no title. -/
def decodeDescription : Decoder Description := fun r => do
  let found ← collect [field "uri" decodeText, field "title" (decodeOption decodeText),
    field "word_count" decodeLong, field "unique_words" decodeLong] r
  let uri ← required decodeText found "uri"
  let title ← optional decodeText found "title"
  let wordCount ← required decodeLong found "word_count"
  let uniqueWords ← required decodeLong found "unique_words"
  return { uri, title, wordCount, uniqueWords }

/-! ## Messages -/

/-- The entries of a word. -/
structure TermAnswer where
  term : String
  entries : List Entry

/-- Encodes the entries of a word. -/
def TermAnswer.encode (m : TermAnswer) : Json :=
  .object [("term", .string m.term), ("entries", .list encodeEntry m.entries)]

/-- Decodes the entries of a word. -/
def TermAnswer.decode : Decoder TermAnswer := fun r => do
  let found ← collect [field "term" decodeText, field "entries" (decodeList decodeEntry)] r
  let term ← required decodeText found "term"
  let entries ← required (decodeList decodeEntry) found "entries"
  return { term, entries }

/-- Asks for the description of a document. -/
structure DocumentQuery where
  uri : String

/-- Encodes a question for a document. -/
def DocumentQuery.encode (m : DocumentQuery) : Json := .object [("uri", .string m.uri)]

/-- Decodes a question for a document. -/
def DocumentQuery.decode : Decoder DocumentQuery := fun r => do
  let found ← collect [field "uri" decodeText] r
  return { uri := ← required decodeText found "uri" }

/-- The description of a document, if there is one. -/
structure DocumentAnswer where
  entry : Option Description

/-- Encodes the description of a document. -/
def DocumentAnswer.encode (m : DocumentAnswer) : Json :=
  .object [("entry", .option encodeDescription m.entry)]

/-- Decodes the description of a document. -/
def DocumentAnswer.decode : Decoder DocumentAnswer := fun r => do
  let found ← collect [field "entry" (decodeOption decodeDescription)] r
  return { entry := ← optional decodeDescription found "entry" }

/-- A document to take in. -/
structure AddRequest where
  uri : String
  title : Option String
  text : String

/-- Encodes a document to take in. -/
def AddRequest.encode (m : AddRequest) : Json :=
  .object [("uri", .string m.uri), ("title", .option Json.string m.title),
    ("text", .string m.text)]

/-- Decodes a document to take in. -/
def AddRequest.decode : Decoder AddRequest := fun r => do
  let found ← collect [field "uri" decodeText, field "title" (decodeOption decodeText),
    field "text" decodeText] r
  let uri ← required decodeText found "uri"
  let title ← optional decodeText found "title"
  let text ← required decodeText found "text"
  return { uri, title, text }

/-- A document taken in, and how many documents its index now has. -/
structure AddAnswer where
  index : String
  entry : Description
  documentCount : Nat

/-- Encodes the answer to a document taken in. -/
def AddAnswer.encode (m : AddAnswer) : Json :=
  .object [("index", .string m.index), ("entry", encodeDescription m.entry),
    ("document_count", .nat m.documentCount)]

/-- Decodes the answer to a document taken in. -/
def AddAnswer.decode : Decoder AddAnswer := fun r => do
  let found ← collect [field "index" decodeText, field "entry" decodeDescription,
    field "document_count" decodeLong] r
  let index ← required decodeText found "index"
  let entry ← required decodeDescription found "entry"
  let documentCount ← required decodeLong found "document_count"
  return { index, entry, documentCount }

end Concordance.Wire
