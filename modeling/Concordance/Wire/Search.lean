/-
# Concordance.Wire.Search -- what a node says about its searches

Messages of the public interface: start a search, follow it, collect its result,
list what is running.  Hashes and counts are 64-bit words.
-/
import Concordance.Progress
import Concordance.Search.ResultSet
import Concordance.Status
import Concordance.Wire.Index

namespace Concordance.Wire

open Concordance.Data Concordance.Json Concordance.Search

set_option autoImplicit false

/-! ## Parts of messages -/

/-- The name of an operation. -/
def encodeOperation (op : Operation) : Json := .string op.name

/-- An operation by its name. -/
def decodeOperation : Decoder Operation := decodeName Operation.ofName?

/-- The name of a status. -/
def encodeStatus (status : Status) : Json := .string status.name

/-- A status by its name. -/
def decodeStatus : Decoder Status := decodeName Status.ofName?

/-- Completion counters. -/
def encodeParts (p : Parts) : Json :=
  .object [("done", .nat p.done.toNat), ("total", .nat p.total.toNat), ("total_final", .bool p.final)]

/-- Completion counters. -/
def decodeParts : Decoder Parts := fun r => do
  let found ← collect [field "done" decodeWord, field "total" decodeWord,
    field "total_final" decodeBool] r
  let done ← required decodeWord found "done"
  let total ← required decodeWord found "total"
  let final ← required decodeBool found "total_final"
  return ⟨done, total, final⟩

/-- A result set, by document. -/
def encodeResultSet (s : ResultSet) : Json :=
  .object [("subject", .string s.subject),
    ("entries", .object (s.entries.toList.map (fun p => (p.1, encodeEntry p.2))))]

/-- A result set, by document. -/
def decodeResultSet : Decoder ResultSet := fun r => do
  let found ← collect [field "subject" decodeText, field "entries" (decodeMap decodeEntry)] r
  let subject ← required decodeText found "subject"
  let entries ← required (decodeMap decodeEntry) found "entries"
  return ⟨subject, SortedMap.ofList entries⟩

/-! ## Messages -/

/-- A query and the indexes to put it to. -/
structure StartRequest where
  query : String
  indexes : String

/-- Encodes a search to start. -/
def StartRequest.encode (m : StartRequest) : Json :=
  .object [("query", .string m.query), ("indexes", .string m.indexes)]

/-- Decodes a search to start. -/
def StartRequest.decode : Decoder StartRequest := fun r => do
  let found ← collect [field "query" decodeText, field "indexes" decodeText] r
  let query ← required decodeText found "query"
  let indexes ← required decodeText found "indexes"
  return { query, indexes }

/-- A search that was started, or the reason why not. -/
structure StartAnswer where
  subject : String
  hash : Option Nat
  operation : Option Operation
  status : String
  error : Option String

/-- Encodes the answer to a search to start. -/
def StartAnswer.encode (m : StartAnswer) : Json :=
  .object [("subject", .string m.subject), ("hash", .option Json.nat m.hash),
    ("operation", .option encodeOperation m.operation), ("status", .string m.status),
    ("error", .option Json.string m.error)]

/-- Decodes the answer to a search to start. -/
def StartAnswer.decode : Decoder StartAnswer := fun r => do
  let found ← collect [field "subject" decodeText, field "hash" (decodeOption decodeLong),
    field "operation" (decodeOption decodeOperation), field "status" decodeText,
    field "error" (decodeOption decodeText)] r
  let subject ← required decodeText found "subject"
  let hash ← optional decodeLong found "hash"
  let operation ← optional decodeOperation found "operation"
  let status ← required decodeText found "status"
  let error ← optional decodeText found "error"
  return { subject, hash, operation, status, error }

/-- The progress of one part of a search. -/
structure PartAnswer where
  subject : String
  status : String
  parts : Option Parts

/-- Encodes the progress of a part. -/
def PartAnswer.encode (m : PartAnswer) : Json :=
  .object [("subject", .string m.subject), ("status", .string m.status),
    ("parts", .option encodeParts m.parts)]

/-- Decodes the progress of a part. -/
def PartAnswer.decode : Decoder PartAnswer := fun r => do
  let found ← collect [field "subject" decodeText, field "status" decodeText,
    field "parts" (decodeOption decodeParts)] r
  let subject ← required decodeText found "subject"
  let status ← required decodeText found "status"
  let parts ← optional decodeParts found "parts"
  return { subject, status, parts }

/-- How far a search is. -/
structure StatusAnswer where
  subject : String
  hash : Nat
  status : String
  parts : Option Parts
  subProgress : List PartAnswer
  error : Option String

/-- Encodes how far a search is. -/
def StatusAnswer.encode (m : StatusAnswer) : Json :=
  .object [("subject", .string m.subject), ("hash", .nat m.hash), ("status", .string m.status),
    ("parts", .option encodeParts m.parts), ("sub_progress", .list PartAnswer.encode m.subProgress),
    ("error", .option Json.string m.error)]

/-- Decodes how far a search is. -/
def StatusAnswer.decode : Decoder StatusAnswer := fun r => do
  let found ← collect [field "subject" decodeText, field "hash" decodeLong,
    field "status" decodeText, field "parts" (decodeOption decodeParts),
    field "sub_progress" (decodeList PartAnswer.decode), field "error" (decodeOption decodeText)] r
  let subject ← required decodeText found "subject"
  let hash ← required decodeLong found "hash"
  let status ← required decodeText found "status"
  let parts ← optional decodeParts found "parts"
  let subProgress ← required (decodeList PartAnswer.decode) found "sub_progress"
  let error ← optional decodeText found "error"
  return { subject, hash, status, parts, subProgress, error }

/-- One document of a result. -/
structure ResultItem where
  uri : String
  title : Option String
  wordCount : Option Nat
  positions : List UInt32

/-- Encodes one document of a result. -/
def ResultItem.encode (m : ResultItem) : Json :=
  .object [("uri", .string m.uri), ("title", .option Json.string m.title),
    ("word_count", .option Json.nat m.wordCount),
    ("positions", .list (fun p => Json.nat p.toNat) m.positions)]

/-- Decodes one document of a result. -/
def ResultItem.decode : Decoder ResultItem := fun r => do
  let found ← collect [field "uri" decodeText, field "title" (decodeOption decodeText),
    field "word_count" (decodeOption decodeLong), field "positions" (decodeList decodeWord)] r
  let uri ← required decodeText found "uri"
  let title ← optional decodeText found "title"
  let wordCount ← optional decodeLong found "word_count"
  let positions ← required (decodeList decodeWord) found "positions"
  return { uri, title, wordCount, positions }

/-- One page of a result. -/
structure ResultAnswer where
  subject : String
  status : String
  totalCount : Nat
  count : Nat
  results : List ResultItem
  error : Option String

/-- Encodes one page of a result. -/
def ResultAnswer.encode (m : ResultAnswer) : Json :=
  .object [("subject", .string m.subject), ("status", .string m.status),
    ("total_count", .nat m.totalCount), ("count", .nat m.count),
    ("results", .list ResultItem.encode m.results), ("error", .option Json.string m.error)]

/-- Decodes one page of a result. -/
def ResultAnswer.decode : Decoder ResultAnswer := fun r => do
  let found ← collect [field "subject" decodeText, field "status" decodeText,
    field "total_count" decodeLong, field "count" decodeLong,
    field "results" (decodeList ResultItem.decode), field "error" (decodeOption decodeText)] r
  let subject ← required decodeText found "subject"
  let status ← required decodeText found "status"
  let totalCount ← required decodeLong found "total_count"
  let count ← required decodeLong found "count"
  let results ← required (decodeList ResultItem.decode) found "results"
  let error ← optional decodeText found "error"
  return { subject, status, totalCount, count, results, error }

/-- One live search. -/
structure Summary where
  subject : String
  hash : Nat
  operation : Operation
  status : String

/-- Encodes one live search. -/
def Summary.encode (m : Summary) : Json :=
  .object [("subject", .string m.subject), ("hash", .nat m.hash),
    ("operation", encodeOperation m.operation), ("status", .string m.status)]

/-- Decodes one live search. -/
def Summary.decode : Decoder Summary := fun r => do
  let found ← collect [field "subject" decodeText, field "hash" decodeLong,
    field "operation" decodeOperation, field "status" decodeText] r
  let subject ← required decodeText found "subject"
  let hash ← required decodeLong found "hash"
  let operation ← required decodeOperation found "operation"
  let status ← required decodeText found "status"
  return { subject, hash, operation, status }

/-- Every live search. -/
structure ListAnswer where
  count : Nat
  searches : List Summary

/-- Encodes every live search. -/
def ListAnswer.encode (m : ListAnswer) : Json :=
  .object [("count", .nat m.count), ("searches", .list Summary.encode m.searches)]

/-- Decodes every live search. -/
def ListAnswer.decode : Decoder ListAnswer := fun r => do
  let found ← collect [field "count" decodeLong, field "searches" (decodeList Summary.decode)] r
  let count ← required decodeLong found "count"
  let searches ← required (decodeList Summary.decode) found "searches"
  return { count, searches }

end Concordance.Wire
