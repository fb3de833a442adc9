/-
# Concordance.Http.Serve -- the answers of a service

`serve` answers one request.  A path without a route is not found, a method that a
route does not answer to is not allowed, and a request that does not read is
rejected; in none of these cases anything changes.

A search whose lookup has failed has the status `Error` here, whatever its node
says.  Collecting a result stops the search from being live.
-/
import Concordance.Http.Message
import Concordance.Http.Route
import Concordance.Service
import Concordance.Wire.Search

namespace Concordance.Http

open Concordance.Index Concordance.Query Concordance.Search Concordance.Text Concordance.Wire

set_option autoImplicit false

/-! ## Searches -/

/-- The status of a search below which a lookup has failed. -/
def errorStatus : String := "Error"

/-- The status of a node as it is told, and why it failed if it did. -/
def statusOf (s : Service) (ref : NodeRef) : Service × String × Option String :=
  match (s.node? ref).map Node.isDone with
  | some (.error e) => (s, errorStatus, some e.message)
  | _ =>
      let (s, status) := s.status ref
      (s, status.name, none)

/-- Starts a search. -/
def startSearch (s : Service) (m : StartRequest) : Service × Answer :=
  match s.startSearch m.query m.indexes with
  | (s, .error e) =>
      (s, .message 400 (StartAnswer.encode
        { subject := subject m.query m.indexes, hash := none, operation := none,
          status := errorStatus, error := some e.message }))
  | (s, .ok search) =>
      let (s, status, error) := statusOf s (.root search)
      let node := (s.node? (.root search)).getD default
      (s, .message 200 (StartAnswer.encode
        { subject := node.subject, hash := some node.hash.toNat, operation := some node.operation,
          status, error }))

/-- The counters of a node, or none if a lookup failed. -/
def partsOf (node : Node) : Except Fault (Option Parts) :=
  match node.parts with
  | .ok parts => .ok (some parts)
  | .error (.search _) => .ok none
  | .error (.fault f) => .error f

/-- The progress of the nodes at some places below a search. -/
def progressOf (s : Service) (search : Nat) :
    List (List Nat) → Service × Except Fault (List PartAnswer)
  | [] => (s, .ok [])
  | path :: rest =>
      let ref : NodeRef := ⟨search, path⟩
      let (s, status, _) := statusOf s ref
      let node := (s.node? ref).getD default
      match partsOf node with
      | .error f => (s, .error f)
      | .ok parts =>
          let (s, items) := progressOf s search rest
          (s, items.map ({ subject := node.subject, status, parts } :: ·))

/-- Tells how far a search is. -/
def searchStatus (s : Service) (hash : UInt64) : Service × Except Fault Answer :=
  match s.registry.findHash? hash with
  | none => (s, .ok (.message 404 .null))
  | some search =>
      let (s, status, error) := statusOf s (.root search)
      let node := (s.node? (.root search)).getD default
      let (s, items) := progressOf s search node.subProgress
      (s, do
        let subProgress ← items
        let parts ← partsOf node
        return .message 200 (StatusAnswer.encode
          { subject := node.subject, hash := hash.toNat, status, parts, subProgress, error }))

/-- Lists the live searches. -/
def listSearches (s : Service) : Service × Answer :=
  let (s, summaries) := s.live.foldl (fun (acc : Service × List Summary) search =>
    let (s, status, _) := statusOf acc.1 (.root search)
    let node := (s.node? (.root search)).getD default
    let summary : Summary :=
      { subject := node.subject, hash := node.hash.toNat, operation := node.operation, status }
    (s, acc.2 ++ [summary])) (s, [])
  (s, .message 200 (ListAnswer.encode { count := summaries.length, searches := summaries }))

/-! ## Results -/

/-- The description of a document in the first index that has one. -/
def describeFirst (catalog : Catalog) (uri : String) : List Backend → Option Description
  | [] => none
  | backend :: rest =>
      match (catalog.describe backend uri).result with
      | .ok (some (some description)) => some description
      | _ => describeFirst catalog uri rest

/-- The backends of those locators that name an index. -/
def knownBackends (s : Service) : List String → Service × List Backend
  | [] => (s, [])
  | locator :: rest =>
      match s.resolve locator with
      | (s, .ok backend) =>
          let (s, backends) := knownBackends s rest
          (s, backend :: backends)
      | (s, .error _) => knownBackends s rest

/-- One page of a result, with what the searched indexes know of its documents. -/
def resultItems (catalog : Catalog) (backends : List Backend) (page : Page) (set : ResultSet) :
    List ResultItem :=
  ((set.toList.drop page.offset).take page.limit).map (fun entry =>
    let found := describeFirst catalog entry.uri backends
    { uri := entry.uri, title := found.bind Description.title,
      wordCount := found.map Description.wordCount, positions := entry.positions.toList })

/-- Collects the result of a search. -/
def searchResult (s : Service) (hash : UInt64) (page : Page) : Service × Except Fault Answer :=
  match s.registry.findHash? hash with
  | none => (s, .ok (.message 404 .null))
  | some search =>
      let ref := NodeRef.root search
      let node := (s.node? ref).getD default
      let (s, result) := s.result ref
      let without (status : String) (error : Option String) : Json :=
        ResultAnswer.encode { subject := node.subject, status, totalCount := 0, count := 0,
                              results := [], error }
      match result with
      | .error (.fault f) => (s, .error f)
      | .error (.search e) => (s, .ok (.message 502 (without errorStatus (some e.message))))
      | .ok none =>
          let (s, status) := s.status ref
          (s, .ok (.message 202 (without status.name none)))
      | .ok (some set) =>
          let (s, backends) := knownBackends s (splitLocators node.locators)
          let results := resultItems s.catalog backends page set
          let (s, status) := s.status ref
          (s, .ok (.message 200 (ResultAnswer.encode
            { subject := node.subject, status := status.name, totalCount := set.size,
              count := results.length, results, error := none })))

/-! ## Indexes -/

/-- Takes a document in; its name must not be blank. -/
def addDocument (s : Service) (index : String) (m : AddRequest) : Service × Answer :=
  let uri := trim m.uri
  if uri.isEmpty then (s, .message 400 .null)
  else
    let (catalog, entry) := s.catalog.addDocument index uri m.title m.text
    ({ s with catalog }, .message 201 (AddAnswer.encode
      { index, entry, documentCount := (catalog.localIndex index).documentCount }))

/-- The entries of a word in an index of this node. -/
def terms (s : Service) (index term : String) : Answer :=
  let term := lowercase term
  match s.catalog.local? index with
  | some memory => .message 200 (TermAnswer.encode { term, entries := memory.lookup term })
  | none => .message 404 (TermAnswer.encode { term, entries := [] })

/-- The description of a document in an index of this node. -/
def document (s : Service) (index uri : String) : Answer :=
  match s.catalog.local? index with
  | some memory => .message 200 (DocumentAnswer.encode { entry := memory.description? uri })
  | none => .message 404 (DocumentAnswer.encode { entry := none })

/-! ## Requests -/

/-- Answers a request that reads, or rejects it. -/
def dispatch (s : Service) (r : Request) (query : List Char) :
    Route → Except Rejection (Service × Except Fault Answer)
  | .startSearch => do
      let (s, answer) := startSearch s (← readBody StartRequest.decode r)
      return (s, .ok answer)
  | .searchStatus hash => do return searchStatus s (← pathWord hash)
  | .searchResult hash => do return searchResult s (← pathWord hash) (← readPage query)
  | .searches =>
      let (s, answer) := listSearches s
      .ok (s, .ok answer)
  | .addDocument index => do
      let index ← pathText index
      let (s, answer) := addDocument s index (← readBody AddRequest.decode r)
      return (s, .ok answer)
  | .terms index term => do return (s, .ok (terms s (← pathText index) (← pathText term)))
  | .document index => do
      let index ← pathText index
      return (s, .ok (document s index (← readRequired query "uri")))

/-- Answers a request. A request for the head of an answer gets its status alone. -/
def serve (s : Service) (r : Request) : Service × Except Fault Answer :=
  let (path, query) := splitTarget r.target
  match Route.ofPath? path with
  | none => (s, .ok (.refusal 404 false))
  | some route =>
      let isHead := r.method = "HEAD" && route.method = "GET"
      if r.method = route.method || isHead then
        match dispatch s r query route with
        | .error rejection => (s, .ok (if isHead then rejection.answer.head else rejection.answer))
        | .ok (s, .ok answer) => (s, .ok (if isHead then answer.head else answer))
        | .ok (s, .error fault) => (s, .error fault)
      else (s, .ok (.refusal 405 false))

end Concordance.Http
