/-
# Concordance.Service -- a node at work

A service knows indexes, keeps every search it ever opened, and knows which of them
are live.  Two equal searches share one tree while it is live; a search stops being
live when its result has been worked out, when it is removed, or when everything is
cleared.

Every operation is a function from a service to a service and an answer.  What
holders of lookups do (`complete`, `abort`, `report`) reaches every tree at once.
-/
import Concordance.Search.Dispatch
import Concordance.Search.Registry

namespace Concordance

open Concordance.Data Concordance.Index Concordance.Query Concordance.Search

set_option autoImplicit false

/-- The indexes of a node, its searches by number, which of them are live, everything it ever asked
an index for a search, and how many holders it has taken on. -/
structure Service where
  catalog : Catalog
  searches : Array Node
  registry : Registry
  asked : List Asked
  holders : Nat

namespace Service

/-- A service without indexes and searches. -/
def start (link : Link) : Service := ⟨Catalog.empty link, #[], Registry.empty, [], 0⟩

/-! ## Indexes -/

/-- Registers a new holder of lookups under a locator, and gives its serial number. -/
def register (s : Service) (locator : String)
    (describe : String → Except String (Option Description)) : Service × Nat :=
  ({ s with catalog := s.catalog.register locator (.external s.holders describe)
            holders := s.holders + 1 }, s.holders)

/-- The index that a locator names. -/
def resolve (s : Service) (locator : String) : Service × Except SearchError Backend :=
  match s.catalog.resolve locator with
  | .ok (catalog, backend) => ({ s with catalog }, .ok backend)
  | .error e => (s, .error (.unknownIndex e))

/-- The words that a holder was asked for, in order. -/
def askedOf (s : Service) (serial : Nat) : List String :=
  (s.asked.filter (fun asked => asked.holder = some serial)).map Asked.term

/-! ## Nodes -/

/-- The node at a place. -/
def node? (s : Service) (ref : NodeRef) : Option Node :=
  (s.searches[ref.search]?).bind (Node.at? ref.path)

/-- Changes the node at a place. -/
def modify (s : Service) (ref : NodeRef) (f : Node → Node) : Service :=
  { s with searches := s.searches.modify ref.search (Node.modify f ref.path) }

/-- Asks for the status of the node at a place. -/
def status (s : Service) (ref : NodeRef) : Service × Status :=
  let s := s.modify ref Node.refresh
  (s, ((s.node? ref).map (fun n => n.memo.status)).getD .unstarted)

/-- Takes a node out of the registry, if it is a live search. -/
def remove (s : Service) (ref : NodeRef) : Service :=
  match s.node? ref with
  | some n => { s with registry := s.registry.remove n.subject n.hash ref }
  | none => s

/-- Asks for the result of the node at a place. Working a result out takes the node out of the
registry. Taking out the nodes below it too, of which it is worked out, comes to the same
(`result_evicting`). -/
def result (s : Service) (ref : NodeRef) : Service × Except Failure (Option ResultSet) :=
  match s.node? ref with
  | none => (s, .ok none)
  | some n =>
      let s := if n.isCollectable then s.remove ref else s
      let (n', answer) := n.take
      (s.modify ref (fun _ => n'), answer)

/-! ## Searches -/

/-- Opens a search for a query that is in lower case and trimmed, without making it live. -/
def openSearch (s : Service) (query : String) (locators : List String) :
    Service × Except SearchError Nat :=
  let opened := Search.openSearch s.catalog query locators
  let s := { s with catalog := opened.catalog, asked := s.asked ++ opened.asked }
  match opened.search with
  | .error e => (s, .error e)
  | .ok node => ({ s with searches := s.searches.push node }, .ok s.searches.size)

/-- Opens a search for a query and locators as they are typed, without making it live. -/
def parse (s : Service) (query locators : String) : Service × Except SearchError Nat :=
  s.openSearch (normalize query) (splitLocators locators)

/-- The live search for a query and locators as they are typed, opened if there is none. -/
def startSearch (s : Service) (query locators : String) : Service × Except SearchError Nat :=
  let subject := canonicalSubject query locators
  match s.registry.find? subject with
  | some search => (s, .ok search)
  | none =>
      match s.parse query locators with
      | (s, .error e) => (s, .error e)
      | (s, .ok search) =>
          let hash := ((s.node? (.root search)).map Node.hash).getD 0
          ({ s with registry := s.registry.file subject hash search }, .ok search)

/-- The live search for a query and locators as they are typed. -/
def find? (s : Service) (query locators : String) : Option Nat :=
  s.registry.find? (canonicalSubject query locators)

/-- The live searches, in the order of their names. -/
def live (s : Service) : List Nat := s.registry.toList.map Prod.snd

/-- Makes every search stop being live. -/
def clear (s : Service) : Service := { s with registry := Registry.empty }

/-! ## Single questions -/

/-- Asks the index that a locator names for one word. -/
def askTerm (s : Service) (locator term : String) :
    Service × Except SearchError (Lookup (List Entry)) :=
  match s.resolve locator with
  | (s, .error e) => (s, .error e)
  | (s, .ok backend) =>
      let lookup := s.catalog.ask backend term
      let leaf := Node.leaf term locator backend.holder? lookup Memo.fresh
      ({ s with searches := s.searches.push leaf
                asked := s.asked ++ [⟨locator, backend.holder?, term⟩] }, .ok lookup)

/-- Asks the index that a locator names for one document. -/
def askDocument (s : Service) (locator uri : String) :
    Service × Except SearchError (Lookup (Option Description)) :=
  match s.resolve locator with
  | (s, .error e) => (s, .error e)
  | (s, .ok backend) => (s, .ok (s.catalog.describe backend uri))

/-! ## Holders of lookups -/

/-- Changes every open lookup of a holder, of one word or of any, and counts them. -/
def onOpen (s : Service) (serial : Nat) (term : Option String)
    (f : Lookup (List Entry) → Lookup (List Entry)) : Service × Nat :=
  ({ s with searches := s.searches.map (Node.onOpen serial term f) },
    s.searches.foldl (fun n node => n + node.openCount serial term) 0)

/-- A holder completes its open lookups of a word. -/
def complete (s : Service) (serial : Nat) (term : String) (entries : List Entry) : Service × Nat :=
  s.onOpen serial (some term) (fun l => l.complete entries)

/-- A holder aborts its open lookups of a word. -/
def abort (s : Service) (serial : Nat) (term reason : String) : Service × Nat :=
  s.onOpen serial (some term) (fun l => l.abort reason)

/-- A holder lets go of its open lookups of a word. -/
def drop (s : Service) (serial : Nat) (term : String) : Service × Nat :=
  s.onOpen serial (some term) Lookup.drop

/-- A holder reports progress on its open lookups of a word. -/
def report (s : Service) (serial : Nat) (term : String) (parts : Parts) : Service × Nat :=
  s.onOpen serial (some term) (fun l => l.report parts)

/-- A holder lets go of everything. -/
def abandon (s : Service) (serial : Nat) : Service := (s.onOpen serial none Lookup.drop).1

end Service

end Concordance
