/-
# Concordance.Index.Catalog -- which index a locator names

A node holds indexes of its own, each under a name, and knows backends, each under
a locator.  Creating an index of its own files a backend of the same name; anybody
may register another backend under any locator.  A locator that is the address of a
remote index becomes a backend the first time it is asked for.
-/
import Concordance.Index.Memory
import Concordance.Index.Remote

namespace Concordance.Index

open Concordance.Data

set_option autoImplicit false

/-- Whoever answers the lookups of an index. -/
inductive Backend
  /-- An index of this node. -/
  | held (name : String)
  /-- Somebody else, known by a serial number: lookups of words stay open until they are resolved,
  and documents are described at once. -/
  | external (serial : Nat) (describe : String → Except String (Option Description))
  /-- An index of another node. -/
  | remote (remote : Remote)

/-- The serial number of whoever resolves the lookups of words, unless they resolve at once. -/
def Backend.holder? : Backend → Option Nat
  | .external serial _ => some serial
  | _ => none

/-- The indexes of a node, the backends it knows, and how it reaches other nodes. -/
structure Catalog where
  locals : SortedMap String Memory
  backends : SortedMap String Backend
  link : Link

namespace Catalog

/-- A catalog that lists nothing. -/
def empty (link : Link) : Catalog := ⟨SortedMap.empty, SortedMap.empty, link⟩

/-! ## Backends -/

/-- Files a backend under a locator, replacing any other. -/
def register (c : Catalog) (locator : String) (backend : Backend) : Catalog :=
  { c with backends := c.backends.insert locator backend }

/-- The locators of every backend, in order. -/
def locators (c : Catalog) : List String := c.backends.keys

/-- How many backends there are. -/
def size (c : Catalog) : Nat := c.backends.size

/-- Whether there are no backends. -/
def isEmpty (c : Catalog) : Bool := c.backends.isEmpty

/-- Whether a locator is written as an address of the web. -/
def isAddress (locator : String) : Bool :=
  "http://".toList.isPrefixOf locator.toList || "https://".toList.isPrefixOf locator.toList

/-- The backend of a locator. An address that is not listed yet is listed with its backend. -/
def resolve (c : Catalog) (locator : String) : Except UnknownIndex (Catalog × Backend) :=
  match c.backends.find? locator with
  | some backend => .ok (c, backend)
  | none =>
      if isAddress locator then
        match Remote.ofLocator? locator with
        | .ok remote => .ok (c.register locator (.remote remote), .remote remote)
        | .error e => .error e
      else .error (.unlisted locator)

/-- The backends of the locators, in order; the first that names no index ends the matter. -/
def resolveAll (c : Catalog) : List String → Catalog × Except UnknownIndex (List Backend)
  | [] => (c, .ok [])
  | locator :: rest =>
      match c.resolve locator with
      | .error e => (c, .error e)
      | .ok (c', backend) =>
          let (c'', found) := c'.resolveAll rest
          (c'', found.map (backend :: ·))

/-! ## The node's own indexes -/

/-- The node's own index of that name. -/
def local? (c : Catalog) (name : String) : Option Memory := c.locals.find? name

/-- The catalog with an index of that name, created and filed as a backend if need be. -/
def localOrCreate (c : Catalog) (name : String) : Catalog :=
  if c.locals.contains name then c
  else { c with locals := c.locals.insert name Memory.empty,
                backends := c.backends.insert name (.held name) }

/-- The node's own index of that name, empty if there is none. -/
def localIndex (c : Catalog) (name : String) : Memory := (c.local? name).getD Memory.empty

/-- Puts an index under a name that is one of the node's own. -/
def putLocal (c : Catalog) (name : String) (index : Memory) : Catalog :=
  let c := c.localOrCreate name
  { c with locals := c.locals.insert name index }

/-- Adds a document to the index of that name, created if need be. -/
def addDocument (c : Catalog) (name uri : String) (title : Option String) (text : String) :
    Catalog × Description :=
  let (index, description) := (c.localIndex name).add uri title text
  (c.putLocal name index, description)

/-- Removes a document from the index of that name, if there is such an index. -/
def removeDocument (c : Catalog) (name uri : String) : Option (Catalog × Bool) :=
  (c.local? name).map (fun index =>
    let (index, removed) := index.remove uri
    (c.putLocal name index, removed))

/-! ## Lookups -/

/-- Looks a word up. -/
def ask (c : Catalog) (backend : Backend) (term : String) : Lookup (List Entry) :=
  match backend with
  | .held name => .answered term (.ok ((c.localIndex name).lookup term))
  | .external _ _ => .fresh term
  | .remote remote =>
      .answered term ((remote.askTerm c.link term).mapError RemoteError.message)

/-- Looks a document up. -/
def describe (c : Catalog) (backend : Backend) (uri : String) : Lookup (Option Description) :=
  match backend with
  | .held name => .answered uri (.ok ((c.localIndex name).description? uri))
  | .external _ describe => .answered uri (describe uri)
  | .remote remote =>
      .answered uri ((remote.askDocument c.link uri).mapError RemoteError.message)

end Catalog

end Concordance.Index
