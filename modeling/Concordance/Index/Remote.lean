/-
# Concordance.Index.Remote -- an index that another node serves

A remote index is addressed as `http://host:port/name`.  Its questions go to that
node's internal interface: the words under one path, the documents under another.
A `Network` says what comes back when an address is asked; a question that gets no
answer is repeated as often as the link allows.

An answer counts only if its status says success and its body reads as the message
that was asked for; anything else is a `RemoteError`, and the lookup is aborted
with its wording.
-/
import Concordance.Lookup
import Concordance.Net.Url
import Concordance.Wire.Index

namespace Concordance.Index

open Concordance.Net Concordance.Wire

set_option autoImplicit false

/-! ## Paths -/

/-- The path under which a node serves its indexes to others. -/
def internalPath : String := "/internal/index"

/-- The path of a word of an index. -/
def termPath (index term : String) : String := internalPath ++ "/" ++ index ++ "/terms/" ++ term

/-- The path of the documents of an index. -/
def uriPath (index : String) : String := internalPath ++ "/" ++ index ++ "/uri"

/-! ## Asking other nodes -/

/-- What another node answers. -/
structure Reply where
  status : Nat
  body : Json.Reading

/-- How other nodes are reached. -/
inductive Network
  /-- Nothing runs that could send a question. -/
  | absent
  /-- The answer, if there is one, to a numbered attempt at an address. -/
  | reach (send : Nat → Url → Option Reply)

/-- A network, and how often to ask it. -/
structure Link where
  network : Network
  attempts : Nat

/-- Why a remote lookup failed. -/
inductive RemoteError
  /-- Nothing runs that could send the question. -/
  | noRuntime
  /-- A request cannot carry the address. -/
  | unsendable (url : Url)
  /-- No attempt was answered. -/
  | unreachable (url : Url)
  /-- The node does not serve that index. -/
  | indexNotFound
  /-- The node refused a question about a word. -/
  | termStatus (status : Nat)
  /-- The node refused a question about a document. -/
  | uriStatus (status : Nat)
  /-- The body of the answer is not what was asked for. -/
  | body

/-- The phrase that goes with a status. -/
def reasonPhrase (status : Nat) : String :=
  ([(100, "Continue"), (101, "Switching Protocols"), (102, "Processing"), (103, "Early Hints"),
    (200, "OK"), (201, "Created"), (202, "Accepted"), (203, "Non Authoritative Information"),
    (204, "No Content"), (205, "Reset Content"), (206, "Partial Content"), (207, "Multi-Status"),
    (208, "Already Reported"), (226, "IM Used"), (300, "Multiple Choices"),
    (301, "Moved Permanently"), (302, "Found"), (303, "See Other"), (304, "Not Modified"),
    (305, "Use Proxy"), (307, "Temporary Redirect"), (308, "Permanent Redirect"),
    (400, "Bad Request"), (401, "Unauthorized"), (402, "Payment Required"), (403, "Forbidden"),
    (404, "Not Found"), (405, "Method Not Allowed"), (406, "Not Acceptable"),
    (407, "Proxy Authentication Required"), (408, "Request Timeout"), (409, "Conflict"),
    (410, "Gone"), (411, "Length Required"), (412, "Precondition Failed"),
    (413, "Payload Too Large"), (414, "URI Too Long"), (415, "Unsupported Media Type"),
    (416, "Range Not Satisfiable"), (417, "Expectation Failed"), (418, "I'm a teapot"),
    (421, "Misdirected Request"), (422, "Unprocessable Entity"), (423, "Locked"),
    (424, "Failed Dependency"), (425, "Too Early"), (426, "Upgrade Required"),
    (428, "Precondition Required"), (429, "Too Many Requests"),
    (431, "Request Header Fields Too Large"), (451, "Unavailable For Legal Reasons"),
    (500, "Internal Server Error"), (501, "Not Implemented"), (502, "Bad Gateway"),
    (503, "Service Unavailable"), (504, "Gateway Timeout"), (505, "HTTP Version Not Supported"),
    (506, "Variant Also Negotiates"), (507, "Insufficient Storage"), (508, "Loop Detected"),
    (510, "Not Extended"), (511, "Network Authentication Required")].lookup status).getD
    "<unknown status code>"

/-- A status with its phrase. -/
def statusLine (status : Nat) : String := toString status ++ " " ++ reasonPhrase status

/-- The wording of a failed remote lookup. -/
def RemoteError.message : RemoteError → String
  | .noRuntime =>
      "no async runtime: there is no reactor running, " ++
        "must be called from the context of a Tokio 1.x runtime"
  | .unsendable url => "builder error for url (" ++ url.text ++ ")"
  | .unreachable url => "error sending request for url (" ++ url.text ++ ")"
  | .indexNotFound => "Remote index not found"
  | .termStatus status => "Term lookup failed " ++ statusLine status
  | .uriStatus status => "Uri lookup failed " ++ statusLine status
  | .body => "error decoding response body"

/-- Whether a status says success. -/
def isSuccess (status : Nat) : Bool := 200 ≤ status && status < 300

/-- Characters that an address may have in the name of its machine and a request may not. -/
def isUnsendable (c : Char) : Bool := c = '\"' || c = '\x60' || c = '\x7b' || c = '\x7d'

/-- How many bytes an address may have for a request to carry it. -/
def longestAddress : Nat := 65534

/-- Whether a request can carry an address. -/
def isSendable (url : Url) : Bool :=
  !url.machineText.toList.any isUnsendable && url.text.utf8ByteSize ≤ longestAddress

/-- Asks an address until an attempt is answered; there is at least one attempt. -/
def Link.send (link : Link) (url : Url) : Except RemoteError Reply :=
  match link.network with
  | .absent => .error .noRuntime
  | .reach send =>
      if isSendable url then
        match (List.range (max 1 link.attempts)).findSome? (fun attempt => send attempt url) with
        | some reply => .ok reply
        | none => .error (.unreachable url)
      else .error (.unsendable url)

/-! ## Remote indexes -/

/-- An index of another node: how it is written, where its node is, and its name there. -/
structure Remote where
  locator : String
  base : Url
  name : String

/-- The text without slashes at either end. -/
def trimSlashes (s : List Char) : List Char :=
  ((s.dropWhile (· = '/')).reverse.dropWhile (· = '/')).reverse

namespace Remote

/-- The remote index at an address: the path is one name, and the scheme is the web's. -/
def ofLocator? (locator : String) : Except UnknownIndex Remote :=
  match Url.ofString? locator with
  | .error cause => .error (.malformed locator cause)
  | .ok url =>
      let name := trimSlashes url.path.toList
      if name.isEmpty || name.contains '/' then .error (.unnamed locator)
      else
        match url.origin? with
        | .ok base => .ok ⟨locator, base, String.ofList name⟩
        | .error cause => .error (.malformed locator cause)

/-- Where to ask for a word. -/
def termUrl (remote : Remote) (term : String) : Url :=
  remote.base.withPath (termPath remote.name term)

/-- Where to ask for a document. -/
def documentUrl (remote : Remote) (uri : String) : Url :=
  (remote.base.withPath (uriPath remote.name)).withField "uri" uri

/-- Asks for the entries of a word. -/
def askTerm (remote : Remote) (link : Link) (term : String) : Except RemoteError (List Entry) :=
  match link.send (remote.termUrl term) with
  | .error e => .error e
  | .ok reply =>
      if reply.status = 404 then .error .indexNotFound
      else if isSuccess reply.status then
        match TermAnswer.decode reply.body with
        | .ok answer => .ok answer.entries
        | .error _ => .error .body
      else .error (.termStatus reply.status)

/-- Asks for the description of a document. -/
def askDocument (remote : Remote) (link : Link) (uri : String) :
    Except RemoteError (Option Description) :=
  match link.send (remote.documentUrl uri) with
  | .error e => .error e
  | .ok reply =>
      if isSuccess reply.status then
        match DocumentAnswer.decode reply.body with
        | .ok answer => .ok answer.entry
        | .error _ => .error .body
      else .error (.uriStatus reply.status)

end Remote

end Concordance.Index
