/-
# Concordance.Error -- why a search is refused, fails or stops

Three kinds of trouble are kept apart.

* A search is *refused* when its query or its indexes cannot be made sense of
  (`ParseError`, `UnknownIndex`).  Nothing has been looked up yet.
* A search is *aborted* when a lookup below it fails.  The abort carries what was
  being looked up and the words of whoever gave up.
* A *fault* is a broken promise: a state that callers of an operation rule out.

Every cause is a constructor; the wording of all of them is in the `message`
functions of this module.
-/
import Concordance.Operation

namespace Concordance

set_option autoImplicit false

/-! ## Refusals -/

/-- What is wrong with a query. -/
inductive ParseError
  /-- Nothing but blanks. -/
  | blank
  /-- No index to search. -/
  | noIndex
  /-- A dash with nothing behind it. -/
  | danglingDash
  /-- A quote that is never closed. -/
  | unclosedQuote
  /-- Text right behind a closing quote. -/
  | textAfterQuote
  /-- Text right before an opening quote. -/
  | textBeforeQuote
  /-- A word inside quotes that is no query word. -/
  | phraseWord (word : String)
  /-- A word outside quotes that is no query word. -/
  | termWord (word : String)
  /-- A dash with nothing to exclude from. -/
  | negationFirst
  /-- A connective with nothing behind it. -/
  | connectiveLast
  /-- No tokens at all. -/
  | emptySubQuery
  /-- An exclusion of nothing. -/
  | nothingToNegate (query : String)
  /-- Operands side by side. -/
  | unsplittable (query : String)
  /-- An operation on too many or too few operands. -/
  | arity (op : Operation) (operands : Nat)
  /-- A leaf that is to have children. -/
  | termBranch
  /-- Any other cause, given in words. -/
  | stated (text : String)
  deriving DecidableEq, Repr

/-- Says what is wrong with an operation on that many operands. -/
def arityMessage (op : Operation) (operands : Nat) : String :=
  op.name ++ " cannot be built from " ++ toString operands ++ " operand(s)"

/-- The wording of a refused query. -/
def ParseError.message : ParseError → String
  | .blank => "Blank search"
  | .noIndex => "Attempt to start search with no index or terms"
  | .danglingDash => "dangling '-' in query"
  | .unclosedQuote => "unclosed quote in query"
  | .textAfterQuote => "quoted phrase must be followed by whitespace"
  | .textBeforeQuote => "quoted phrase must be preceded by whitespace"
  | .phraseWord word => "unsupported characters in phrase word '" ++ word ++ "'"
  | .termWord word => "unsupported characters in term '" ++ word ++ "'"
  | .negationFirst => "negation needs a preceding term to exclude from"
  | .connectiveLast => "query ends with a connective"
  | .emptySubQuery => "empty sub-query"
  | .nothingToNegate query => "nothing to negate in '" ++ query ++ "'"
  | .unsplittable query => "cannot split query '" ++ query ++ "'"
  | .arity op operands => arityMessage op operands
  | .termBranch => "Term nodes wrap a lookup, not children"
  | .stated text => text

/-- What is wrong with the address of an index on another node. -/
inductive AddressError
  /-- No scheme, so nothing to resolve the address against. -/
  | relative
  /-- No host where one is needed. -/
  | emptyHost
  /-- A port that is no number below 65536. -/
  | port
  /-- A host in brackets that is no IPv6 address. -/
  | ipv6
  /-- A host that ends in a number and is no IPv4 address. -/
  | ipv4
  /-- A host that is no domain name. -/
  | domain
  /-- A host with a character that no host may hold. -/
  | hostCharacter
  deriving DecidableEq, Repr

/-- The wording of a malformed address. -/
def AddressError.message : AddressError → String
  | .relative => "relative URL without a base"
  | .emptyHost => "empty host"
  | .port => "invalid port number"
  | .ipv6 => "invalid IPv6 address"
  | .ipv4 => "invalid IPv4 address"
  | .domain => "invalid international domain name"
  | .hostCharacter => "invalid domain character"

/-- Why a locator names no index. -/
inductive UnknownIndex
  /-- The catalog does not list it. -/
  | unlisted (locator : String)
  /-- It is a malformed address. -/
  | malformed (locator : String) (cause : AddressError)
  /-- It is an address with no index name, or with more than one. -/
  | unnamed (locator : String)
  deriving DecidableEq, Repr

/-- The wording of a locator that names no index. -/
def UnknownIndex.message : UnknownIndex → String
  | .unlisted locator => locator
  | .malformed locator cause => locator ++ ": " ++ cause.message
  | .unnamed locator => locator ++ ": expected http://host:port/<index>"

/-- Why a search is refused, or why it failed. -/
inductive SearchError
  | parse (cause : ParseError)
  | unknownIndex (cause : UnknownIndex)
  | abort (subject reason : String)
  deriving DecidableEq, Repr

namespace SearchError

/-- The wording of an error. -/
def message : SearchError → String
  | .parse cause => "invalid search: " ++ cause.message
  | .unknownIndex cause => "unknown index: " ++ cause.message
  | .abort subject reason => "search aborted (" ++ subject ++ "): " ++ reason

/-- Whether the search was refused before anything was looked up. -/
def isRefusal : SearchError → Bool
  | .parse _ | .unknownIndex _ => true
  | .abort _ _ => false

/-- Whether a lookup failed. -/
def isAbort : SearchError → Bool
  | .abort _ _ => true
  | _ => false

end SearchError

/-! ## Faults -/

/-- A state that the callers of an operation rule out. -/
inductive Fault
  /-- Results to combine, in a number the operation cannot take. -/
  | operands (op : Operation)
  /-- A node that reports to be done and has no result. -/
  | resultMissing (subject : String)
  /-- A sum of counters beyond 32 bits. -/
  | counterOverflow
  deriving DecidableEq, Repr

/-- The wording of a fault. -/
def Fault.message : Fault → String
  | .operands .term => "Term combines exactly one backend result"
  | .operands .phrase => "Phrase needs at least two words"
  | .operands .difference => "Difference needs exactly two operands"
  | .operands op => op.name ++ " needs at least two operands"
  | .resultMissing subject => subject ++ " reported done but has no result"
  | .counterOverflow => "attempt to add with overflow"

/-- Why an operation gave no value: the search failed, or a promise was broken. -/
inductive Failure
  | search (e : SearchError)
  | fault (f : Fault)
  deriving DecidableEq, Repr

end Concordance
