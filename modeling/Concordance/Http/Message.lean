/-
# Concordance.Http.Message -- requests, answers, and what is read from a request

A request has a method, a target (a path, perhaps with a scheme and a machine before
it and a query after a question mark) and a body.  An answer is a message in JSON, or
a refusal by status alone.

What a request carries is read strictly: a part that does not read as what it has
to be gives a `Rejection`, and nothing is done.
-/
import Concordance.Json.Decode
import Concordance.Net.Form
import Concordance.Net.MediaType
import Concordance.Net.Numeral

namespace Concordance.Http

open Concordance.Json Concordance.Net Concordance.Text

set_option autoImplicit false

/-! ## Messages -/

/-- A request. -/
structure Request where
  method : String
  target : String
  contentType : Option String
  body : String

/-- An answer. -/
inductive Answer
  | message (status : Nat) (body : Json)
  /-- No message; `explained` says whether there is a text for people to read. -/
  | refusal (status : Nat) (explained : Bool)

/-- An answer without what it carries. -/
def Answer.head : Answer → Answer
  | .message status _ => .refusal status false
  | .refusal status _ => .refusal status false

/-- What is wrong with a request that goes to the right place. -/
inductive Rejection
  /-- A parameter in the path or in the query does not read. -/
  | parameter
  /-- The body is not said to be JSON. -/
  | mediaType
  /-- The body is longer than any that is read. -/
  | tooLong
  /-- The body is malformed. -/
  | malformed
  /-- The body is well-formed and of the wrong shape. -/
  | shape
  deriving DecidableEq, Repr

/-- The status of a rejection. -/
def Rejection.status : Rejection → Nat
  | .parameter => 400
  | .mediaType => 415
  | .tooLong => 413
  | .malformed => 400
  | .shape => 422

/-- The answer to a rejected request. -/
def Rejection.answer (r : Rejection) : Answer := .refusal r.status true

/-! ## Targets -/

/-- Characters of the scheme that a target may begin with. -/
def isSchemeChar (c : Char) : Bool := c.isAlphanum || c = '+' || c = '-' || c = '.'

/-- Characters that end the name of a machine. -/
def endsMachine (c : Char) : Bool := c = '/' || c = '?' || c = '#'

/-- A target without the scheme and the machine, which may stand in front of the path. Whichever
machine is named, the request is answered here. -/
def withoutMachine (target : List Char) : List Char :=
  match target.dropWhile isSchemeChar with
  | ':' :: '/' :: '/' :: rest => rest.dropWhile (fun c => !endsMachine c)
  | _ => target

/-- A target that begins with its path is taken as it is. -/
theorem withoutMachine_slash (rest : List Char) : withoutMachine ('/' :: rest) = '/' :: rest := by
  have stops : isSchemeChar '/' = false := by decide
  simp [withoutMachine, List.dropWhile, stops]

/-- The path of a target, and its query. A fragment is dropped. -/
def splitTarget (target : String) : List Char × List Char :=
  let (front, _) := splitOnce '#' (withoutMachine target.toList)
  let (path, query) := splitOnce '?' front
  (path, query.getD [])

/-- A parameter in the path. -/
def pathText (segment : List Char) : Except Rejection String :=
  match decodeStrict (percentDecode (utf8 segment)) with
  | some text => .ok text
  | none => .error .parameter

/-- A 64-bit parameter in the path. -/
def pathWord (segment : List Char) : Except Rejection UInt64 := do
  match readCount UInt64.size (← pathText segment).toList with
  | some n => return UInt64.ofNat n
  | none => .error .parameter

/-- The value of a field of a query; a field must not come twice. -/
def queryField (fields : List (String × String)) (name : String) :
    Except Rejection (Option String) :=
  match fields.filter (fun f => f.1 = name) with
  | [] => .ok none
  | [f] => .ok (some f.2)
  | _ => .error .parameter

/-- The value of a field of a query, read with `read?`. -/
def queryValue {α : Type} (fields : List (String × String)) (name : String)
    (read? : String → Option α) : Except Rejection (Option α) := do
  match ← queryField fields name with
  | none => return none
  | some text =>
      match read? text with
      | some value => return some value
      | none => .error .parameter

/-- A number in a query. -/
def readWord? (text : String) : Option Nat := readCount UInt64.size text.toList

/-- A truth value in a query. -/
def readBool? (text : String) : Option Bool :=
  if text = "true" then some true else if text = "false" then some false else none

/-- Which part of a result is asked for. -/
structure Page where
  limit : Nat
  offset : Nat
  deriving DecidableEq, Repr

/-- The page that a query asks for: the first ten documents unless it says otherwise. Asking to
wait is allowed and changes nothing here, where nothing happens between two requests. -/
def readPage (query : List Char) : Except Rejection Page := do
  let fields := readForm query
  let limit ← queryValue fields "limit" readWord?
  let offset ← queryValue fields "offset" readWord?
  let _wait ← queryValue fields "wait" readBool?
  return ⟨limit.getD 10, offset.getD 0⟩

/-- A field that a query must have. -/
def readRequired (query : List Char) (name : String) : Except Rejection String := do
  match ← queryField (readForm query) name with
  | some value => return value
  | none => .error .parameter

/-! ## Bodies -/

/-- How many bytes of a body are read at most. -/
def longestBody : Nat := 2 * 1024 * 1024

/-- The body of a request as a value. Whatever follows the value is ignored. -/
def readBody {α : Type} (decode : Decoder α) (r : Request) : Except Rejection α :=
  let isJson := match r.contentType.bind MediaType.ofString? with
    | some m => m.isJson
    | none => false
  if !isJson then .error .mediaType
  else if longestBody < r.body.utf8ByteSize then .error .tooLong
  else
    match decode (readPrefix r.body) with
    | .ok value => .ok value
    | .error .malformed => .error .malformed
    | .error .shape => .error .shape

end Concordance.Http
