/-
# Concordance.Http.Line -- requests and answers on one line each

A request is written `METHOD TARGET BODY` with single spaces between; the body may be
missing and may hold spaces.  An answer is its status, and its message if it has one.
-/
import Concordance.Http.Message

namespace Concordance.Http

open Concordance.Net

set_option autoImplicit false

/-- The request on a line. A body counts as JSON. -/
def Request.ofLine (line : String) : Request :=
  let (method, rest) := splitOnce ' ' line.toList
  let (target, body) := splitOnce ' ' (rest.getD [])
  { method := String.ofList method, target := String.ofList target,
    contentType := some "application/json", body := String.ofList (body.getD []) }

/-- The line of an answer. -/
def Answer.line : Answer → String
  | .message status body => toString status ++ " " ++ body.render
  | .refusal status _ => toString status

end Concordance.Http
