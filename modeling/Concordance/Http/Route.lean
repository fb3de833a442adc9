/-
# Concordance.Http.Route -- what a path stands for

Every path that the service answers is a route; its parameters are segments of the
path, still percent-encoded.  A parameter may be empty unless it comes last.
-/

namespace Concordance.Http

set_option autoImplicit false

/-- What a path stands for. -/
inductive Route
  | startSearch
  | searchStatus (hash : List Char)
  | searchResult (hash : List Char)
  | searches
  | addDocument (index : List Char)
  | terms (index term : List Char)
  | document (index : List Char)
  deriving DecidableEq, Repr

namespace Route

/-- The method that a route answers to. -/
def method : Route → String
  | .startSearch | .addDocument _ => "POST"
  | _ => "GET"

/-- The route of the segments of a path. -/
def ofSegments? (segments : List (List Char)) : Option Route :=
  match segments with
  | [a] =>
      if a = "search".toList then some .startSearch
      else if a = "searches".toList then some .searches
      else none
  | [a, b, c] =>
      if a = "search".toList ∧ c = "status".toList then some (.searchStatus b)
      else if a = "search".toList ∧ c = "result".toList then some (.searchResult b)
      else if a = "index".toList ∧ c = "documents".toList then some (.addDocument b)
      else none
  | [a, b, c, d] =>
      if a = "internal".toList ∧ b = "index".toList ∧ d = "uri".toList then some (.document c)
      else none
  | [a, b, c, d, e] =>
      if a = "internal".toList ∧ b = "index".toList ∧ d = "terms".toList ∧ e ≠ [] then
        some (.terms c e)
      else none
  | _ => none

/-- The route of a path. -/
def ofPath? (path : List Char) : Option Route :=
  match path.splitOn '/' with
  | [] :: segments => ofSegments? segments
  | _ => none

end Route

end Concordance.Http
