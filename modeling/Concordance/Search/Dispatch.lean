/-
# Concordance.Search.Dispatch -- from a query to lookups

`open` in two passes.  The first settles that the query makes sense and that every
locator names an index; nothing is asked yet.  The second builds the nodes and asks
every word of the plan of every index, in the order of the locators, and keeps a
record of whom it asked.
-/
import Concordance.Index.Catalog
import Concordance.Query.Plan
import Concordance.Search.Node

namespace Concordance.Search

open Concordance.Index Concordance.Query

set_option autoImplicit false

/-- A question that was put to an index: its locator, who is to resolve the lookup, and the word. -/
structure Asked where
  locator : String
  holder : Option Nat
  term : String
  deriving DecidableEq, Repr

mutual

/-- Builds the node of a plan, asking an index for every word. -/
def plant (catalog : Catalog) (locator : String) (backend : Backend) :
    Plan → List Asked × Except ParseError Node
  | .term word =>
      ([⟨locator, backend.holder?, word⟩],
        .ok (.leaf word locator backend.holder? (catalog.ask backend word) Memo.fresh))
  | .branch query op children =>
      match plantAll catalog locator backend children with
      | (asked, .ok nodes) => (asked, Node.build query locator op nodes)
      | (asked, .error e) => (asked, .error e)

/-- Builds the nodes of plans, one after another. -/
def plantAll (catalog : Catalog) (locator : String) (backend : Backend) :
    List Plan → List Asked × Except ParseError (List Node)
  | [] => ([], .ok [])
  | p :: rest =>
      match plant catalog locator backend p with
      | (asked, .error e) => (asked, .error e)
      | (asked, .ok node) =>
          let (more, nodes) := plantAll catalog locator backend rest
          (asked ++ more, nodes.map (node :: ·))

end

/-- Builds the nodes of one plan in several indexes. -/
def plantEach (catalog : Catalog) (plan : Plan) :
    List (String × Backend) → List Asked × Except ParseError (List Node)
  | [] => ([], .ok [])
  | (locator, backend) :: rest =>
      match plant catalog locator backend plan with
      | (asked, .error e) => (asked, .error e)
      | (asked, .ok node) =>
          let (more, nodes) := plantEach catalog plan rest
          (asked ++ more, nodes.map (node :: ·))

/-- Builds a search: one node for one index, a merge for more. -/
def plantSearch (catalog : Catalog) (query : String) (plan : Plan)
    (indexes : List (String × Backend)) : List Asked × Except ParseError Node :=
  match indexes with
  | [(locator, backend)] => plant catalog locator backend plan
  | _ =>
      match plantEach catalog plan indexes with
      | (asked, .ok nodes) =>
          (asked, Node.build query (joinLocators (indexes.map Prod.fst)) .merge nodes)
      | (asked, .error e) => (asked, .error e)

/-- What became of a query: the catalog with the addresses it now lists, whom was asked, and the
search, or the reason why there is none. -/
structure Opened where
  catalog : Catalog
  asked : List Asked
  search : Except SearchError Node

/-- Plans a query that is in lower case and trimmed. -/
def planQuery (query : String) : Except ParseError Plan := do
  plan query (← tokenize query)

/-- Opens a search for a query that is in lower case and trimmed. -/
def openSearch (catalog : Catalog) (query : String) (locators : List String) : Opened :=
  if query.isEmpty then ⟨catalog, [], .error (.parse .blank)⟩
  else if locators.isEmpty then ⟨catalog, [], .error (.parse .noIndex)⟩
  else
    match catalog.resolveAll locators with
    | (catalog, .error e) => ⟨catalog, [], .error (.unknownIndex e)⟩
    | (catalog, .ok backends) =>
        match planQuery query with
        | .error e => ⟨catalog, [], .error (.parse e)⟩
        | .ok plan =>
            let (asked, node) := plantSearch catalog query plan (locators.zip backends)
            ⟨catalog, asked, node.mapError SearchError.parse⟩

end Concordance.Search
