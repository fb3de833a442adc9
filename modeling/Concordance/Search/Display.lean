/-
# Concordance.Search.Display -- searches for people to read

A node is shown on one line, either with the names of the nodes right below it or
with the whole tree.
-/
import Concordance.Search.Node
import Concordance.Text.Quoted

namespace Concordance

open Concordance.Text

set_option autoImplicit false

/-- A lookup with its state. -/
def Lookup.describe {α : Type} (l : Lookup α) : String :=
  "Request \x7b subject: " ++ quoted l.subject ++ ", state: " ++ quoted l.stateName ++ " \x7d"

namespace Search.Node

/-- A node with the names of its children. -/
def summary (n : Node) : String :=
  "Search: " ++ n.operation.name ++ " : " ++ n.subject ++ " : " ++
    quotedList (n.children.map subject)

/-- The start of a node's description. -/
def heading (op : Operation) (subject : String) : String :=
  "SearchNode \x7b operation: " ++ op.name ++ ", subject: " ++ quoted subject ++ ", children: ["

mutual

/-- A node with everything below it. -/
def describe : Node → String
  | .leaf query locator _ _ _ => heading .term (Query.subject query locator) ++ "] \x7d"
  | .branch query locators op children _ =>
      heading op (Query.subject query locators) ++
        String.intercalate ", " (describeAll children) ++ "] \x7d"

/-- Nodes with everything below them. -/
def describeAll : List Node → List String
  | [] => []
  | n :: rest => describe n :: describeAll rest

end

end Search.Node

end Concordance
