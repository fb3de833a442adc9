/-
# Concordance.Operation -- how a search derives its result

A search is a tree.  Its leaves look one word up in one index; every other node
combines what its children found.  `Operation` names the ways of combining, and
`Operation.accepts` says how many children each can be built from.
-/

namespace Concordance

set_option autoImplicit false

/-- How a node of a search derives its result. -/
inductive Operation
  /-- One word, looked up in one index. -/
  | term
  /-- Words that follow one another in one document. -/
  | phrase
  /-- What every child found. -/
  | intersection
  /-- What any child found. -/
  | union
  /-- What the first child found and the second did not. -/
  | difference
  /-- One query, put to several indexes. -/
  | merge
  deriving DecidableEq, Repr

namespace Operation

/-- The operation's name as it is shown. -/
def name : Operation → String
  | .term => "Term"
  | .phrase => "Phrase"
  | .intersection => "Intersection"
  | .union => "Union"
  | .difference => "Difference"
  | .merge => "MultiIndexMerge"

/-- Every operation once. -/
def all : List Operation := [.term, .phrase, .intersection, .union, .difference, .merge]

/-- The operation of that name. -/
def ofName? (s : String) : Option Operation := all.find? (fun op => op.name = s)

theorem ofName?_name (op : Operation) : ofName? op.name = some op := by cases op <;> decide

/-- Whether a node can be built from that many children: none for a word, two for a difference,
at least two for anything else. -/
def accepts : Operation → Nat → Bool
  | .term, n => n == 0
  | .difference, n => n == 2
  | .phrase, n | .intersection, n | .union, n | .merge, n => 2 ≤ n

end Operation

end Concordance
