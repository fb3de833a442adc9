/-
# Concordance.Proofs.Trees -- searches as trees

Functions on a search go down a tree and, beside it, along the list of its
children.  Here the list halves are named once as maps and unions over the
children, and `Node.induction` does what both halves would do together: a
property of a node follows from the same property of its children.

A search has a shape, the plan from which it was planted (`Node.shape`); what is
left out is what changes while the search is live.  What holds of a node and of all
nodes below it holds everywhere (`Node.Everywhere`), so at every place.
-/
import Concordance.Proofs.Planning
import Concordance.Search.Node

namespace Concordance.Search

open Concordance.Query

set_option autoImplicit false

namespace Node

/-- What holds of every leaf, and of a branch if it holds of its children, holds of every node. -/
@[elab_as_elim, induction_eliminator]
theorem induction {motive : Node → Prop}
    (leaf : ∀ query locator holder lookup memo, motive (.leaf query locator holder lookup memo))
    (branch : ∀ query locators op children memo, (∀ child ∈ children, motive child) →
      motive (.branch query locators op children memo)) : ∀ n, motive n
  | .leaf .. => leaf ..
  | .branch _ _ _ children _ => branch _ _ _ children _ fun child _ => induction leaf branch child

/-- What holds of a node if it holds of its children holds of every node. -/
@[elab_as_elim]
theorem induction_children {motive : Node → Prop}
    (step : ∀ n, (∀ child ∈ n.children, motive child) → motive n) (n : Node) : motive n := by
  induction n with
  | leaf query locator holder lookup memo =>
      refine step _ fun child member => ?_
      cases member
  | branch query locators op children memo ih => exact step _ ih

/-! ## Functions of lists of nodes -/

theorem leavesOf_eq_flatMap (nodes : List Node) : leavesOf nodes = nodes.flatMap leaves := by
  induction nodes with
  | nil => rfl
  | cons n rest ih => simp [leavesOf, ih]

theorem leaves_branch (query locators : String) (op : Operation) (children : List Node)
    (memo : Memo) :
    (Node.branch query locators op children memo).leaves = children.flatMap leaves := by
  rw [leaves, leavesOf_eq_flatMap]

/-- What is below a child is below the node. -/
theorem mem_leaves_of_mem_children {n child : Node} {l : Lookup (List Entry)}
    (isChild : child ∈ n.children) (below : l ∈ child.leaves) : l ∈ n.leaves := by
  cases n with
  | leaf query locator holder lookup memo => cases isChild
  | branch query locators op children memo =>
      rw [leaves_branch]
      exact List.mem_flatMap.2 ⟨child, isChild, below⟩

/-! ## Shapes -/

mutual

/-- The plan from which a node was planted. -/
def shape : Node → Plan
  | .leaf query _ _ _ _ => .term query
  | .branch query _ op children _ => .branch query op (shapes children)

/-- The plans from which nodes were planted. -/
def shapes : List Node → List Plan
  | [] => []
  | n :: rest => n.shape :: shapes rest

end

theorem shapes_eq_map (nodes : List Node) : shapes nodes = nodes.map shape := by
  induction nodes with
  | nil => rfl
  | cons n rest ih => simp [shapes, ih]

theorem shape_branch (query locators : String) (op : Operation) (children : List Node)
    (memo : Memo) :
    (Node.branch query locators op children memo).shape = .branch query op (children.map shape) := by
  rw [shape, shapes_eq_map]

theorem shape_eq_term_iff {n : Node} {word : String} :
    n.shape = .term word ↔ ∃ locator holder lookup memo, n = .leaf word locator holder lookup memo := by
  cases n with
  | leaf query locator holder lookup memo => simp [shape, eq_comm]
  | branch query locators op children memo => simp [shape]

theorem shape_eq_branch_iff {n : Node} {query : String} {op : Operation} {plans : List Plan} :
    n.shape = .branch query op plans ↔
      ∃ locators children memo, n = .branch query locators op children memo ∧
        children.map shape = plans := by
  cases n with
  | leaf query locator holder lookup memo => simp [shape]
  | branch own locators ownOp children memo =>
      rw [shape_branch, Plan.branch.injEq]
      constructor
      · rintro ⟨rfl, rfl, same⟩
        exact ⟨locators, children, memo, rfl, same⟩
      · rintro ⟨_, _, _, same, shapes⟩
        cases same
        exact ⟨rfl, rfl, shapes⟩

/-! ## Everywhere in a search -/

/-- The node and all nodes below it are so. -/
inductive Everywhere (P : Node → Prop) : Node → Prop
  | intro {n : Node} (here : P n) (below : ∀ child ∈ n.children, child.Everywhere P) :
      Everywhere P n

theorem Everywhere.here {P : Node → Prop} {n : Node} (everywhere : n.Everywhere P) : P n := by
  cases everywhere with
  | intro here below => exact here

theorem Everywhere.ofChildren {P : Node → Prop} {n : Node} (everywhere : n.Everywhere P) :
    ∀ child ∈ n.children, child.Everywhere P := by
  cases everywhere with
  | intro here below => exact below

theorem Everywhere.at? {P : Node → Prop} {n m : Node} (everywhere : n.Everywhere P)
    {path : List Nat} (placed : n.at? path = some m) : P m := by
  induction path generalizing n with
  | nil =>
      cases placed
      exact everywhere.here
  | cons i rest ih =>
      obtain ⟨child, found, placed⟩ := Option.bind_eq_some_iff.1 placed
      exact ih (everywhere.ofChildren child (List.mem_of_getElem? found)) placed

theorem Everywhere.imp {P Q : Node → Prop} {n : Node} (everywhere : n.Everywhere P)
    (implies : ∀ m, P m → Q m) : n.Everywhere Q := by
  induction everywhere with
  | intro here below ih => exact .intro (implies _ here) ih

/-- What holds everywhere in a search holds everywhere below each of its nodes. -/
theorem Everywhere.everywhere {P : Node → Prop} {n : Node} (everywhere : n.Everywhere P) :
    n.Everywhere (Everywhere P) := by
  induction everywhere with
  | intro here below ih => exact .intro (.intro here below) ih

/-- What holds everywhere below a node holds at every place but its own. -/
theorem Everywhere.at?_below {P : Node → Prop} {n m : Node}
    (below : ∀ child ∈ n.children, child.Everywhere P) {path : List Nat}
    (placed : n.at? path = some m) : (path = [] ∧ m = n) ∨ P m := by
  cases path with
  | nil =>
      cases placed
      exact Or.inl ⟨rfl, rfl⟩
  | cons i rest =>
      obtain ⟨child, found, placed⟩ := Option.bind_eq_some_iff.1 placed
      exact Or.inr ((below child (List.mem_of_getElem? found)).at? placed)

/-! ## Operands -/

mutual

/-- The nodes of the words and phrases of a search, from the left. -/
def operands : Node → List Node
  | .leaf query locator holder lookup memo => [.leaf query locator holder lookup memo]
  | .branch query locators op children memo =>
      if op = .phrase then [.branch query locators op children memo] else operandsOf children

/-- The nodes of the words and phrases of some searches, from the left. -/
def operandsOf : List Node → List Node
  | [] => []
  | n :: rest => n.operands ++ operandsOf rest

end

theorem operandsOf_eq_flatMap (nodes : List Node) :
    operandsOf nodes = nodes.flatMap operands := by
  induction nodes with
  | nil => rfl
  | cons n rest ih => simp [operandsOf, ih]

theorem operands_branch {op : Operation} (notPhrase : op ≠ .phrase) (query locators : String)
    (children : List Node) (memo : Memo) :
    (Node.branch query locators op children memo).operands = children.flatMap operands := by
  simp [operands, notPhrase, operandsOf_eq_flatMap]

/-- The operands of a search have the shapes of the operands of its plan. -/
theorem shape_operands (n : Node) : n.operands.map shape = n.shape.operands := by
  induction n with
  | leaf query locator holder lookup memo => rfl
  | branch query locators op children memo ih =>
      rw [shape_branch]
      by_cases isPhrase : op = .phrase
      · subst isPhrase
        simp [operands, Plan.operands, shape_branch]
      · rw [operands_branch isPhrase, Plan.operands_branch isPhrase, List.map_flatMap,
          List.flatMap_map]
        exact List.flatMap_congr ih

end Node

end Concordance.Search
