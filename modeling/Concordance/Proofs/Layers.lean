/-
# Concordance.Proofs.Layers -- what may stand below what in a search

Plans come in layers (`Plan.Within`), and a search in one index has the layers of its plan:
what an operation joins lies further in, so which operations may stand there follows from
the layer alone (`layered_of_inner`).  Only what an exclusion is taken out of may exclude
again.  A search in several indexes has one more layer, a merge on top.
-/
import Concordance.Proofs.Subqueries

namespace Concordance

open Concordance.Index Concordance.Query

set_option autoImplicit false

namespace Operation

/-! ## Operations by their layers -/

variable {op : Operation}

theorem eq_term_of_layer (inner : op.layer < 1) : op = .term := by
  cases op <;> simp_all [layer]

theorem operand_of_layer (inner : op.layer < 2) : op = .term ∨ op = .phrase := by
  cases op <;> simp_all [layer]

theorem alternatives_of_layer (inner : op.layer < 3) :
    op ≠ .difference ∧ op ≠ .intersection ∧ op ≠ .merge := by
  cases op <;> simp_all [layer]

theorem eq_merge_of_layer (outer : 4 < op.layer) : op = .merge := by
  cases op <;> simp_all [layer]

end Operation

namespace Search

/-! ## What stands below a node -/

/-- What may stand right below a node. -/
structure Node.Layered (n : Node) : Prop where
  /-- Words are the nodes that wrap a lookup. -/
  term : n.operation = .term ↔ n.isLeaf = true
  /-- Words are the nodes with nothing below. -/
  leaf : n.operation = .term ↔ n.children = []
  /-- A phrase is one of several words. -/
  phrase : n.operation = .phrase → 2 ≤ n.children.length ∧
    ∀ child ∈ n.children, child.operation = .term
  /-- Alternatives are words and phrases. -/
  union : n.operation = .union → 2 ≤ n.children.length ∧
    ∀ child ∈ n.children, child.operation = .term ∨ child.operation = .phrase
  /-- What is wanted together excludes nothing, and is not wanted together in turn. -/
  intersection : n.operation = .intersection → 2 ≤ n.children.length ∧
    ∀ child ∈ n.children, child.operation ≠ .difference ∧ child.operation ≠ .intersection ∧
      child.operation ≠ .merge
  /-- What is excluded is a word or a phrase. -/
  difference : n.operation = .difference → ∃ kept excluded, n.children = [kept, excluded] ∧
    (excluded.operation = .term ∨ excluded.operation = .phrase)
  /-- An exclusion stands first in another one, or is the search in one of several indexes. -/
  nested : ∀ i child, n.children[i]? = some child → child.operation = .difference →
    (n.operation = .difference ∧ i = 0) ∨ n.operation = .merge

theorem layered_leaf (query locator : String) (holder : Option Nat) (lookup : Lookup (List Entry))
    (memo : Memo) : (Node.leaf query locator holder lookup memo).Layered := by
  constructor <;> simp [Node.operation, Node.isLeaf, Node.children]

/-- A branch that is no exclusion, above nodes that lie further in. -/
theorem layered_of_inner {n : Node} (notDifference : n.operation ≠ .difference)
    (several : 2 ≤ n.children.length)
    (inner : ∀ child ∈ n.children, child.operation.layer < n.operation.layer) : n.Layered := by
  obtain ⟨first, rest, some⟩ :=
    List.exists_cons_of_length_pos (Nat.lt_of_lt_of_le Nat.two_pos several)
  have notTerm : n.operation ≠ .term := by
    intro isTerm
    have below := inner first (by simp [some])
    rw [isTerm] at below
    exact absurd below (Nat.not_lt_zero _)
  have notLeaf : n.isLeaf = false := by
    cases n with
    | leaf => exact absurd rfl notTerm
    | branch => rfl
  refine ⟨by simp [notTerm, notLeaf], by simp [notTerm, some], ?_, ?_, ?_, ?_, ?_⟩
  · intro isPhrase
    rw [isPhrase] at inner
    exact ⟨several, fun child member => Operation.eq_term_of_layer (inner child member)⟩
  · intro isUnion
    rw [isUnion] at inner
    exact ⟨several, fun child member => Operation.operand_of_layer (inner child member)⟩
  · intro isIntersection
    rw [isIntersection] at inner
    exact ⟨several, fun child member => Operation.alternatives_of_layer (inner child member)⟩
  · exact fun isDifference => absurd isDifference notDifference
  · intro i child found isDifference
    have below := inner child (List.mem_of_getElem? found)
    rw [isDifference] at below
    exact Or.inr (Operation.eq_merge_of_layer below)

/-- An exclusion of a word or a phrase. -/
theorem layered_difference (query locators : String) (kept : Node) {excluded : Node} (memo : Memo)
    (operand : excluded.operation.layer < 2) :
    (Node.branch query locators .difference [kept, excluded] memo).Layered := by
  have isOperand := Operation.operand_of_layer operand
  constructor
  case difference => exact fun _ => ⟨kept, excluded, rfl, isOperand⟩
  case nested =>
    intro i child found isDifference
    match i with
    | 0 => exact Or.inl ⟨rfl, rfl⟩
    | 1 =>
        cases found
        rw [isDifference] at isOperand
        simp at isOperand
  all_goals simp [Node.operation, Node.isLeaf, Node.children]

/-! ## Searches in one index -/

section Growing

variable (catalog : Catalog) (locator : String) (backend : Backend)

theorem operation_grow (p : Plan) : (grow catalog locator backend p).operation = p.operation := by
  cases p with
  | term word => rfl
  | branch query op children =>
      rw [grow_branch]
      rfl

theorem layer_grow_le {layer : Nat} {p : Plan} (within : p.Within layer) :
    (grow catalog locator backend p).operation.layer ≤ layer := by
  rw [operation_grow]
  exact within.layer_le

/-- **A search in one index is layered everywhere**, and merges nothing. -/
theorem everywhere_grow {layer : Nat} {p : Plan} (within : p.Within layer) :
    (grow catalog locator backend p).Everywhere fun n => n.Layered ∧ n.operation ≠ .merge := by
  induction within with
  | term word =>
      refine .intro ⟨layered_leaf .., by simp [grow, Node.operation]⟩ ?_
      simp [grow, Node.children]
  | @joined layer inside query op children outward joins reached several below ih =>
      rw [grow_branch]
      have notDifference : op ≠ .difference := by
        rintro rfl
        cases outward
        exact absurd joins (Nat.lt_irrefl _)
      have notMerge : op ≠ .merge := by
        rintro rfl
        cases outward
        exact absurd joins (by decide)
      refine .intro ⟨layered_of_inner notDifference ?_ ?_, notMerge⟩ ?_
      · simpa [Node.children] using several
      · intro child member
        obtain ⟨p, isChild, rfl⟩ := List.mem_map.1 member
        rw [Node.operation, outward]
        exact Nat.lt_succ_of_le (layer_grow_le catalog locator backend (below p isChild))
      · intro child member
        obtain ⟨p, isChild, rfl⟩ := List.mem_map.1 member
        exact ih p isChild
  | @excluding layer query kept excluded reached first second keptIh excludedIh =>
      rw [grow_branch]
      have operand := Nat.lt_succ_of_le (layer_grow_le catalog locator backend second)
      refine .intro ⟨layered_difference _ _ _ _ operand, by simp [Node.operation]⟩ ?_
      intro child member
      simp only [Node.children, List.map_cons, List.map_nil, List.mem_cons, List.not_mem_nil,
        or_false] at member
      rcases member with rfl | rfl
      · exact keptIh
      · exact excludedIh

end Growing

/-! ## Searches in several indexes -/

/-- A search in some indexes is stratified: if there are several, a merge is its root, and below it
every index has a search of the same shape; nothing else is a merge, and what stands below what
follows the layers of operations. -/
structure Stratified (locators : List String) (root : Node) : Prop where
  /-- The root is a merge exactly if there are several indexes. -/
  merges : root.operation = .merge ↔ 2 ≤ locators.length
  /-- A merge has one child for each index, in order. -/
  indexes : root.operation = .merge → root.children.map Node.locators = locators
  /-- Every index is searched for the same. -/
  alike : root.operation = .merge →
    ∀ one ∈ root.children, ∀ other ∈ root.children, one.shape = other.shape
  /-- Nothing is merged below the root. -/
  once : ∀ place n, root.at? place = some n → n.operation = .merge → place = []
  /-- What stands below a node is fit to stand there. -/
  layered : ∀ place n, root.at? place = some n → n.Layered

theorem stratified_grow (catalog : Catalog) (locator : String) (backend : Backend) {p : Plan}
    (within : p.Within 4) : Stratified [locator] (grow catalog locator backend p) := by
  have everywhere := everywhere_grow catalog locator backend within
  have apart := everywhere.here.2
  exact ⟨by simp [apart], fun merges => absurd merges apart, fun merges => absurd merges apart,
    fun _ _ placed merges => absurd merges (everywhere.at? placed).2,
    fun _ _ placed => (everywhere.at? placed).1⟩

theorem stratified_growSearch (catalog : Catalog) (query : String) {p : Plan} (within : p.Within 4)
    {indexes : List (String × Backend)} (some : indexes ≠ []) :
    Stratified (indexes.map Prod.fst) (growSearch catalog query p indexes) := by
  by_cases one : indexes.length = 1
  · obtain ⟨index, rfl⟩ := List.length_eq_one_iff.1 one
    exact stratified_grow catalog index.1 index.2 within
  · have several : 2 ≤ indexes.length := by
      have positive := List.length_pos_iff.2 some
      omega
    have grown := growSearch_several catalog query p one
    have merges : (growSearch catalog query p indexes).operation = .merge := by
      rw [grown]
      rfl
    have children : (growSearch catalog query p indexes).children =
        indexes.map fun index => grow catalog index.1 index.2 p := by
      rw [grown]
      rfl
    have below : ∀ child ∈ (growSearch catalog query p indexes).children,
        child.Everywhere fun n => n.Layered ∧ n.operation ≠ .merge := by
      intro child member
      rw [children] at member
      obtain ⟨index, _, rfl⟩ := List.mem_map.1 member
      exact everywhere_grow catalog index.1 index.2 within
    constructor
    · simp [merges, several]
    · intro _
      rw [children, List.map_map]
      exact List.map_congr_left fun index _ => locators_grow ..
    · intro _ first isFirst second isSecond
      rw [children] at isFirst isSecond
      obtain ⟨index, _, rfl⟩ := List.mem_map.1 isFirst
      obtain ⟨other, _, rfl⟩ := List.mem_map.1 isSecond
      rw [shape_grow, shape_grow]
    · intro place n placed isMerge
      rcases Node.Everywhere.at?_below below placed with ⟨rfl, _⟩ | ⟨_, apart⟩
      · rfl
      · exact absurd isMerge apart
    · intro place n placed
      rcases Node.Everywhere.at?_below below placed with ⟨_, rfl⟩ | ⟨layered, _⟩
      · refine layered_of_inner (by simp [merges]) (by simpa [children] using several) ?_
        intro child member
        rw [children] at member
        obtain ⟨index, _, rfl⟩ := List.mem_map.1 member
        rw [merges]
        exact Nat.lt_succ_of_le (layer_grow_le catalog index.1 index.2 within)
      · exact layered

/-- **Every search is stratified.** -/
theorem openSearch_stratified {catalog : Catalog} {query : String} {locators : List String}
    {root : Node} (opened : (openSearch catalog query locators).search = .ok root) :
    Stratified locators root := by
  obtain ⟨p, later, backends, planned, named, resolved, rfl⟩ := openSearch_eq_ok_iff.1 opened
  obtain ⟨tokens, _, made⟩ := planQuery_eq_ok_iff.1 planned
  have same := resolveAll_length resolved
  have whole : (locators.zip backends).map Prod.fst = locators := List.map_fst_zip same.ge
  have some : locators.zip backends ≠ [] := by
    intro none
    rw [none, List.map_nil] at whole
    exact named whole.symm
  have stratified := stratified_growSearch later query (plan_within made) some
  rwa [whole] at stratified

/-- A node with two indexes of its own. -/
def notesAndLetters : Catalog := notesAlone.localOrCreate "letters"

/-- The plan of a query that excludes two words, one after the other. -/
def bigCatNotDogNotOwl : Plan :=
  .branch "big cat -dog -owl" .difference
    [.branch "big cat not owl" .difference
        [.branch "big cat" .intersection [.term "big", .term "cat"], .term "owl"],
      .term "dog"]

theorem planQuery_bigCatNotDogNotOwl :
    planQuery "big cat -dog -owl" = .ok bigCatNotDogNotOwl := by
  rw [bigCatNotDogNotOwl]
  cbv

theorem openSearch_stratified_notesAndLetters :
    ∃ root,
      (openSearch notesAndLetters "big cat -dog -owl" ["notes", "letters"]).search = .ok root ∧
      Stratified ["notes", "letters"] root ∧
      (root.at? [1, 0]).map Node.operation = some .difference := by
  have resolved : notesAndLetters.resolveAll ["notes", "letters"] =
      (notesAndLetters, .ok [.held "notes", .held "letters"]) := rfl
  have opened := congrArg Opened.search
    (openSearch_of_planned planQuery_bigCatNotDogNotOwl (by simp) resolved)
  refine ⟨_, opened, openSearch_stratified opened, ?_⟩
  simp [growSearch, bigCatNotDogNotOwl, grow_branch, Node.at?, Node.children, Node.operation]

end Search

end Concordance
