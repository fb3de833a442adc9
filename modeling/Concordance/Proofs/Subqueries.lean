/-
# Concordance.Proofs.Subqueries -- every part of a search searches for its own query

The parts of a plan are named by their own tokens, written out.  The tokens of a part are
what is left of the query when an exclusion is struck out or when it is cut at a
connective, and whatever is left of legible tokens is legible (`Legible.withoutNot`,
`Legible.splitOn`).  So every part is the plan of its own query (`Plan.Denoted`), and a
search that is opened for the query of any node has the shape of what is below that node.
-/
import Concordance.Proofs.Rereading
import Concordance.Proofs.Runs
import Mathlib

namespace Concordance

open Concordance.Index Concordance.Query Concordance.Text

set_option autoImplicit false

namespace Query

/-! ## Parts of what is legible -/

theorem Operand.isOperand_token (operand : Operand) : operand.token.isOperand = true := by
  cases operand <;> rfl

theorem Legible.exists_first {tokens : List Token} (legible : Legible tokens) :
    ∃ operand rest, tokens = Operand.token operand :: rest := by
  cases legible with
  | single operand => exact ⟨operand, [], rfl⟩
  | @join operand link rest _ _ _ => exact ⟨operand, link :: rest, rfl⟩

/-- An operand of legible tokens is legible by itself. -/
theorem Legible.of_mem {tokens : List Token} (legible : Legible tokens) {token : Token}
    (member : token ∈ tokens) (isOperand : token.isOperand = true) : Legible [token] := by
  induction legible with
  | single operand =>
      rw [List.mem_singleton.1 member]
      exact .single operand
  | join operand link joins _ _ ih =>
      rcases List.mem_cons.1 member with rfl | member
      · exact .single operand
      rcases List.mem_cons.1 member with rfl | later
      · rw [joins] at isOperand
        cases isOperand
      · exact ih later

/-- What starts ambiguously without an exclusion does so with it. -/
theorem StartsAmbiguously.withNot {before after : List Token} {operand : Token} (some : before ≠ [])
    (ambiguous : StartsAmbiguously (before ++ after)) :
    StartsAmbiguously (before ++ .not :: operand :: after) := by
  obtain ⟨word, link, rest, same, spells⟩ := ambiguous
  cases before with
  | nil => exact absurd rfl some
  | cons first others =>
      rw [List.cons_append, List.cons.injEq] at same
      obtain ⟨rfl, same⟩ := same
      cases others with
      | nil => exact ⟨word, .not, operand :: after, rfl, spells⟩
      | cons next more => exact ⟨word, next, _, rfl, spells⟩

/-- **What is left without an exclusion is legible.** -/
theorem Legible.withoutNot {before after : List Token} {operand : Token}
    (legible : Legible (before ++ .not :: operand :: after)) : Legible (before ++ after) := by
  generalize same : before ++ .not :: operand :: after = tokens at legible
  induction legible generalizing before with
  | single first =>
      have length := congrArg List.length same
      rw [List.length_append, List.length_cons, List.length_cons, List.length_singleton] at length
      omega
  | @join first link rest joins later plain ih =>
      have isOperand := first.isOperand_token
      cases before with
      | nil =>
          rw [List.nil_append, List.cons.injEq] at same
          rw [← same.1] at isOperand
          cases isOperand
      | cons token before =>
          rw [List.cons_append, List.cons.injEq] at same
          obtain ⟨rfl, same⟩ := same
          cases before with
          | nil =>
              rw [List.nil_append, List.cons.injEq] at same
              obtain ⟨_, rfl⟩ := same
              -- What follows the excluded operand follows the one before it now.
              cases later with
              | single excluded => exact .single first
              | join excluded next nextJoins last clear => exact .join first next nextJoins last clear
          | cons token before =>
              rw [List.cons_append, List.cons.injEq] at same
              obtain ⟨rfl, rfl⟩ := same
              refine .join first token joins (ih rfl) ?_
              intro isAnd ambiguous
              refine plain isAnd (ambiguous.withNot ?_)
              rintro rfl
              obtain ⟨operand', others, impossible⟩ := later.exists_first
              have isOperand := operand'.isOperand_token
              rw [List.nil_append, List.cons.injEq] at impossible
              rw [← impossible.1] at isOperand
              cases isOperand

theorem isPrefix_of_splitOn {connective : Token} {tokens head : List Token}
    {pieces : List (List Token)} (cut : tokens.splitOn connective = head :: pieces) :
    head <+: tokens := by
  have whole : [connective].intercalate (head :: pieces) = tokens := by
    rw [← cut]
    exact List.intercalate_splitOn connective
  rw [← whole]
  cases pieces with
  | nil => simp
  | cons next others =>
      rw [List.intercalate_cons_cons, List.append_assoc]
      exact List.prefix_append head _

/-- What starts ambiguously does so whatever follows. -/
theorem StartsAmbiguously.of_prefix {head tokens : List Token} (isPrefix : head <+: tokens)
    (ambiguous : StartsAmbiguously head) : StartsAmbiguously tokens := by
  obtain ⟨word, link, rest, rfl, spells⟩ := ambiguous
  obtain ⟨more, rfl⟩ := isPrefix
  exact ⟨word, link, rest ++ more, rfl, spells⟩

/-- **The pieces between connectives are legible.** -/
theorem Legible.splitOn {tokens : List Token} (legible : Legible tokens) {connective : Token}
    (joins : connective.isOperand = false) :
    ∀ piece ∈ tokens.splitOn connective, Legible piece := by
  have notOperand (operand : Operand) : (operand.token == connective) = false := by
    rw [beq_eq_false_iff_ne]
    rintro rfl
    simp [operand.isOperand_token] at joins
  induction legible with
  | single operand =>
      rw [List.splitOn_cons_eq_if_modifyHead, notOperand]
      simpa using Legible.single operand
  | @join operand link rest linkJoins later plain ih =>
      obtain ⟨head, pieces, cut⟩ := List.exists_cons_of_ne_nil (List.splitOn_ne_nil connective rest)
      rw [List.splitOn_cons_eq_if_modifyHead, notOperand, List.splitOn_cons_eq_if_modifyHead]
      by_cases same : link = connective
      · rw [same, beq_self_eq_true]
        simpa using ⟨Legible.single operand, ih⟩
      · rw [beq_eq_false_iff_ne.2 same, cut]
        rw [cut] at ih
        obtain ⟨first, others⟩ := List.forall_mem_cons.1 ih
        have whole : Legible (operand.token :: link :: head) :=
          .join operand link linkJoins first fun isAnd ambiguous =>
            plain isAnd (ambiguous.of_prefix (isPrefix_of_splitOn cut))
        simpa using ⟨whole, others⟩

/-- A piece between connectives holds no connective, and nothing that was not there. -/
theorem piece_of_mem_splitOn {connective : Token} {tokens piece : List Token}
    (isPiece : piece ∈ tokens.splitOn connective) : connective ∉ piece ∧ piece ⊆ tokens := by
  rw [List.splitOn_eq_splitOnP] at isPiece
  obtain ⟨inside, before, after, rfl, _⟩ := cut_of_mem_splitOnP isPiece
  refine ⟨?_, ?_⟩
  · intro member
    simpa using inside connective member
  · intro token member
    simp [member]

/-! ## Parts of a plan -/

namespace Plan

/-- The query that names a plan. -/
def query : Plan → String
  | .term word => word
  | .branch query _ _ => query

/-- The plans right below. -/
def children : Plan → List Plan
  | .term _ => []
  | .branch _ _ children => children

/-- The plan is the one for its own query, and so are all plans below it. -/
inductive Denoted : Plan → Prop
  | intro {p : Plan} (own : Search.planQuery p.query = .ok p)
      (below : ∀ child ∈ p.children, child.Denoted) : Denoted p

theorem Denoted.own {p : Plan} (denoted : p.Denoted) : Search.planQuery p.query = .ok p := by
  cases denoted with
  | intro own below => exact own

theorem Denoted.ofChildren {p : Plan} (denoted : p.Denoted) :
    ∀ child ∈ p.children, child.Denoted := by
  cases denoted with
  | intro own below => exact below

end Plan

theorem plan_of_no_not {query : String} {tokens : List Token} (absent : Token.not ∉ tokens) :
    plan query tokens = planGroups query tokens := by
  rw [plan]
  split
  · rfl
  · rename_i found
    rw [splitNot_eq_none.2 absent] at found
    cases found
  · rename_i found
    rw [splitNot_eq_none.2 absent] at found
    cases found

theorem planGroups_of_no_and {query : String} {tokens : List Token} (absent : Token.and ∉ tokens) :
    planGroups query tokens = planAlternatives query tokens := by
  rw [planGroups, if_neg absent]

theorem planAlternatives_of_no_or {query : String} {tokens : List Token}
    (absent : Token.or ∉ tokens) : planAlternatives query tokens = planOperand query tokens := by
  rw [planAlternatives, if_neg absent]

theorem plan_of_operand {query : String} {operand : Token} (isOperand : operand.isOperand = true) :
    plan query [operand] = planOperand query [operand] := by
  have absent {connective : Token} (joins : connective.isOperand = false) :
      connective ∉ [operand] := by
    intro member
    rw [List.mem_singleton.1 member, isOperand] at joins
    cases joins
  rw [plan_of_no_not (absent rfl), planGroups_of_no_and (absent rfl),
    planAlternatives_of_no_or (absent rfl)]

/-- Some of the tokens of a query, named by what they are written as, and their plan. -/
def IsPart (tokens : List Token) (p : Plan) : Prop :=
  Legible tokens ∧ plan (render tokens) tokens = .ok p

theorem isPart_word {words : List String} {word : String} (legible : Legible [.phrase words])
    (member : word ∈ words) : IsPart [.term word] (.term word) := by
  obtain ⟨operand, rest, same⟩ := legible.exists_first
  cases operand with
  | word text isWord => simp [Operand.token] at same
  | quoted own areWords =>
      have sameWords : words = own := by simpa [Operand.token] using And.left (List.cons.inj same)
      rw [sameWords] at member
      refine ⟨.single (.word word (areWords word member)), ?_⟩
      rw [plan_of_operand rfl]
      rfl

/-- **Every part of a plan** is the plan of some tokens, named by them. -/
theorem exists_isPart {query : String} {tokens : List Token} {p : Plan} (legible : Legible tokens)
    (planned : plan query tokens = .ok p) : ∀ child ∈ p.children, ∃ part, IsPart part child := by
  rcases plan_eq_ok_cases planned with
    ⟨noNot, grouped⟩ | ⟨before, operand, after, left, right, rfl, _, isOperand, rest, single, rfl⟩
  · rcases planGroups_eq_ok_iff.1 grouped with ⟨noAnd, whole⟩ | ⟨_, children, each, _, rfl⟩
    · rcases planAlternatives_eq_ok_iff.1 whole with ⟨_, one⟩ | ⟨_, children, each, _, rfl⟩
      · rcases planOperand_eq_ok_iff.1 one with ⟨word, _, rfl⟩ | ⟨words, rfl, _, rfl⟩
        · intro child impossible
          cases impossible
        · intro child member
          obtain ⟨word, isOne, rfl⟩ := List.mem_map.1 member
          exact ⟨_, isPart_word legible isOne⟩
      · refine forall_of_forall₂ each fun piece isPiece child planned => ⟨piece, ?_, ?_⟩
        · exact legible.splitOn rfl piece isPiece
        · obtain ⟨noOr, inside⟩ := piece_of_mem_splitOn isPiece
          rw [plan_of_no_not fun isNot => noNot (inside isNot),
            planGroups_of_no_and fun isAnd => noAnd (inside isAnd), planAlternatives_of_no_or noOr]
          exact planned
    · refine forall_of_forall₂ each fun piece isPiece child planned => ⟨piece, ?_, ?_⟩
      · exact legible.splitOn rfl piece isPiece
      · obtain ⟨noAnd, inside⟩ := piece_of_mem_splitOn isPiece
        rw [plan_of_no_not fun isNot => noNot (inside isNot), planGroups_of_no_and noAnd]
        exact planned
  · intro child member
    rcases List.mem_cons.1 member with rfl | last
    · exact ⟨_, legible.withoutNot, rest⟩
    · rw [List.mem_singleton.1 last]
      refine ⟨[operand], legible.of_mem (by simp) isOperand, ?_⟩
      rw [plan_of_operand isOperand]
      exact single

/-- A part of a plan is named by its tokens. -/
theorem IsPart.query_eq {tokens : List Token} {p : Plan} (part : IsPart tokens p) :
    p.query = render tokens := by
  rcases query_of_plan part.2 with ⟨word, rfl, rfl⟩ | ⟨op, children, rfl⟩
  · simp [Plan.query, render, Token.text]
  · rfl

theorem IsPart.denoted {tokens : List Token} {p : Plan} (part : IsPart tokens p) : p.Denoted := by
  induction p generalizing tokens with
  | term word =>
      refine .intro ?_ (by simp [Plan.children])
      rw [part.query_eq]
      exact Search.planQuery_eq_ok_iff.2 ⟨tokens, tokenize_render_of_legible part.1, part.2⟩
  | branch query op children ih =>
      refine .intro ?_ ?_
      · rw [part.query_eq]
        exact Search.planQuery_eq_ok_iff.2 ⟨tokens, tokenize_render_of_legible part.1, part.2⟩
      · intro child member
        obtain ⟨tokens, childPart⟩ := exists_isPart part.1 part.2 child member
        exact ih child member childPart

/-- **Every plan of a query is denoted by the queries of its parts.** -/
theorem denoted_of_planQuery {query : String} {p : Plan} (planned : Search.planQuery query = .ok p) :
    p.Denoted := by
  obtain ⟨tokens, lexed, made⟩ := Search.planQuery_eq_ok_iff.1 planned
  rcases legible_of_tokenize lexed with rfl | legible
  · rw [plan_of_no_not List.not_mem_nil, planGroups_of_no_and List.not_mem_nil,
      planAlternatives_of_no_or List.not_mem_nil] at made
    cases made
  · rcases query_of_plan made with ⟨word, rfl, rfl⟩ | ⟨op, children, rfl⟩
    · have isPart : IsPart [.term word] (.term word) := by
        refine ⟨legible, ?_⟩
        rw [plan_of_operand rfl]
        rfl
      exact isPart.denoted
    · refine .intro planned ?_
      intro child member
      obtain ⟨part, isPart⟩ := exists_isPart legible made child member
      exact isPart.denoted

end Query

namespace Search

/-! ## Nodes and their plans -/

section Growing

variable (catalog : Catalog) (locator : String) (backend : Backend)

theorem query_grow (p : Plan) : (grow catalog locator backend p).query = p.query := by
  cases p with
  | term word => rfl
  | branch query op children =>
      rw [grow_branch]
      rfl

theorem children_grow (p : Plan) :
    (grow catalog locator backend p).children = p.children.map (grow catalog locator backend) := by
  cases p with
  | term word => rfl
  | branch query op children =>
      rw [grow_branch]
      rfl

/-- The nodes of a search are grown from the parts of its plan. -/
theorem exists_grow_of_at? {p : Plan} (denoted : p.Denoted) {place : List Nat} {n : Node}
    (placed : (grow catalog locator backend p).at? place = some n) :
    ∃ part : Plan, part.Denoted ∧ n = grow catalog locator backend part := by
  induction place generalizing p with
  | nil =>
      cases placed
      exact ⟨p, denoted, rfl⟩
  | cons i rest ih =>
      rw [Node.at?, children_grow, List.getElem?_map] at placed
      obtain ⟨child, found, placed⟩ := Option.bind_eq_some_iff.1 placed
      obtain ⟨part, isPart, rfl⟩ := Option.map_eq_some_iff.1 found
      exact ih (denoted.ofChildren part (List.mem_of_getElem? isPart)) placed

end Growing

/-- What a node shows of itself: its operation, its query and its subject. -/
def Node.label (n : Node) : Operation × String × String := (n.operation, n.query, n.subject)

/-- Searches of one plan show the same of themselves at every place. -/
theorem map_label_grow (catalog later : Catalog) (locator : String) (backend other : Backend)
    (p : Plan) (place : List Nat) :
    ((grow later locator other p).at? place).map Node.label =
      ((grow catalog locator backend p).at? place).map Node.label := by
  induction place generalizing p with
  | nil =>
      cases p with
      | term word => rfl
      | branch query op children =>
          rw [grow_branch, grow_branch]
          rfl
  | cons i rest ih =>
      rw [Node.at?, Node.at?, children_grow, children_grow, List.getElem?_map, List.getElem?_map]
      cases p.children[i]? with
      | none => rfl
      | some child => exact ih child

/-- A search in one index is grown from the plan of its query, and the index is listed. -/
theorem exists_grow_of_opened {catalog : Catalog} {query locator : String} {root : Node}
    (opened : (openSearch catalog query [locator]).search = .ok root) :
    ∃ p backend, planQuery query = .ok p ∧
      (openSearch catalog query [locator]).catalog.backends.find? locator = some backend ∧
      root = grow (openSearch catalog query [locator]).catalog locator backend p := by
  obtain ⟨p, later, backends, planned, named, resolved, rfl⟩ := openSearch_eq_ok_iff.1 opened
  obtain ⟨backend, rfl⟩ := List.length_eq_one_iff.1 (resolveAll_length resolved)
  rw [openSearch_of_planned planned named resolved]
  refine ⟨p, backend, planned, ?_, rfl⟩
  have listed := Catalog.find?_of_resolveAll resolved
  rw [List.forall₂_cons] at listed
  exact listed.1

/-- A query with a plan is searched for in any index that is listed. -/
theorem openSearch_of_listed {catalog : Catalog} {query locator : String} {p : Plan}
    {backend : Backend} (planned : planQuery query = .ok p)
    (listed : catalog.backends.find? locator = some backend) :
    (openSearch catalog query [locator]).search = .ok (grow catalog locator backend p) := by
  have resolved : catalog.resolveAll [locator] = (catalog, .ok [backend]) := by
    rw [Catalog.resolveAll, Catalog.resolve_of_find? listed]
    rfl
  rw [openSearch_of_planned planned (List.cons_ne_nil locator []) resolved]
  rfl

/-- **Every node searches for its own query.**  A search for the query of any node of a search in one
index, opened in that index at any later time, shows the same at every place as what is below the
node. -/
theorem openSearch_subquery {catalog later : Catalog} {query locator : String} {root n : Node}
    {place : List Nat} (opened : (openSearch catalog query [locator]).search = .ok root)
    (placed : root.at? place = some n)
    (grows : (openSearch catalog query [locator]).catalog.Grows later) :
    ∃ again, (openSearch later n.query [locator]).search = .ok again ∧
      ∀ below, (again.at? below).map Node.label = (n.at? below).map Node.label := by
  obtain ⟨p, backend, planned, listed, rfl⟩ := exists_grow_of_opened opened
  obtain ⟨part, denoted, rfl⟩ := exists_grow_of_at? _ locator backend
    (denoted_of_planQuery planned) placed
  obtain ⟨other, stillListed⟩ := grows locator ⟨backend, listed⟩
  refine ⟨grow later locator other part, ?_, fun below => map_label_grow _ later locator ..⟩
  rw [query_grow]
  exact openSearch_of_listed denoted.own stillListed

/-! ## A search for connectives -/

/-- A node with one index of its own. -/
def notesAlone : Catalog := (Catalog.empty ⟨.absent, 1⟩).localOrCreate "notes"

/-- The plan of a query that ends with a word spelled like a connective. -/
def catOrDogNot : Plan :=
  .branch "cat or dog not" .intersection
    [.branch "cat or dog" .union [.term "cat", .term "dog"], .term "not"]

/-- The same without another such word. -/
def catOrDogNotOr : Plan := .branch "cat or dog -or not" .difference [catOrDogNot, .term "or"]

theorem planQuery_catOrDogNotOr : planQuery "cat or dog -or not" = .ok catOrDogNotOr := by
  rw [catOrDogNotOr, catOrDogNot]
  cbv

theorem openSearch_subquery_catOrDogNot :
    (openSearch notesAlone "cat or dog -or not" ["notes"]).search =
        .ok (grow notesAlone "notes" (.held "notes") catOrDogNotOr) ∧
      (grow notesAlone "notes" (.held "notes") catOrDogNotOr).at? [0] =
        some (grow notesAlone "notes" (.held "notes") catOrDogNot) ∧
      (openSearch notesAlone "cat or dog -or not" ["notes"]).catalog.Grows
        (notesAlone.localOrCreate "letters") ∧
      ∃ again, (openSearch (notesAlone.localOrCreate "letters") "cat or dog not" ["notes"]).search =
          .ok again ∧
        ∀ below, (again.at? below).map Node.label =
          ((grow notesAlone "notes" (.held "notes") catOrDogNot).at? below).map Node.label := by
  have listed : notesAlone.backends.find? "notes" = some (.held "notes") := rfl
  have opened := openSearch_of_listed planQuery_catOrDogNotOr listed
  have placed : (grow notesAlone "notes" (.held "notes") catOrDogNotOr).at? [0] =
      some (grow notesAlone "notes" (.held "notes") catOrDogNot) := by
    simp [catOrDogNotOr, grow_branch, Node.at?, Node.children]
  have unchanged : (openSearch notesAlone "cat or dog -or not" ["notes"]).catalog = notesAlone := by
    rcases openSearch_catalog_cases notesAlone "cat or dog -or not" ["notes"] with same | same
    · exact same
    · rw [same]
      rfl
  have grows : (openSearch notesAlone "cat or dog -or not" ["notes"]).catalog.Grows
      (notesAlone.localOrCreate "letters") := by
    rw [unchanged]
    exact Catalog.localOrCreate_grows notesAlone "letters"
  exact ⟨opened, placed, grows, openSearch_subquery opened placed grows⟩

end Search

end Concordance
