/-
# Concordance.Proofs.Dispatching -- what is asked for a search

A search asks nothing until nothing can go wrong any more: its locators are resolved and
its query is planned before the first question, and what the planner accepts can always
be planted.  So a search that is refused has asked nobody, and a search that is opened
has asked every index for every word of its query once, in the order of its leaves, and
every leaf waits for the answer to its own question (`openSearch_dispatched`).

A service keeps a record of what it asked, and `Dispatches` says the same of that record:
`dispatches_openSearch` for whatever is opened, and `dispatches_startSearch` for what is
started while no such search is live.
-/
import Concordance.Proofs.Runs
import Mathlib

namespace Concordance

open Concordance.Data Concordance.Index Concordance.Query Concordance.Search

set_option autoImplicit false

namespace Query

/-- The words of a query in the order in which an index is asked for them: those of the operands
that are kept, and then those of the excluded operands from the last to the first. -/
def askedWords (tokens : List Token) : List String := (askingOrder id tokens).flatMap Token.words

end Query

namespace Search

namespace Node

mutual

/-- The leaves of a search, from the left. -/
def leafNodes : Node → List Node
  | .leaf query locator holder lookup memo => [.leaf query locator holder lookup memo]
  | .branch _ _ _ children _ => leafNodesOf children

/-- The leaves of some searches, from the left. -/
def leafNodesOf : List Node → List Node
  | [] => []
  | n :: rest => n.leafNodes ++ leafNodesOf rest

end

theorem leafNodes_branch (query locators : String) (op : Operation) (children : List Node)
    (memo : Memo) :
    (Node.branch query locators op children memo).leafNodes = children.flatMap leafNodes := by
  rw [leafNodes]
  induction children with
  | nil => rfl
  | cons n rest ih => rw [leafNodesOf, List.flatMap_cons, ih]

end Node

/-! ## Leaves and questions -/

/-- The leaf that waits for what an index answers about a word. -/
def askedLeaf (catalog : Catalog) (locator : String) (backend : Backend) (word : String) : Node :=
  .leaf word locator backend.holder? (catalog.ask backend word) Memo.fresh

theorem leafNodes_grow (catalog : Catalog) (locator : String) (backend : Backend) (p : Plan) :
    (grow catalog locator backend p).leafNodes =
      p.words.map (askedLeaf catalog locator backend) := by
  induction p with
  | term word => rfl
  | branch query op children ih =>
      rw [grow_branch, Node.leafNodes_branch, Plan.words_branch, List.flatMap_map,
        List.map_flatMap]
      exact List.flatMap_congr ih

theorem leafNodes_growSearch (catalog : Catalog) (query : String) (p : Plan)
    (indexes : List (String × Backend)) :
    (growSearch catalog query p indexes).leafNodes =
      indexes.flatMap fun index => p.words.map (askedLeaf catalog index.1 index.2) := by
  by_cases one : indexes.length = 1
  · obtain ⟨index, rfl⟩ := List.length_eq_one_iff.1 one
    rw [growSearch_one, leafNodes_grow, List.flatMap_singleton]
  · rw [growSearch_several catalog query p one, Node.leafNodes_branch, List.flatMap_map]
    exact List.flatMap_congr fun index _ => leafNodes_grow ..

/-- The questions for a search, and its leaves: both go through the indexes in order, and through
the words of the query in each. -/
structure Dispatched (catalog : Catalog) (tokens : List Token) (indexes : List (String × Backend))
    (asked : List Asked) (root : Node) : Prop where
  /-- Every index is asked for every word once. -/
  asked : asked = indexes.flatMap fun index =>
    (askedWords tokens).map fun word => ⟨index.1, index.2.holder?, word⟩
  /-- The leaves wait for the answers, one leaf for one question. -/
  bound : root.leafNodes = indexes.flatMap fun index =>
    (askedWords tokens).map (askedLeaf catalog index.1 index.2)

theorem dispatched_growSearch (catalog : Catalog) {query : String} {tokens : List Token} {p : Plan}
    (planned : plan query tokens = .ok p) (indexes : List (String × Backend)) :
    Dispatched catalog tokens indexes (questionsIn indexes p)
      (growSearch catalog query p indexes) where
  asked := by
    rw [askedWords, ← plan_words planned]
    rfl
  bound := by rw [askedWords, ← plan_words planned, leafNodes_growSearch]

/-! ## Opening -/

/-- A search that is refused has asked nobody. -/
theorem asked_of_refused {catalog : Catalog} {query : String} {locators : List String}
    {e : SearchError} (refused : (openSearch catalog query locators).search = .error e) :
    (openSearch catalog query locators).asked = [] := by
  rcases openSearch_cases catalog query locators with
    ⟨_, same⟩ | ⟨_, same⟩ | ⟨_, _, _, same⟩ | ⟨_, _, _, _, _, same⟩ | ⟨_, _, _, _, _, _, same⟩
  case inr.inr.inr.inr =>
    rw [same] at refused
    cases refused
  all_goals rw [same]

/-- A search that is opened has asked for its leaves, and for nothing else. -/
theorem openSearch_dispatched {catalog : Catalog} {query : String} {locators : List String}
    {root : Node} (opened : (openSearch catalog query locators).search = .ok root) :
    ∃ tokens backends, tokenize query = .ok tokens ∧
      List.Forall₂ (fun locator backend =>
        (openSearch catalog query locators).catalog.backends.find? locator = some backend)
        locators backends ∧
      Dispatched (openSearch catalog query locators).catalog tokens (locators.zip backends)
        (openSearch catalog query locators).asked root := by
  obtain ⟨p, later, backends, planned, named, resolved, rfl⟩ := openSearch_eq_ok_iff.1 opened
  obtain ⟨tokens, lexed, made⟩ := planQuery_eq_ok_iff.1 planned
  rw [openSearch_of_planned planned named resolved]
  exact ⟨tokens, backends, lexed, Catalog.find?_of_resolveAll resolved,
    dispatched_growSearch later made _⟩

end Search

namespace Service

/-! ## The record of a service -/

/-- All or nothing is asked for a query in some locators, given the service before and what was
done. -/
structure Dispatches (s : Service) (query : String) (locators : List String)
    (done : Service × Except SearchError Nat) : Prop where
  /-- If the query is refused, nobody was asked, and nothing was opened or made live. -/
  refused : ∀ e, done.2 = .error e → done.1.asked = s.asked ∧ done.1.searches = s.searches ∧
    done.1.registry = s.registry
  /-- If it is opened, every index that a locator names was asked for every word of the query, and
  every leaf waits for the answer to one of these questions. -/
  opened : ∀ search, done.2 = .ok search → ∃ root tokens backends asked,
    done.1.node? (.root search) = some root ∧ tokenize query = .ok tokens ∧
    List.Forall₂ (fun locator backend => done.1.catalog.backends.find? locator = some backend)
      locators backends ∧
    done.1.asked = s.asked ++ asked ∧
    Dispatched done.1.catalog tokens (locators.zip backends) asked root

theorem dispatches_openSearch (s : Service) (query : String) (locators : List String) :
    s.Dispatches query locators (s.openSearch query locators) := by
  unfold Service.openSearch
  dsimp only
  split
  · rename_i e refused
    constructor
    · intro _ _
      rw [asked_of_refused refused, List.append_nil]
      exact ⟨rfl, rfl, rfl⟩
    · intro search impossible
      cases impossible
  · rename_i root opened
    constructor
    · intro e impossible
      cases impossible
    · intro search same
      cases same
      obtain ⟨tokens, backends, lexed, listed, dispatched⟩ := openSearch_dispatched opened
      refine ⟨root, tokens, backends, _, ?_, lexed, listed, rfl, dispatched⟩
      rw [node?_root]
      exact Array.getElem?_push_size

/-- What is made live is opened before, and nothing more is asked for it. -/
theorem dispatches_startSearch {s : Service} {query locators : String}
    (fresh : s.find? query locators = none) :
    s.Dispatches (normalize query) (splitLocators locators) (s.startSearch query locators) := by
  have dispatches := s.dispatches_openSearch (normalize query) (splitLocators locators)
  have unknown : s.registry.find? (canonicalSubject query locators) = none := fresh
  unfold Service.startSearch Service.parse
  dsimp only
  rw [unknown]
  rcases opened : s.openSearch (normalize query) (splitLocators locators) with
    ⟨later, (e | search)⟩
  · rw [opened] at dispatches
    exact dispatches
  · rw [opened] at dispatches
    refine ⟨?_, dispatches.opened⟩
    intro e impossible
    cases impossible

/-- **Everything is asked, or nothing.**  Whatever is opened in a service, or started while no such
search is live, asks nobody if it is refused; and if not, it asks every index for every word once,
in the order of the leaves, each of which waits for its own answer. -/
theorem dispatches_all_or_nothing (s : Service) :
    (∀ query (locators : List String),
      s.Dispatches query locators (s.openSearch query locators)) ∧
    ∀ query locators, s.find? query locators = none →
      s.Dispatches (normalize query) (splitLocators locators) (s.startSearch query locators) :=
  ⟨s.dispatches_openSearch, fun _ _ => dispatches_startSearch⟩

/-- The indexes `near` and `far`, each answered by somebody else. -/
def nearAndFar : Service :=
  (start ⟨.absent, 1⟩).run
    [.register "near" fun _ => .ok none, .register "far" fun _ => .ok none]

theorem find?_nearAndFar : nearAndFar.find? "cat -\"big dog\" fish" "near; far" = none := by cbv

theorem dispatches_all_or_nothing_nearAndFar :
    nearAndFar.find? "cat -\"big dog\" fish" "near; far" = none ∧
      nearAndFar.Dispatches (normalize "cat -\"big dog\" fish") (splitLocators "near; far")
        (nearAndFar.startSearch "cat -\"big dog\" fish" "near; far") :=
  ⟨find?_nearAndFar, (dispatches_all_or_nothing nearAndFar).2 _ _ find?_nearAndFar⟩

/-- The excluded phrase is asked for last, its words in order. -/
example : (nearAndFar.startSearch "cat -\"big dog\" fish" "near; far").1.asked =
    [⟨"near", some 0, "cat"⟩, ⟨"near", some 0, "fish"⟩, ⟨"near", some 0, "big"⟩,
      ⟨"near", some 0, "dog"⟩, ⟨"far", some 1, "cat"⟩, ⟨"far", some 1, "fish"⟩,
      ⟨"far", some 1, "big"⟩, ⟨"far", some 1, "dog"⟩] := by
  cbv

end Service

end Concordance
