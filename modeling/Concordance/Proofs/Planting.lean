/-
# Concordance.Proofs.Planting -- a search as it is opened

Planting cannot fail on what the planner accepts, so what it plants can be said
without its errors: `grow` is the search of a plan in one index, `growSearch` the
search in several.  `openSearch_cases` says what opening a search can come to, and
`openSearch_eq_ok_iff` exactly when one is opened and which one it is.

A search that was just opened has the shape of its plan, remembers nothing, and so
is faithful.
-/
import Concordance.Proofs.Life
import Concordance.Search.Dispatch

namespace Concordance.Search

open Concordance.Index Concordance.Query

set_option autoImplicit false

/-! ## One index -/

section Growing

variable (catalog : Catalog) (locator : String) (backend : Backend)

mutual

/-- The search of a plan in an index, as it is opened. -/
def grow : Plan → Node
  | .term word => .leaf word locator backend.holder? (catalog.ask backend word) Memo.fresh
  | .branch query op children => .branch query locator op (growAll children) Memo.fresh

/-- The searches of plans in an index. -/
def growAll : List Plan → List Node
  | [] => []
  | p :: rest => grow p :: growAll rest

end

theorem growAll_eq_map (plans : List Plan) :
    growAll catalog locator backend plans = plans.map (grow catalog locator backend) := by
  induction plans with
  | nil => rfl
  | cons p rest ih => rw [growAll, List.map_cons, ih]

theorem grow_branch (query : String) (op : Operation) (children : List Plan) :
    grow catalog locator backend (.branch query op children) =
      .branch query locator op (children.map (grow catalog locator backend)) Memo.fresh := by
  rw [grow, growAll_eq_map]

/-- What an index is asked when a plan is planted. -/
def questions (p : Plan) : List Asked :=
  p.words.map fun word => ⟨locator, backend.holder?, word⟩

theorem questions_branch (query : String) (op : Operation) (children : List Plan) :
    questions locator backend (.branch query op children) =
      children.flatMap (questions locator backend) := by
  rw [questions, Plan.words_branch, List.map_flatMap]
  rfl

theorem plantAll_eq {plans : List Plan} (each : ∀ p ∈ plans,
      plant catalog locator backend p =
        (questions locator backend p, .ok (grow catalog locator backend p))) :
    plantAll catalog locator backend plans =
      (plans.flatMap (questions locator backend),
        .ok (plans.map (grow catalog locator backend))) := by
  induction plans with
  | nil => rfl
  | cons p rest ih =>
      rw [plantAll, each p List.mem_cons_self]
      dsimp only
      rw [ih fun other member => each other (List.mem_cons_of_mem _ member)]
      rfl

/-- Whatever the planner accepts is planted, and every word of it is asked for once. -/
theorem plant_eq {p : Plan} (sound : p.Sound) :
    plant catalog locator backend p =
      (questions locator backend p, .ok (grow catalog locator backend p)) := by
  induction sound with
  | term word => rfl
  | branch query op children notTerm accepted below ih =>
      rw [plant, plantAll_eq catalog locator backend ih, questions_branch, grow_branch]
      show (_, Node.build query locator op _) = _
      unfold Node.build
      rw [if_neg notTerm, List.length_map, if_pos accepted]

/-- A search has the shape of the plan from which it was grown. -/
theorem shape_grow (p : Plan) : (grow catalog locator backend p).shape = p := by
  induction p with
  | term word => rfl
  | branch query op children ih =>
      rw [grow_branch, Node.shape_branch, List.map_map]
      congr 1
      conv_rhs => rw [← List.map_id children]
      exact List.map_congr_left ih

theorem locators_grow (p : Plan) : (grow catalog locator backend p).locators = locator := by
  cases p with
  | term word => rfl
  | branch query op children => rw [grow_branch]; rfl

/-- A search that was just opened remembers nothing. -/
theorem memo_grow (p : Plan) : (grow catalog locator backend p).memo = Memo.fresh := by
  cases p with
  | term word => rfl
  | branch query op children => rw [grow_branch]; rfl

/-- What holds of a node that remembers nothing, if it holds of its children, holds of a search that
was just opened. -/
theorem grow_of_fresh {P : Node → Prop} (step : ∀ n : Node, n.memo = Memo.fresh →
      (∀ child ∈ n.children, P child) → P n) (p : Plan) : P (grow catalog locator backend p) := by
  induction p with
  | term word =>
      refine step _ rfl ?_
      intro child member
      cases member
  | branch query op children ih =>
      rw [grow_branch]
      refine step _ rfl ?_
      intro child member
      obtain ⟨p, isChild, rfl⟩ := List.mem_map.1 member
      exact ih p isChild

theorem faithful_grow (p : Plan) : (grow catalog locator backend p).Faithful :=
  grow_of_fresh catalog locator backend
    (fun _ fresh below => .intro (Node.recalls_of_fresh (congrArg Memo.outcome fresh)) below) p

/-- A search whose words are all answered as they are asked is done when it is opened. -/
theorem isDone_grow (answered : ∀ word, (catalog.ask backend word).IsComplete) (p : Plan) :
    (grow catalog locator backend p).isDone = .ok true := by
  induction p with
  | term word => exact Lookup.isDone_eq_ok_true_iff.2 (answered word)
  | branch query op children ih =>
      rw [grow_branch]
      refine Node.allDone_eq_ok_true_iff.2 fun n member => ?_
      obtain ⟨p, isChild, rfl⟩ := List.mem_map.1 member
      exact ih p isChild

/-- The operands of a search are grown from the operands of its plan. -/
theorem operands_grow (p : Plan) :
    (grow catalog locator backend p).operands = p.operands.map (grow catalog locator backend) := by
  induction p with
  | term word => rfl
  | branch query op children ih =>
      rw [grow_branch]
      by_cases isPhrase : op = .phrase
      · subst isPhrase
        simp [Node.operands, Plan.operands, grow_branch]
      · rw [Node.operands_branch isPhrase, Plan.operands_branch isPhrase, List.flatMap_map,
          List.map_flatMap]
        exact List.flatMap_congr ih

end Growing

/-! ## Several indexes -/

/-- The search of a plan in some indexes, as it is opened. -/
def growSearch (catalog : Catalog) (query : String) (p : Plan) (indexes : List (String × Backend)) :
    Node :=
  match indexes with
  | [(locator, backend)] => grow catalog locator backend p
  | _ => .branch query (joinLocators (indexes.map Prod.fst)) .merge
      (indexes.map (fun index => grow catalog index.1 index.2 p)) Memo.fresh

theorem growSearch_one (catalog : Catalog) (query : String) (p : Plan) (index : String × Backend) :
    growSearch catalog query p [index] = grow catalog index.1 index.2 p := rfl

theorem growSearch_several (catalog : Catalog) (query : String) (p : Plan)
    {indexes : List (String × Backend)} (several : indexes.length ≠ 1) :
    growSearch catalog query p indexes =
      .branch query (joinLocators (indexes.map Prod.fst)) .merge
        (indexes.map (fun index => grow catalog index.1 index.2 p)) Memo.fresh := by
  unfold growSearch
  split
  · exact absurd rfl several
  · rfl

/-- What some indexes are asked when a plan is planted in each of them. -/
def questionsIn (indexes : List (String × Backend)) (p : Plan) : List Asked :=
  indexes.flatMap fun index => questions index.1 index.2 p

theorem plantEach_eq (catalog : Catalog) {p : Plan} (sound : p.Sound)
    (indexes : List (String × Backend)) :
    plantEach catalog p indexes =
      (questionsIn indexes p, .ok (indexes.map (fun index => grow catalog index.1 index.2 p))) := by
  induction indexes with
  | nil => rfl
  | cons index rest ih =>
      obtain ⟨locator, backend⟩ := index
      rw [plantEach, plant_eq catalog locator backend sound]
      dsimp only
      rw [ih]
      rfl

/-- Whatever the planner accepts is planted in any indexes. -/
theorem plantSearch_eq (catalog : Catalog) (query : String) {p : Plan} (sound : p.Sound)
    {indexes : List (String × Backend)} (some : indexes ≠ []) :
    plantSearch catalog query p indexes =
      (questionsIn indexes p, .ok (growSearch catalog query p indexes)) := by
  unfold plantSearch growSearch
  split
  · rename_i locator backend
    rw [plant_eq catalog locator backend sound, questionsIn, List.flatMap_singleton]
  · rename_i notOne
    have several : 2 ≤ indexes.length := by
      match indexes, some, notOne with
      | [(locator, backend)], _, notOne => exact absurd rfl (notOne locator backend)
      | _ :: _ :: _, _, _ => simp
    rw [plantEach_eq catalog sound indexes]
    show (_, Node.build query _ .merge _) = _
    unfold Node.build
    simp [Operation.accepts, several]

/-- The searches in each of that many indexes. -/
def Node.perIndex (count : Nat) (n : Node) : List Node :=
  if count = 1 then [n] else n.children

theorem perIndex_growSearch (catalog : Catalog) (query : String) (p : Plan)
    (indexes : List (String × Backend)) :
    (growSearch catalog query p indexes).perIndex indexes.length =
      indexes.map (fun index => grow catalog index.1 index.2 p) := by
  unfold Node.perIndex
  by_cases one : indexes.length = 1
  · obtain ⟨index, rfl⟩ := List.length_eq_one_iff.1 one
    rfl
  · rw [if_neg one, growSearch_several catalog query p one]
    rfl

theorem growSearch_of_fresh {P : Node → Prop} (step : ∀ n : Node, n.memo = Memo.fresh →
      (∀ child ∈ n.children, P child) → P n) (catalog : Catalog) (query : String) (p : Plan)
    (indexes : List (String × Backend)) : P (growSearch catalog query p indexes) := by
  by_cases one : indexes.length = 1
  · obtain ⟨index, rfl⟩ := List.length_eq_one_iff.1 one
    exact grow_of_fresh _ _ _ step p
  · rw [growSearch_several catalog query p one]
    refine step _ rfl ?_
    intro child member
    obtain ⟨index, _, rfl⟩ := List.mem_map.1 member
    exact grow_of_fresh _ _ _ step p

theorem faithful_growSearch (catalog : Catalog) (query : String) (p : Plan)
    (indexes : List (String × Backend)) : (growSearch catalog query p indexes).Faithful :=
  growSearch_of_fresh
    (fun _ fresh below => .intro (Node.recalls_of_fresh (congrArg Memo.outcome fresh)) below) ..

theorem memo_growSearch (catalog : Catalog) (query : String) (p : Plan)
    (indexes : List (String × Backend)) :
    (growSearch catalog query p indexes).memo = Memo.fresh :=
  growSearch_of_fresh (fun _ fresh _ => fresh) ..

theorem locators_growSearch (catalog : Catalog) (query : String) (p : Plan)
    (indexes : List (String × Backend)) :
    (growSearch catalog query p indexes).locators = joinLocators (indexes.map Prod.fst) := by
  by_cases one : indexes.length = 1
  · obtain ⟨index, rfl⟩ := List.length_eq_one_iff.1 one
    rw [growSearch_one, locators_grow]
    rfl
  · rw [growSearch_several catalog query p one]
    rfl

/-- A search of several indexes has the plan's shape below each of them. -/
theorem shape_growSearch (catalog : Catalog) (query : String) (p : Plan)
    (indexes : List (String × Backend)) :
    (growSearch catalog query p indexes).shape =
      if indexes.length = 1 then p
      else .branch query .merge (List.replicate indexes.length p) := by
  by_cases one : indexes.length = 1
  · obtain ⟨index, rfl⟩ := List.length_eq_one_iff.1 one
    rw [growSearch_one, shape_grow]
    rfl
  · rw [growSearch_several catalog query p one, if_neg one, Node.shape_branch, List.map_map]
    congr 1
    rw [← List.map_const]
    exact List.map_congr_left fun index _ => shape_grow ..

/-! ## Opening a search -/

theorem planQuery_eq_ok_iff {query : String} {p : Plan} :
    planQuery query = .ok p ↔ ∃ tokens, tokenize query = .ok tokens ∧ plan query tokens = .ok p := by
  unfold planQuery
  cases tokenize query with
  | error e => simp [bind, Except.bind]
  | ok tokens => simp [bind, Except.bind]

/-- An empty query has no plan. -/
theorem planQuery_empty : planQuery "" = .error .emptySubQuery := by cbv

theorem resolveAll_length {catalog later : Catalog} {locators : List String}
    {backends : List Backend} (resolved : catalog.resolveAll locators = (later, .ok backends)) :
    backends.length = locators.length := by
  induction locators generalizing catalog backends with
  | nil =>
      cases resolved
      rfl
  | cons locator rest ih =>
      rw [Catalog.resolveAll] at resolved
      split at resolved
      · cases resolved
      · rename_i next backend _
        rcases more : next.resolveAll rest with ⟨last, (e | found)⟩
        · rw [more] at resolved
          cases resolved
        · rw [more] at resolved
          cases resolved
          rw [List.length_cons, List.length_cons, ih more]

/-- A query that can be planned is opened in any indexes that there are. -/
theorem openSearch_of_planned {catalog later : Catalog} {query : String} {p : Plan}
    {locators : List String} {backends : List Backend} (planned : planQuery query = .ok p)
    (named : locators ≠ []) (resolved : catalog.resolveAll locators = (later, .ok backends)) :
    openSearch catalog query locators =
      ⟨later, questionsIn (locators.zip backends) p,
        .ok (growSearch later query p (locators.zip backends))⟩ := by
  have notBlank : query ≠ "" := by
    rintro rfl
    rw [planQuery_empty] at planned
    cases planned
  have zipped : locators.zip backends ≠ [] := by
    rw [← List.length_pos_iff, List.length_zip, resolveAll_length resolved, Nat.min_self]
    exact List.length_pos_iff.2 named
  obtain ⟨tokens, _, made⟩ := planQuery_eq_ok_iff.1 planned
  unfold openSearch
  rw [if_neg (by simpa using notBlank), if_neg (by simpa using named), resolved, planned]
  dsimp only
  rw [plantSearch_eq later query (plan_sound made) zipped]
  rfl

/-- **What opening comes to**: nothing is searched for, or nowhere; a locator names no index, or the
query has no plan; or the search is opened that the plan grows into. -/
theorem openSearch_cases (catalog : Catalog) (query : String) (locators : List String) :
    (query = "" ∧ openSearch catalog query locators = ⟨catalog, [], .error (.parse .blank)⟩) ∨
    (locators = [] ∧
      openSearch catalog query locators = ⟨catalog, [], .error (.parse .noIndex)⟩) ∨
    (∃ later e, catalog.resolveAll locators = (later, .error e) ∧
      openSearch catalog query locators = ⟨later, [], .error (.unknownIndex e)⟩) ∨
    (∃ later backends e, catalog.resolveAll locators = (later, .ok backends) ∧
      planQuery query = .error e ∧
      openSearch catalog query locators = ⟨later, [], .error (.parse e)⟩) ∨
    ∃ later backends p, catalog.resolveAll locators = (later, .ok backends) ∧
      planQuery query = .ok p ∧ locators ≠ [] ∧
      openSearch catalog query locators = ⟨later, questionsIn (locators.zip backends) p,
        .ok (growSearch later query p (locators.zip backends))⟩ := by
  by_cases nothing : query.isEmpty = true
  · refine Or.inl ⟨by simpa using nothing, ?_⟩
    rw [openSearch, if_pos nothing]
  by_cases nowhere : locators.isEmpty = true
  · refine Or.inr (Or.inl ⟨by simpa using nowhere, ?_⟩)
    rw [openSearch, if_neg nothing, if_pos nowhere]
  refine Or.inr (Or.inr ?_)
  have named : locators ≠ [] := by simpa using nowhere
  rcases resolved : catalog.resolveAll locators with ⟨later, (e | backends)⟩
  · refine Or.inl ⟨later, e, rfl, ?_⟩
    rw [openSearch, if_neg nothing, if_neg nowhere, resolved]
  refine Or.inr ?_
  cases planned : planQuery query with
  | error e =>
      refine Or.inl ⟨later, backends, e, rfl, rfl, ?_⟩
      rw [openSearch, if_neg nothing, if_neg nowhere, resolved, planned]
  | ok p =>
      exact Or.inr ⟨later, backends, p, rfl, rfl, named,
        openSearch_of_planned planned named resolved⟩

/-- **When a search is opened**: its query can be planned, it names an index, and all of its
locators do; it is then the search that the plan grows into. -/
theorem openSearch_eq_ok_iff {catalog : Catalog} {query : String} {locators : List String}
    {root : Node} :
    (openSearch catalog query locators).search = .ok root ↔
      ∃ p later backends, planQuery query = .ok p ∧ locators ≠ [] ∧
        catalog.resolveAll locators = (later, .ok backends) ∧
        root = growSearch later query p (locators.zip backends) := by
  constructor
  · intro opened
    rcases openSearch_cases catalog query locators with
      ⟨_, same⟩ | ⟨_, same⟩ | ⟨_, _, _, same⟩ | ⟨_, _, _, _, _, same⟩ |
      ⟨later, backends, p, resolved, planned, named, same⟩ <;> rw [same] at opened <;> cases opened
    exact ⟨p, later, backends, planned, named, resolved, rfl⟩
  · rintro ⟨p, later, backends, planned, named, resolved, rfl⟩
    rw [openSearch_of_planned planned named resolved]

end Concordance.Search
