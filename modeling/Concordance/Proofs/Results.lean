/-
# Concordance.Proofs.Results -- what a search gives

`Node.Gives` says that asking a node for its result gives a set.  A node gives what
it remembers; one that remembers nothing gives what it works out, once everything
below it has completed (`gives_iff`).  What asking leaves behind is told by `take_cases`,
and where an error comes from by `raises_cases`.

What a node remembers must come from somewhere: `Node.Faithful` says that a branch
remembers a combination of what its children give, and that only a search with a
failed lookup remembers an error.  A word or a phrase may remember any set that
files its entries under their own names.
-/
import Concordance.Proofs.Completion
import Concordance.Proofs.Matches

namespace Concordance.Search

open Concordance.Query

set_option autoImplicit false

/-! ## Combining -/

/-- Sets that were all worked out are combined as they are. -/
theorem combine_sets (op : Operation) (subject : String) (sets : List ResultSet) :
    combine op subject (sets.map .ok) = (combineSets op subject sets).mapError .fault := by
  rw [combine, gather_eq_ok_iff.2 rfl]
  dsimp only
  cases combineSets op subject sets <;> rfl

theorem combine_sets_eq_ok_iff {op : Operation} {subject : String} {sets : List ResultSet}
    {set : ResultSet} :
    combine op subject (sets.map .ok) = .ok set ↔ combineSets op subject sets = .ok set := by
  rw [combine_sets]
  cases combineSets op subject sets <;> simp [Except.mapError]

namespace Node

/-- Asking the node for its result gives that set. -/
def Gives (n : Node) (set : ResultSet) : Prop := n.take.2 = .ok (some set)

/-! ## Asking a node -/

theorem conclude_gives_iff {worked : Except Failure ResultSet} {set : ResultSet} :
    (conclude worked).2 = .ok (some set) ↔ worked = .ok set := by
  rcases worked with (e | f) | own <;> simp [conclude]

theorem conclude_outcome_iff {worked : Except Failure ResultSet} {set : ResultSet} :
    (conclude worked).1.outcome = some (.ok set) ↔ worked = .ok set := by
  rcases worked with (e | f) | own <;> simp [conclude]

theorem conclude_raises_iff {worked : Except Failure ResultSet} {e : SearchError} :
    (conclude worked).2 = .error (.search e) ↔ (conclude worked).1.outcome = some (.error e) := by
  rcases worked with (e | f) | own <;> simp [conclude]

/-- A completed lookup gives the set of its entries. -/
theorem leafResult_eq_ok_iff {subject : String} {lookup : Lookup (List Entry)} {set : ResultSet} :
    leafResult subject lookup = .ok set ↔
      ∃ entries, lookup.outcome = .complete entries ∧ set = ResultSet.ofEntries subject entries := by
  unfold leafResult Lookup.result
  cases outcome : lookup.outcome with
  | pending => simp
  | aborted reason => simp
  | complete entries =>
      show combine .term subject ([ResultSet.ofEntries subject entries].map .ok) = .ok set ↔ _
      rw [combine_sets_eq_ok_iff]
      simp [combineSets, ResultSet.ofEntries_renamed, eq_comm]

/-- The set that is combined from the results of the children, if they all gave one. -/
def combined (op : Operation) (subject : String) :
    Except Failure (List ResultSet) → Except Failure ResultSet
  | .ok sets => combine op subject (sets.map .ok)
  | .error e => .error e

theorem combined_eq_ok_iff {op : Operation} {subject : String}
    {results : Except Failure (List ResultSet)} {set : ResultSet} :
    combined op subject results = .ok set ↔
      ∃ sets, results = .ok sets ∧ combineSets op subject sets = .ok set := by
  cases results with
  | error e => simp [combined]
  | ok sets => simp [combined, combine_sets_eq_ok_iff]

theorem take_of_outcome {n : Node} {outcome : Except SearchError ResultSet}
    (remembers : n.memo.outcome = some outcome) : n.take = (n, remembered outcome) := by
  cases n with
  | leaf query locator holder lookup memo =>
      have known : memo.outcome = some outcome := remembers
      rw [take, known]
  | branch query locators op children memo =>
      have known : memo.outcome = some outcome := remembers
      rw [take, known]

theorem take_of_waiting {n : Node} (fresh : n.memo.outcome = none) (waits : n.isDone = .ok false) :
    n.take = (n, .ok none) := by
  cases n with
  | leaf query locator holder lookup memo =>
      have unknown : memo.outcome = none := fresh
      have isOpen : lookup.isDone = .ok false := waits
      rw [take, unknown, isOpen]
  | branch query locators op children memo =>
      have unknown : memo.outcome = none := fresh
      have isOpen : allDone children = .ok false := waits
      rw [take, unknown, isOpen]

theorem take_of_error {n : Node} {e : SearchError} (fresh : n.memo.outcome = none)
    (failed : n.isDone = .error e) :
    n.take = (n.withMemo ⟨.combining, some (.error e)⟩, .error (.search e)) := by
  cases n with
  | leaf query locator holder lookup memo =>
      have unknown : memo.outcome = none := fresh
      have aborted : lookup.isDone = .error e := failed
      rw [take, unknown, aborted]
      rfl
  | branch query locators op children memo =>
      have unknown : memo.outcome = none := fresh
      have aborted : allDone children = .error e := failed
      rw [take, unknown, aborted]
      rfl

theorem take_leaf_done {query locator : String} {holder : Option Nat}
    {lookup : Lookup (List Entry)} {memo : Memo}
    (fresh : (Node.leaf query locator holder lookup memo).memo.outcome = none)
    (done : (Node.leaf query locator holder lookup memo).isDone = .ok true) :
    (Node.leaf query locator holder lookup memo).take =
      (.leaf query locator holder lookup
          (conclude (leafResult (Query.subject query locator) lookup)).1,
        (conclude (leafResult (Query.subject query locator) lookup)).2) := by
  have unknown : memo.outcome = none := fresh
  have complete : lookup.isDone = .ok true := done
  rw [take, unknown, complete]

theorem take_branch_done {query locators : String} {op : Operation} {children : List Node}
    {memo : Memo} (fresh : (Node.branch query locators op children memo).memo.outcome = none)
    (done : (Node.branch query locators op children memo).isDone = .ok true) :
    (Node.branch query locators op children memo).take =
      (.branch query locators op (takeAll children).1
          (conclude (combined op (Query.subject query locators) (takeAll children).2)).1,
        (conclude (combined op (Query.subject query locators) (takeAll children).2)).2) := by
  have unknown : memo.outcome = none := fresh
  have complete : allDone children = .ok true := done
  rw [take, unknown, complete]
  rcases takeAll children with ⟨after, (e | sets)⟩ <;> rfl

/-- Nodes give sets together exactly when each gives its own. -/
theorem takeAll_eq_ok_iff {nodes : List Node} {sets : List ResultSet} :
    (takeAll nodes).2 = .ok sets ↔ List.Forall₂ Gives nodes sets := by
  induction nodes generalizing sets with
  | nil =>
      rw [List.forall₂_nil_left_iff, takeAll]
      simp [eq_comm]
  | cons n rest ih =>
      rw [List.forall₂_cons_left_iff, takeAll]
      rcases taken : n.take with ⟨after, (e | (_ | own))⟩
      · simp [Gives, taken]
      · simp [Gives, taken]
      · simp only [Gives, taken, ← ih]
        cases (takeAll rest).2 with
        | error e => simp [Except.map]
        | ok others => simp [Except.map, eq_comm]

/-- An error that nodes raise together is raised by one of them. -/
theorem exists_of_takeAll_eq_error {nodes : List Node} {e : SearchError}
    (failed : (takeAll nodes).2 = .error (.search e)) :
    ∃ n ∈ nodes, n.take.2 = .error (.search e) := by
  induction nodes with
  | nil => cases failed
  | cons n rest ih =>
      rw [takeAll] at failed
      rcases taken : n.take with ⟨after, (f | (_ | own))⟩
      · rw [taken] at failed
        cases failed
        exact ⟨n, List.mem_cons_self, by rw [taken]⟩
      · rw [taken] at failed
        cases failed
      · rw [taken] at failed
        cases results : (takeAll rest).2 with
        | ok sets => simp [Except.map, results] at failed
        | error f =>
            have raised : f = .search e := by simpa [Except.map, results] using failed
            obtain ⟨m, member, fails⟩ := ih (by rw [results, raised])
            exact ⟨m, List.mem_cons_of_mem _ member, fails⟩

/-- The node with other children. -/
def withChildren (children : List Node) : Node → Node
  | .leaf query locator holder lookup memo => .leaf query locator holder lookup memo
  | .branch query locators op _ memo => .branch query locators op children memo

/-- **What asking a node does.**  It tells what it remembers, or has nothing to tell yet, or works the
result out: then it asks its children if it has to, and remembers what it answers. -/
theorem take_cases (n : Node) :
    (∃ known, n.memo.outcome = some known ∧ n.take = (n, remembered known)) ∨
      (n.memo.outcome = none ∧ n.isDone = .ok false ∧ n.take = (n, .ok none)) ∨
      ∃ later worked, n.memo.outcome = none ∧ n.isDone ≠ .ok false ∧
        (later = n ∨ later = n.withChildren (takeAll n.children).1) ∧
        n.take = (later.withMemo (conclude worked).1, (conclude worked).2) := by
  rcases outcome : n.memo.outcome with _ | known
  · rcases known : n.isDone with e | (_ | _)
    · exact Or.inr (Or.inr ⟨n, .error (.search e), rfl, by simp, Or.inl rfl,
        take_of_error outcome known⟩)
    · exact Or.inr (Or.inl ⟨rfl, rfl, take_of_waiting outcome known⟩)
    · refine Or.inr (Or.inr ?_)
      cases n with
      | leaf query locator holder lookup memo =>
          exact ⟨.leaf query locator holder lookup memo, _, rfl, by simp, Or.inl rfl,
            take_leaf_done outcome known⟩
      | branch query locators op children memo =>
          exact ⟨.branch query locators op (takeAll children).1 memo, _, rfl, by simp, Or.inr rfl,
            take_branch_done outcome known⟩
  · exact Or.inl ⟨known, rfl, take_of_outcome outcome⟩

/-- Where an error comes from that a node raises: its memory, a lookup, or a child. -/
theorem raises_cases {n : Node} {e : SearchError} (raised : n.take.2 = .error (.search e)) :
    n.memo.outcome = some (.error e) ∨ n.isDone = .error e ∨
      (n.isDone = .ok true ∧ ∃ child ∈ n.children, child.take.2 = .error (.search e)) := by
  rcases outcome : n.memo.outcome with _ | known
  · rcases known : n.isDone with f | (_ | _)
    · rw [take_of_error outcome known] at raised
      cases raised
      exact Or.inr (Or.inl rfl)
    · rw [take_of_waiting outcome known] at raised
      cases raised
    · refine Or.inr (Or.inr ⟨rfl, ?_⟩)
      cases n with
      | leaf query locator holder lookup memo =>
          obtain ⟨entries, complete⟩ := Lookup.isDone_eq_ok_true_iff.1 known
          rw [take_leaf_done outcome known, leafResult_eq_ok_iff.2 ⟨entries, complete, rfl⟩] at raised
          cases raised
      | branch query locators op children memo =>
          rw [take_branch_done outcome known] at raised
          rcases results : (takeAll children).2 with (f | f) | sets
          · rw [results] at raised
            cases raised
            exact exists_of_takeAll_eq_error results
          · rw [results] at raised
            cases raised
          · rw [results, combined, combine_sets] at raised
            cases made : combineSets op (Query.subject query locators) sets <;>
              (rw [made] at raised; cases raised)
  · rw [take_of_outcome outcome] at raised
    cases known with
    | ok set => cases raised
    | error f =>
        cases raised
        exact Or.inl rfl

/-! ## What a node gives -/

/-- The set comes from what is right below the node: the entries of its lookup, or the sets that
its children give. -/
def WorksOut : Node → ResultSet → Prop
  | .leaf query locator _ lookup _, set =>
      ∃ entries, lookup.outcome = .complete entries ∧
        set = ResultSet.ofEntries (Query.subject query locator) entries
  | .branch query locators op children _, set =>
      ∃ sets, List.Forall₂ Gives children sets ∧
        combineSets op (Query.subject query locators) sets = .ok set

/-- **What a node gives** is what it remembers, or else what it works out once it is done. -/
theorem gives_iff {n : Node} {set : ResultSet} :
    n.Gives set ↔ n.memo.outcome = some (.ok set) ∨
      (n.memo.outcome = none ∧ n.isDone = .ok true ∧ n.WorksOut set) := by
  cases outcome : n.memo.outcome with
  | some known =>
      rw [Gives, take_of_outcome outcome]
      cases known <;> simp [remembered]
  | none =>
      simp only [reduceCtorEq, true_and, false_or]
      rcases known : n.isDone with e | (_ | _)
      · simp [Gives, take_of_error outcome known]
      · simp [Gives, take_of_waiting outcome known]
      · cases n with
        | leaf query locator holder lookup memo =>
            simp only [Gives, take_leaf_done outcome known, conclude_gives_iff,
              leafResult_eq_ok_iff, WorksOut, true_and]
        | branch query locators op children memo =>
            simp only [Gives, take_branch_done outcome known, conclude_gives_iff,
              combined_eq_ok_iff, takeAll_eq_ok_iff, WorksOut, true_and]

theorem gives_of_outcome {n : Node} {set : ResultSet}
    (remembers : n.memo.outcome = some (.ok set)) : n.Gives set :=
  gives_iff.2 (Or.inl remembers)

theorem gives_of_worksOut {n : Node} {set : ResultSet} (fresh : n.memo.outcome = none)
    (done : n.isDone = .ok true) (works : n.WorksOut set) : n.Gives set :=
  gives_iff.2 (Or.inr ⟨fresh, done, works⟩)

/-- What a branch works out is settled by what its children give. -/
theorem combineSets_of_worksOut {query locators : String} {op : Operation} {children : List Node}
    {memo : Memo} {set : ResultSet} {sets : List ResultSet}
    (works : (Node.branch query locators op children memo).WorksOut set)
    (each : List.Forall₂ Gives children sets) :
    combineSets op (Query.subject query locators) sets = .ok set := by
  obtain ⟨others, eachOther, combines⟩ := works
  have same : others = sets := by
    have first := takeAll_eq_ok_iff.2 eachOther
    rw [takeAll_eq_ok_iff.2 each] at first
    cases first
    rfl
  rw [← same]
  exact combines

/-! ## Memories -/

/-- The node stands for a word or a phrase. -/
def IsOperand (n : Node) : Prop := n.operation = .term ∨ n.operation = .phrase

/-- What the node remembers has a reason. -/
structure Recalls (n : Node) : Prop where
  /-- A set that it remembers files every entry under its own document. -/
  keyed : ∀ set, n.memo.outcome = some (.ok set) → set.Keyed
  /-- A set that it remembers comes from its children, unless the node is an operand. -/
  combined : ∀ set, n.memo.outcome = some (.ok set) → ¬ n.IsOperand → n.WorksOut set
  /-- It remembers an error only if a lookup below it has failed. -/
  failed : ∀ e, n.memo.outcome = some (.error e) → ∃ l ∈ n.leaves, l.HasFailed

/-- Whatever the node and the nodes below it remember has a reason. -/
inductive Faithful : Node → Prop
  | intro {n : Node} (recalls : n.Recalls) (below : ∀ child ∈ n.children, child.Faithful) :
      Faithful n

theorem Faithful.recalls {n : Node} (faithful : n.Faithful) : n.Recalls := by
  cases faithful with
  | intro recalls below => exact recalls

theorem Faithful.ofChildren {n : Node} (faithful : n.Faithful) :
    ∀ child ∈ n.children, child.Faithful := by
  cases faithful with
  | intro recalls below => exact below

theorem recalls_of_fresh {n : Node} (fresh : n.memo.outcome = none) : n.Recalls := by
  constructor
  · intro set remembers
    rw [fresh] at remembers
    cases remembers
  · intro set remembers
    rw [fresh] at remembers
    cases remembers
  · intro e remembers
    rw [fresh] at remembers
    cases remembers

/-- A search that is done and faithful remembers no error. -/
theorem Faithful.outcome_of_done {n : Node} (faithful : n.Faithful) (done : n.isDone = .ok true) :
    n.memo.outcome = none ∨ ∃ set, n.memo.outcome = some (.ok set) := by
  rcases outcome : n.memo.outcome with _ | (e | set)
  · exact Or.inl rfl
  · obtain ⟨l, member, failed⟩ := faithful.recalls.failed e outcome
    exact absurd (isDone_eq_ok_true_iff.1 done l member) failed.not_isComplete
  · exact Or.inr ⟨set, rfl⟩

/-- Whatever a faithful search gives files every entry under its own document. -/
theorem Faithful.gives_keyed {n : Node} (faithful : n.Faithful) {set : ResultSet}
    (given : n.Gives set) : set.Keyed := by
  induction n generalizing set with
  | leaf query locator holder lookup memo =>
      rcases gives_iff.1 given with remembers | ⟨_, _, entries, _, rfl⟩
      · exact faithful.recalls.keyed set remembers
      · exact ResultSet.ofEntries_keyed _ entries
  | branch query locators op children memo ih =>
      rcases gives_iff.1 given with remembers | ⟨_, _, sets, each, combines⟩
      · exact faithful.recalls.keyed set remembers
      · exact combineSets_keyed combines (forall_of_forall₂ each fun child member _ gives =>
          ih child member (faithful.ofChildren child member) gives)

/-- A faithful branch that is done gives what its operation makes of its children's sets. -/
theorem gives_branch {query locators : String} {op : Operation} {children : List Node}
    {memo : Memo} {sets : List ResultSet} {set : ResultSet}
    (notOperand : op ≠ .term ∧ op ≠ .phrase)
    (faithful : (Node.branch query locators op children memo).Faithful)
    (done : (Node.branch query locators op children memo).isDone = .ok true)
    (each : List.Forall₂ Gives children sets)
    (combines : combineSets op (Query.subject query locators) sets = .ok set) :
    (Node.branch query locators op children memo).Gives set := by
  rcases faithful.outcome_of_done done with fresh | ⟨own, remembers⟩
  · exact gives_of_worksOut fresh done ⟨sets, each, combines⟩
  · have works := faithful.recalls.combined own remembers
      (fun isOperand => isOperand.elim notOperand.1 notOperand.2)
    have same := combineSets_of_worksOut works each
    rw [combines] at same
    cases same
    exact gives_of_outcome remembers

end Node

end Concordance.Search
