/-
# Concordance.Proofs.Aborts -- where an abort shows

A search has three views of a failed lookup: `isDone`, the counters, and the
status that is told to other nodes.  The counters visit every lookup; `isDone`, and
with it the status, stops at the first that has not completed.  So the views agree
(`AbortSurfaces`) unless the failed lookups all stand behind an open one
(`Node.HidesAbort`), and then they do not.
-/
import Concordance.Http.Serve
import Concordance.Proofs.Completion
import Concordance.Proofs.Sums

namespace Concordance

open Concordance.Http Concordance.Search

set_option autoImplicit false

namespace Search.Node

/-! ## Counters and failed lookups -/

/-- Counters tell the failures of some lookups: an abort among the counters is that of a lookup,
and a failed lookup keeps some counters from being given. -/
structure Tells (counters : List (Except Failure Parts)) (lookups : List (Lookup (List Entry))) :
    Prop where
  justified : ∀ e, Except.error (Failure.search e) ∈ counters → ∃ l ∈ lookups, l.HasFailed
  raised : (∃ l ∈ lookups, l.HasFailed) → ∃ f, Except.error f ∈ counters

theorem Tells.flatMap {α : Type} {items : List α} {counters : α → List (Except Failure Parts)}
    {lookups : α → List (Lookup (List Entry))}
    (each : ∀ a ∈ items, Tells (counters a) (lookups a)) :
    Tells (items.flatMap counters) (items.flatMap lookups) := by
  constructor
  · intro e member
    obtain ⟨a, isItem, told⟩ := List.mem_flatMap.1 member
    obtain ⟨l, below, failed⟩ := (each a isItem).justified e told
    exact ⟨l, List.mem_flatMap.2 ⟨a, isItem, below⟩, failed⟩
  · rintro ⟨l, member, failed⟩
    obtain ⟨a, isItem, below⟩ := List.mem_flatMap.1 member
    obtain ⟨f, told⟩ := (each a isItem).raised ⟨l, below, failed⟩
    exact ⟨f, List.mem_flatMap.2 ⟨a, isItem, told⟩⟩

/-- A sum tells what its summands tell. -/
theorem Tells.sum {counters : List (Except Failure Parts)} {lookups : List (Lookup (List Entry))}
    (told : Tells counters lookups) : Tells [Parts.sum counters] lookups := by
  constructor
  · intro e member
    have failed : Parts.sum counters = .error (.search e) := (List.mem_singleton.1 member).symm
    exact told.justified e (Parts.mem_of_sum_eq_search failed)
  · intro failed
    obtain ⟨f, member⟩ := told.raised failed
    cases total : Parts.sum counters with
    | ok p => exact absurd member (Parts.not_mem_of_sum_eq_ok total f)
    | error g => exact ⟨g, List.mem_singleton_self _⟩

/-- The counters that a node hands up to the branch above it. -/
def handedUp (n : Node) : List (Except Failure Parts) :=
  if n.isLeaf || n.reportedParts.isEmpty then [n.parts] else n.reportedParts

theorem liftedParts_eq_flatMap (nodes : List Node) : liftedParts nodes = nodes.flatMap handedUp := by
  induction nodes with
  | nil => rfl
  | cons n rest ih => rw [liftedParts, List.flatMap_cons, ih, handedUp]

theorem partsOf_eq_flatMap (nodes : List Node) :
    partsOf nodes = nodes.flatMap (fun n => [n.parts]) := by
  induction nodes with
  | nil => rfl
  | cons n rest ih => rw [partsOf, List.flatMap_cons, ih, List.singleton_append]

theorem parts_branch (query locators : String) (op : Operation) (children : List Node)
    (memo : Memo) :
    (Node.branch query locators op children memo).parts =
      Parts.sum (Node.branch query locators op children memo).reportedParts := by
  rw [parts, reportedParts]

theorem leaf_tells (query locator : String) (holder : Option Nat) (lookup : Lookup (List Entry))
    (memo : Memo) :
    Tells [(Node.leaf query locator holder lookup memo).parts] [lookup] := by
  simp only [parts]
  constructor
  · intro e member
    refine ⟨lookup, List.mem_singleton_self _, ?_⟩
    unfold Lookup.progress at member
    unfold Lookup.HasFailed
    cases outcome : lookup.outcome with
    | aborted reason => exact ⟨reason, rfl⟩
    | pending => simp [outcome, Except.mapError] at member
    | complete value => simp [outcome, Except.mapError] at member
  · rintro ⟨l, member, reason, aborted⟩
    rw [List.mem_singleton.1 member] at aborted
    refine ⟨.search (.abort lookup.subject reason), ?_⟩
    simp [Lookup.progress, aborted, Except.mapError]

/-- The counters of a search, and those that it reports, tell the failures of its lookups. -/
theorem parts_tell (n : Node) : Tells [n.parts] n.leaves ∧ Tells n.reportedParts n.leaves := by
  induction n with
  | leaf query locator holder lookup memo =>
      have told := leaf_tells query locator holder lookup memo
      exact ⟨told, told⟩
  | branch query locators op children memo ih =>
      have reported : Tells (Node.branch query locators op children memo).reportedParts
          (Node.branch query locators op children memo).leaves := by
        rw [leaves_branch, reportedParts]
        split
        · rw [partsOf_eq_flatMap]
          exact Tells.flatMap fun child member => (ih child member).1
        · rw [liftedParts_eq_flatMap]
          refine Tells.flatMap fun child member => ?_
          unfold handedUp
          split
          · exact (ih child member).1
          · exact (ih child member).2
      rw [parts_branch]
      exact ⟨reported.sum, reported⟩

theorem parts_ne_ok_of_failed {n : Node} (failed : ∃ l ∈ n.leaves, l.HasFailed) (p : Parts) :
    n.parts ≠ .ok p := by
  intro given
  obtain ⟨f, member⟩ := (parts_tell n).1.raised failed
  rw [given] at member
  cases List.mem_singleton.1 member

theorem failed_of_parts_eq_error {n : Node} {e : SearchError}
    (failed : n.parts = .error (.search e)) : ∃ l ∈ n.leaves, l.HasFailed :=
  (parts_tell n).1.justified e (by rw [failed]; exact List.mem_singleton_self _)

/-! ## Aborts behind an open lookup -/

/-- The first lookup that has not completed is open, and one behind it has failed. -/
def HidesAbort (n : Node) : Prop :=
  ∃ before l after, n.leaves = before ++ l :: after ∧ (∀ b ∈ before, b.IsComplete) ∧
    l.isOpen = true ∧ ∃ a ∈ after, a.HasFailed

theorem HidesAbort.isDone {n : Node} (hides : n.HidesAbort) : n.isDone = .ok false := by
  obtain ⟨before, l, after, cut, earlier, waits, _⟩ := hides
  rw [isDone_eq_of_first cut earlier (Lookup.not_isComplete_of_isOpen waits)]
  exact Lookup.isDone_eq_ok_false_iff.2 waits

theorem HidesAbort.failed {n : Node} (hides : n.HidesAbort) : ∃ l ∈ n.leaves, l.HasFailed := by
  obtain ⟨before, l, after, cut, _, _, a, member, failed⟩ := hides
  refine ⟨a, ?_, failed⟩
  rw [cut]
  exact List.mem_append_right _ (List.mem_cons_of_mem _ member)

/-- An abort that is not hidden is the answer of the search. -/
theorem isDone_eq_abort {n : Node} (shows : ¬ n.HidesAbort)
    (failed : ∃ l ∈ n.leaves, l.HasFailed) :
    ∃ l ∈ n.leaves, ∃ reason, l.outcome = .aborted reason ∧
      n.isDone = .error (.abort l.subject reason) := by
  obtain ⟨a, member, aborted⟩ := failed
  -- The first lookup that has not completed decides; open, it would hide the abort.
  rcases Lookup.forall_isComplete_or_exists_first n.leaves with
    all | ⟨before, l, after, cut, earlier, incomplete⟩
  · exact absurd (all a member) aborted.not_isComplete
  · rcases Lookup.isOpen_or_hasFailed incomplete with waits | ⟨reason, outcome⟩
    · rw [cut, List.mem_append, List.mem_cons] at member
      rcases member with isEarlier | rfl | isLater
      · exact absurd (earlier a isEarlier) aborted.not_isComplete
      · rw [aborted.not_isOpen] at waits
        cases waits
      · exact absurd ⟨before, l, after, cut, earlier, waits, a, isLater, aborted⟩ shows
    · refine ⟨l, ?_, reason, outcome, ?_⟩
      · rw [cut]
        exact List.mem_append_right _ List.mem_cons_self
      · rw [isDone_eq_of_first cut earlier incomplete]
        exact Lookup.isDone_eq_error_iff.2 ⟨reason, outcome, rfl⟩

end Search.Node

/-! ## The status that is told -/

namespace Http

theorem status_name_ne_errorStatus (status : Status) : status.name ≠ errorStatus := by
  cases status <;> decide

/-- The status of a search is told as an error exactly when `isDone` raises one. -/
theorem statusOf_eq_errorStatus_iff {s : Service} {ref : NodeRef} {n : Node}
    (placed : s.node? ref = some n) :
    (statusOf s ref).2.1 = errorStatus ↔ ∃ e, n.isDone = .error e := by
  unfold statusOf
  rw [placed, Option.map_some]
  cases n.isDone with
  | error e => simp
  | ok done =>
      constructor
      · intro told
        exact absurd told (status_name_ne_errorStatus _)
      · rintro ⟨_, impossible⟩
        cases impossible

end Http

/-! ## When the views agree -/

/-- Every view of a node shows an abort below it, and nothing else does. -/
structure AbortSurfaces (s : Service) (ref : NodeRef) (n : Node) : Prop where
  /-- A failed lookup is raised as an abort. -/
  raised : (∃ l ∈ n.leaves, l.HasFailed) →
    ∃ l ∈ n.leaves, ∃ reason, l.outcome = .aborted reason ∧
      n.isDone = .error (.abort l.subject reason)
  /-- The node is done exactly when every lookup has completed. -/
  done : n.isDone = .ok true ↔ ∀ l ∈ n.leaves, l.IsComplete
  /-- It waits only for an open lookup, while none has failed. -/
  waiting : n.isDone = .ok false →
    (∃ l ∈ n.leaves, l.isOpen = true) ∧ ∀ l ∈ n.leaves, ¬ l.HasFailed
  /-- No counters are given of a search that has failed. -/
  withheld : ∀ e, n.isDone = .error e → ∀ p, n.parts ≠ .ok p
  /-- The counters raise no abort of a search that has not failed. -/
  counted : ∀ done, n.isDone = .ok done → ∀ e, n.parts ≠ .error (.search e)
  /-- The status of a search with a failed lookup is told as an error. -/
  told : (∃ l ∈ n.leaves, l.HasFailed) → (statusOf s ref).2.1 = errorStatus

/-- **An abort surfaces unless it is hidden.**  The views of a node agree exactly when no failed
lookup stands behind the first open one.  Behind it, the counters fail while the node still waits
and its status is not told as an error. -/
theorem abortSurfaces_iff {s : Service} {ref : NodeRef} {n : Node}
    (placed : s.node? ref = some n) :
    (AbortSurfaces s ref n ↔ ¬ n.HidesAbort) ∧
      (n.HidesAbort → n.isDone = .ok false ∧ (∀ p, n.parts ≠ .ok p) ∧
        (statusOf s ref).2.1 ≠ errorStatus) := by
  refine ⟨⟨?_, ?_⟩, ?_⟩
  · intro surfaces hides
    exact (surfaces.waiting hides.isDone).2 _ hides.failed.choose_spec.1 hides.failed.choose_spec.2
  · intro shows
    have raised := Node.isDone_eq_abort shows
    have notFailed {done : Bool} (known : n.isDone = .ok done) : ∀ l ∈ n.leaves, ¬ l.HasFailed := by
      intro l member failed
      obtain ⟨_, _, _, _, error⟩ := raised ⟨l, member, failed⟩
      rw [known] at error
      cases error
    exact {
      raised
      done := Node.isDone_eq_ok_true_iff
      waiting := fun waits => ⟨Node.exists_isOpen_of_isDone waits, notFailed waits⟩
      withheld := fun e error => Node.parts_ne_ok_of_failed (Node.failed_of_isDone_eq_error error)
      counted := fun done known e counters => by
        obtain ⟨l, member, failed⟩ := Node.failed_of_parts_eq_error counters
        exact notFailed known l member failed
      told := fun failed => by
        obtain ⟨_, _, _, _, error⟩ := raised failed
        exact (statusOf_eq_errorStatus_iff placed).2 ⟨_, error⟩ }
  · intro hides
    refine ⟨hides.isDone, Node.parts_ne_ok_of_failed hides.failed, ?_⟩
    intro told
    obtain ⟨e, error⟩ := (statusOf_eq_errorStatus_iff placed).1 told
    rw [hides.isDone] at error
    cases error

/-! ## An abort that is hidden -/

/-- A service where somebody answers the lookups of `idx`. -/
def oneHolder : Service := ((Service.start ⟨.absent, 1⟩).register "idx" (fun _ => .ok none)).1

/-- Two words were asked for; the second was given up while the first is open. -/
def secondAborted : Service :=
  ((oneHolder.startSearch "cat dog" "idx").1.abort 0 "dog" "gone").1

/-- The search for the two words. -/
def halfAborted : Node :=
  .branch "cat dog" "idx" .intersection
    [.leaf "cat" "idx" (some 0) (.fresh "cat") Memo.fresh,
      .leaf "dog" "idx" (some 0) ((Lookup.fresh "dog").abort "gone") Memo.fresh] Memo.fresh

theorem secondAborted_node? : secondAborted.node? (.root 0) = some halfAborted := by cbv

theorem abortSurfaces_iff_secondAborted :
    secondAborted.node? (.root 0) = some halfAborted ∧
      ((AbortSurfaces secondAborted (.root 0) halfAborted ↔ ¬ halfAborted.HidesAbort) ∧
        (halfAborted.HidesAbort → halfAborted.isDone = .ok false ∧
          (∀ p, halfAborted.parts ≠ .ok p) ∧
          (statusOf secondAborted (.root 0)).2.1 ≠ errorStatus)) :=
  ⟨secondAborted_node?, abortSurfaces_iff secondAborted_node?⟩

/-- A failed lookup behind an open one shows in the counters alone. -/
theorem abort_hidden_behind_open_lookup :
    secondAborted.node? (.root 0) = some halfAborted ∧ (∃ l ∈ halfAborted.leaves, l.HasFailed) ∧
      halfAborted.isDone = .ok false ∧
      halfAborted.parts = .error (.search (.abort "dog" "gone")) ∧
      (statusOf secondAborted (.root 0)).2.1 = "Busy" := by
  refine ⟨secondAborted_node?, ?_, rfl, rfl, by cbv⟩
  refine ⟨(Lookup.fresh "dog").abort "gone", ?_, "gone", rfl⟩
  exact List.mem_cons_of_mem _ List.mem_cons_self

end Concordance
