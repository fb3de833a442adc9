/-
# Concordance.Proofs.Waiting -- three ways to see whether a search has come to its end

`isDone` goes down the tree and stops at the first lookup that has not completed, `wait` clears
a stack of nodes and then waits for the lookups one by one, and `take` looks first at what the
node remembers.  The stack holds the same lookups in the same order (`gather_eq_flatMap`), so
the three agree at every node of a search, whatever was done to it (`Agreed`).

A wait that comes to an open lookup is suspended there, and goes on from there when it is
polled again.  What it got past stays complete (`Waits.standing`), so at any time it gives what
a wait gives that starts anew.
-/
import Concordance.Proofs.Coherence

namespace Concordance

set_option autoImplicit false

universe u

/-- What a wait gives, by what `isDone` tells. -/
def awaited : Except SearchError Bool → Option (Except SearchError Unit)
  | .ok false => none
  | .ok true => some (.ok ())
  | .error e => some (.error e)

theorem awaited_eq_none_iff {told : Except SearchError Bool} :
    awaited told = none ↔ told = .ok false := by
  rcases told with e | (_ | _) <;> simp [awaited]

theorem awaited_eq_ok_iff {told : Except SearchError Bool} :
    awaited told = some (.ok ()) ↔ told = .ok true := by
  rcases told with e | (_ | _) <;> simp [awaited]

theorem awaited_eq_error_iff {told : Except SearchError Bool} {e : SearchError} :
    awaited told = some (.error e) ↔ told = .error e := by
  rcases told with e | (_ | _) <;> simp [awaited]

theorem Lookup.wait_eq {α : Type u} (l : Lookup α) : l.wait = awaited l.isDone := by
  unfold wait isDone
  cases l.outcome <;> rfl

namespace Search

open Concordance.Index Concordance.Query

namespace Node

/-! ## A wait for lookups in turn -/

theorem waitAll_eq (lookups : List (Lookup (List Entry))) :
    waitAll lookups = awaited (Lookup.doneInTurn lookups) := by
  induction lookups with
  | nil => rfl
  | cons l rest ih =>
      rw [waitAll, Lookup.doneInTurn, l.wait_eq, ih]
      rcases l.isDone with e | (_ | _) <;> rfl

/-- The stack holds the lookups of its nodes, from the top and from the left. -/
theorem gather_eq_flatMap (stack : List Node) : gather stack = stack.flatMap leaves := by
  induction stack using gather.induct with
  | case1 => rw [gather, List.flatMap_nil]
  | case2 query locator holder lookup memo stack ih =>
      rw [gather, ih, List.flatMap_cons]
      rfl
  | case3 query locators op children memo stack ih =>
      rw [gather, ih, List.flatMap_append, List.flatMap_cons, leaves_branch]

theorem gather_node (n : Node) : gather [n] = n.leaves := by
  rw [gather_eq_flatMap, List.flatMap_singleton]

/-- **A wait gives what `isDone` tells.** -/
theorem wait_eq (n : Node) : n.wait = awaited n.isDone := by
  rw [wait, gather_node, waitAll_eq, isDone_eq_doneInTurn]

/-! ## Three views of a node -/

/-- Waiting for a node, asking whether it is done and asking for its result agree. -/
structure Agreed (n : Node) : Prop where
  pending : (n.wait = none ↔ n.isDone = .ok false) ∧ (n.isDone = .ok false ↔ n.take.2 = .ok none)
  ready : (n.wait = some (.ok ()) ↔ n.isDone = .ok true) ∧
    (n.isDone = .ok true ↔ ∃ set, n.take.2 = .ok (some set))
  aborted : ∀ e, (n.wait = some (.error e) ↔ n.isDone = .error e) ∧
    (n.isDone = .error e ↔ n.take.2 = .error (.search e))
  /-- There is no other error than the abort of a lookup below. -/
  abort : ∀ e, n.wait = some (.error e) →
    ∃ l ∈ n.leaves, ∃ reason, l.outcome = .aborted reason ∧ e = .abort l.subject reason

theorem answered_eq_pending_iff {verdict : Option (Except SearchError ResultSet)} :
    answered verdict = .ok none ↔ verdict = none := by
  rcases verdict with _ | (e | set) <;> simp [answered, remembered]

theorem answered_eq_raised_iff {verdict : Option (Except SearchError ResultSet)} {e : SearchError} :
    answered verdict = .error (.search e) ↔ verdict = some (.error e) := by
  rcases verdict with _ | (e | set) <;> simp [answered, remembered]

/-- **The three views agree** in every search that is honest and could be planted again. -/
theorem Orderly.agreed {n : Node} (orderly : n.Orderly) : n.Agreed where
  pending := by
    rw [n.wait_eq, awaited_eq_none_iff, orderly.honest.take_answer orderly.sound,
      answered_eq_pending_iff, verdict_eq_none_iff orderly.sound]
    exact ⟨Iff.rfl, Iff.rfl⟩
  ready := by
    rw [n.wait_eq, awaited_eq_ok_iff]
    refine ⟨Iff.rfl, ?_⟩
    constructor
    · intro done
      obtain ⟨set, combined⟩ := combination_of_done orderly.sound done
      exact ⟨set, orderly.honest.gives_of_verdict
        (verdict_eq_ok_iff.2 ⟨isDone_eq_ok_true_iff.1 done, combined⟩)⟩
    · rintro ⟨set, given⟩
      exact isDone_eq_ok_true_iff.2 (verdict_eq_ok_iff.1 (orderly.honest.verdict_of_gives given)).1
  aborted e := by
    rw [n.wait_eq, awaited_eq_error_iff, orderly.honest.take_answer orderly.sound,
      answered_eq_raised_iff, verdict_eq_error_iff]
    exact ⟨Iff.rfl, Iff.rfl⟩
  abort e failed := by
    rw [n.wait_eq, awaited_eq_error_iff] at failed
    exact abort_of_isDone_eq_error failed

/-! ## A wait that is suspended -/

/-- How many lookups a wait gets past: all that stand before the first that has not completed. -/
def gotPast : List (Lookup (List Entry)) → Nat
  | [] => 0
  | l :: rest =>
      match l.wait with
      | some (.ok ()) => gotPast rest + 1
      | _ => 0

/-- Polls a wait for a node that got past some lookups before: how many it has got past now, and what
it gives. -/
def poll (past : Nat) (n : Node) : Nat × Option (Except SearchError Unit) :=
  (past + gotPast ((gather [n]).drop past), waitAll ((gather [n]).drop past))

theorem isComplete_of_gotPast (lookups : List (Lookup (List Entry))) :
    ∀ l ∈ lookups.take (gotPast lookups), l.IsComplete := by
  induction lookups with
  | nil => simp [gotPast]
  | cons l rest ih =>
      rw [gotPast]
      split
      · rename_i gone
        rw [l.wait_eq, awaited_eq_ok_iff] at gone
        rw [List.take_succ_cons, List.forall_mem_cons]
        exact ⟨Lookup.isDone_eq_ok_true_iff.1 gone, ih⟩
      · simp

/-- The first lookups below a node have completed, so many as a wait got past. -/
def Standing (past : Nat) (n : Node) : Prop := ∀ l ∈ n.leaves.take past, l.IsComplete

theorem standing_zero (n : Node) : n.Standing 0 := by
  intro l member
  rw [List.take_zero] at member
  cases member

/-- A wait that is polled gets past completed lookups only. -/
theorem Standing.poll {past : Nat} {n : Node} (standing : n.Standing past) :
    n.Standing (n.poll past).1 := by
  intro l member
  rw [Node.poll, gather_node, List.take_add, List.mem_append] at member
  rcases member with before | now
  · exact standing l before
  · exact isComplete_of_gotPast _ l now

/-- What a wait got past stays as it is. -/
theorem Standing.later {past : Nat} {n later : Node} (standing : n.Standing past)
    (proceeds : n.Proceeds later) : later.Standing past := by
  refine forall_of_forall₂ (List.forall₂_take past proceeds.kept) fun l member k kept => ?_
  rw [kept (standing l member).not_isOpen]
  exact standing l member

/-- **A wait that goes on gives what a new one gives.** -/
theorem Standing.poll_eq {past : Nat} {n : Node} (standing : n.Standing past) :
    (n.poll past).2 = n.wait := by
  show waitAll ((gather [n]).drop past) = n.wait
  rw [gather_node, waitAll_eq, n.wait_eq, isDone_eq_doneInTurn]
  conv_rhs => rw [← List.take_append_drop past n.leaves, Lookup.doneInTurn_append standing]

/-- A wait for the node at a place that is polled at some moments of a run: how many lookups it has
got past so far. -/
inductive Waits (root : Node) (place : List Nat) : List Event → Nat → Prop
  | new (events : List Event) : root.Waits place events 0
  | polled {earlier events : List Event} {past : Nat} {n : Node}
      (before : root.Waits place earlier past) (isLater : earlier <+: events)
      (placed : (root.run events).at? place = some n) : root.Waits place events (n.poll past).1

/-! ## Over a run -/

/-- Everything below an orderly search is orderly. -/
theorem Orderly.at? {n m : Node} (orderly : n.Orderly) {path : List Nat}
    (placed : n.at? path = some m) : m.Orderly := by
  induction path generalizing n with
  | nil =>
      cases placed
      exact orderly
  | cons i rest ih =>
      obtain ⟨child, found, placed⟩ := Option.bind_eq_some_iff.1 placed
      exact ih (orderly.ofChildren child (List.mem_of_getElem? found)) placed

/-- A node that is in a search is there at any later moment. -/
theorem Orderly.exists_proceeds {root : Node} (orderly : root.Orderly) {earlier events : List Event}
    (isLater : earlier <+: events) {place : List Nat} {n : Node}
    (placed : (root.run earlier).at? place = some n) :
    ∃ later, (root.run events).at? place = some later ∧ n.Proceeds later := by
  obtain ⟨more, rfl⟩ := isLater
  rw [run_append]
  have keeps := (root.run earlier).run_keeps more (root.run_keeps earlier orderly).1
  obtain ⟨later, stillPlaced, advances⟩ := keeps.2 place n placed
  exact ⟨later, stillPlaced, advances.proceeds⟩

/-- **A wait stands behind completed lookups only**, at any moment after it was polled. -/
theorem Waits.standing {root : Node} (orderly : root.Orderly) {place : List Nat}
    {earlier events : List Event} {past : Nat} {n : Node} (waits : root.Waits place earlier past)
    (isLater : earlier <+: events) (placed : (root.run events).at? place = some n) :
    n.Standing past := by
  induction waits generalizing events n with
  | new => exact n.standing_zero
  | @polled first polling past polledNode before isBefore polledAt ih =>
      have standing := (ih isBefore polledAt).poll
      obtain ⟨later, stillPlaced, proceeds⟩ := orderly.exists_proceeds isLater polledAt
      rw [placed] at stillPlaced
      cases stillPlaced
      exact standing.later proceeds

/-- What a wait gave it gives ever after. -/
theorem Proceeds.wait {n later : Node} (proceeds : n.Proceeds later)
    {answer : Except SearchError Unit} (given : n.wait = some answer) :
    later.wait = some answer := by
  rw [wait_eq] at given ⊢
  cases answer with
  | error e =>
      rw [awaited_eq_error_iff] at given ⊢
      exact proceeds.isDone_of_error given
  | ok _ =>
      rw [awaited_eq_ok_iff] at given ⊢
      exact proceeds.isDone given

end Node

/-- **Waiting, asking and taking agree.**  Whatever happens to a search, at every node a wait that is
polled, `isDone` and `take` agree, and a wait that was polled before gives what a new one gives.  Once a
wait has returned, it is never again that there is no result yet. -/
theorem run_agreed {catalog : Catalog} {query : String} {locators : List String} {root n : Node}
    (opened : (openSearch catalog query locators).search = .ok root) (events : List Event)
    {place : List Nat} (placed : (root.run events).at? place = some n) :
    n.Agreed ∧
      (∀ earlier past, earlier <+: events → root.Waits place earlier past →
        (n.poll past).2 = n.wait) ∧
      ∀ answer, n.wait = some answer → ∀ last, events <+: last →
        ∃ later, (root.run last).at? place = some later ∧ later.wait = some answer ∧
          later.take.2 ≠ .ok none := by
  have orderly := orderly_of_opened opened
  refine ⟨((root.run_keeps events orderly).1.at? placed).agreed, ?_, ?_⟩
  · intro earlier past isLater waits
    exact (waits.standing orderly isLater placed).poll_eq
  · intro answer given last isLater
    obtain ⟨later, stillPlaced, proceeds⟩ := orderly.exists_proceeds isLater placed
    have stillGiven := proceeds.wait given
    refine ⟨later, stillPlaced, stillGiven, ?_⟩
    intro missing
    have agreed := ((root.run_keeps last orderly).1.at? stillPlaced).agreed
    rw [agreed.pending.1.2 (agreed.pending.2.2 missing)] at stillGiven
    cases stillGiven

/-- A wait that was suspended at the second word, which is then given up. -/
theorem run_agreed_foundThenGone :
    (openSearch idxHeld "cat dog" ["idx"]).search = .ok catDog ∧
      (catDog.run foundThenGone).at? [] = some (catDog.run foundThenGone) ∧
      catDog.Waits [] (foundThenGone.take 3) 1 ∧
      (catDog.run foundThenGone).Agreed ∧
      ((catDog.run foundThenGone).poll 1).2 = some (.error (.abort "dog" "gone")) ∧
      ∀ last, foundThenGone <+: last → ∃ later, (catDog.run last).at? [] = some later ∧
        later.wait = some (.error (.abort "dog" "gone")) ∧ later.take.2 ≠ .ok none := by
  have waits : catDog.Waits [] (foundThenGone.take 3) 1 := by
    have once : (Node.poll 0 (catDog.run (foundThenGone.take 3))).1 = 1 := by
      rw [Node.poll, Node.gather_node]
      cbv
    rw [← once]
    exact .polled (.new []) List.nil_prefix rfl
  have given : (catDog.run foundThenGone).wait = some (.error (.abort "dog" "gone")) := by
    rw [Node.wait_eq]
    cbv
  have placed : (catDog.run foundThenGone).at? [] = some (catDog.run foundThenGone) := rfl
  obtain ⟨agreed, resumed, returned⟩ := run_agreed catDog_opened foundThenGone placed
  refine ⟨catDog_opened, placed, waits, agreed, ?_, returned _ given⟩
  rw [resumed _ 1 (List.take_prefix 3 foundThenGone) waits, given]

end Search

end Concordance
