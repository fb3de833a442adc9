/-
# Concordance.Proofs.Completion -- whether a search is done

A search asks its lookups from the left, and the first that has not completed
decides: `isDone_eq_doneInTurn` flattens the tree, and `doneInTurn_append_cons`
says what the first one left tells.  A search is done exactly when every lookup
below it has completed (`isDone_eq_ok_true_iff`).
-/
import Concordance.Proofs.Trees

namespace Concordance

set_option autoImplicit false

universe u

namespace Lookup

variable {α : Type u}

/-! ## What became of a lookup -/

/-- The lookup was given a value. -/
def IsComplete (l : Lookup α) : Prop := ∃ value, l.outcome = .complete value

/-- The lookup was given up. -/
def HasFailed (l : Lookup α) : Prop := ∃ reason, l.outcome = .aborted reason

theorem isDone_eq_ok_true_iff {l : Lookup α} : l.isDone = .ok true ↔ l.IsComplete := by
  unfold isDone IsComplete
  cases l.outcome <;> simp

theorem isDone_eq_ok_false_iff {l : Lookup α} : l.isDone = .ok false ↔ l.isOpen = true := by
  unfold isDone isOpen
  cases l.outcome <;> simp

theorem isDone_eq_error_iff {l : Lookup α} {e : SearchError} :
    l.isDone = .error e ↔ ∃ reason, l.outcome = .aborted reason ∧ e = .abort l.subject reason := by
  unfold isDone
  cases l.outcome <;> simp [eq_comm]

/-- A lookup that has not completed is open or has failed. -/
theorem isOpen_or_hasFailed {l : Lookup α} (incomplete : ¬ l.IsComplete) :
    l.isOpen = true ∨ l.HasFailed := by
  unfold IsComplete at incomplete
  unfold isOpen HasFailed
  cases outcome : l.outcome with
  | pending => exact Or.inl rfl
  | complete value => exact absurd ⟨value, outcome⟩ incomplete
  | aborted reason => exact Or.inr ⟨reason, rfl⟩

theorem HasFailed.not_isComplete {l : Lookup α} (failed : l.HasFailed) : ¬ l.IsComplete := by
  obtain ⟨reason, aborted⟩ := failed
  rintro ⟨value, complete⟩
  rw [aborted] at complete
  cases complete

theorem HasFailed.not_isOpen {l : Lookup α} (failed : l.HasFailed) : l.isOpen = false := by
  obtain ⟨reason, aborted⟩ := failed
  unfold isOpen
  rw [aborted]

theorem not_isComplete_of_isOpen {l : Lookup α} (waits : l.isOpen = true) : ¬ l.IsComplete := by
  rintro ⟨value, complete⟩
  unfold isOpen at waits
  rw [complete] at waits
  cases waits

/-! ## Lookups in turn -/

/-- What lookups tell when they are asked one after another: the first that has not completed
decides. -/
def doneInTurn : List (Lookup α) → Except SearchError Bool
  | [] => .ok true
  | l :: rest =>
      match l.isDone with
      | .ok true => doneInTurn rest
      | other => other

theorem doneInTurn_cons_complete {l : Lookup α} (complete : l.IsComplete) (rest : List (Lookup α)) :
    doneInTurn (l :: rest) = doneInTurn rest := by
  rw [doneInTurn, isDone_eq_ok_true_iff.2 complete]

theorem doneInTurn_cons_incomplete {l : Lookup α} (incomplete : ¬ l.IsComplete)
    (rest : List (Lookup α)) : doneInTurn (l :: rest) = l.isDone := by
  rw [← isDone_eq_ok_true_iff] at incomplete
  rw [doneInTurn]
  split
  · rename_i done
    exact absurd done incomplete
  · rfl

/-- Completed lookups leave the answer to those behind them. -/
theorem doneInTurn_append {before : List (Lookup α)} (complete : ∀ l ∈ before, l.IsComplete)
    (after : List (Lookup α)) : doneInTurn (before ++ after) = doneInTurn after := by
  induction before with
  | nil => rfl
  | cons l rest ih =>
      rw [List.cons_append, doneInTurn_cons_complete (complete l List.mem_cons_self),
        ih fun other member => complete other (List.mem_cons_of_mem _ member)]

/-- The first lookup that has not completed decides, whatever stands behind it. -/
theorem doneInTurn_append_cons {before : List (Lookup α)} {l : Lookup α}
    (complete : ∀ l ∈ before, l.IsComplete) (incomplete : ¬ l.IsComplete)
    (after : List (Lookup α)) : doneInTurn (before ++ l :: after) = l.isDone := by
  rw [doneInTurn_append complete, doneInTurn_cons_incomplete incomplete]

/-- Unless every lookup has completed, there is a first that has not. -/
theorem forall_isComplete_or_exists_first (lookups : List (Lookup α)) :
    (∀ l ∈ lookups, l.IsComplete) ∨
      ∃ before l after, lookups = before ++ l :: after ∧ (∀ b ∈ before, b.IsComplete) ∧
        ¬ l.IsComplete := by
  induction lookups with
  | nil =>
      left
      intro l member
      cases member
  | cons l rest ih =>
      by_cases complete : l.IsComplete
      · rcases ih with all | ⟨before, first, after, rfl, earlier, incomplete⟩
        · exact Or.inl (List.forall_mem_cons.2 ⟨complete, all⟩)
        · exact Or.inr ⟨l :: before, first, after, rfl,
            List.forall_mem_cons.2 ⟨complete, earlier⟩, incomplete⟩
      · refine Or.inr ⟨[], l, rest, rfl, ?_, complete⟩
        intro b member
        cases member

theorem doneInTurn_eq_ok_true_iff {lookups : List (Lookup α)} :
    doneInTurn lookups = .ok true ↔ ∀ l ∈ lookups, l.IsComplete := by
  constructor
  · intro done
    rcases forall_isComplete_or_exists_first lookups with
      all | ⟨before, l, after, rfl, earlier, incomplete⟩
    · exact all
    · rw [doneInTurn_append_cons earlier incomplete, isDone_eq_ok_true_iff] at done
      exact absurd done incomplete
  · intro all
    simpa [doneInTurn] using doneInTurn_append all []

end Lookup

namespace Search.Node

/-! ## Searches -/

theorem allDone_eq_ok_true_iff {nodes : List Node} :
    allDone nodes = .ok true ↔ ∀ n ∈ nodes, n.isDone = .ok true := by
  induction nodes with
  | nil => simp [allDone]
  | cons n rest ih =>
      rw [allDone, List.forall_mem_cons, ← ih]
      split
      · rename_i done
        simp [done]
      · rename_i other notDone
        simp [show n.isDone ≠ .ok true from notDone]

/-- The leaves of a search are asked in turn, however it is nested. -/
theorem isDone_eq_doneInTurn (n : Node) : n.isDone = Lookup.doneInTurn n.leaves := by
  induction n with
  | leaf query locator holder lookup memo =>
      by_cases complete : lookup.IsComplete
      · show lookup.isDone = Lookup.doneInTurn [lookup]
        rw [Lookup.doneInTurn_cons_complete complete]
        exact Lookup.isDone_eq_ok_true_iff.2 complete
      · exact (Lookup.doneInTurn_cons_incomplete complete []).symm
  | branch query locators op children memo ih =>
      -- One child after another is the same as one lookup after another.
      rw [leaves_branch]
      show allDone children = _
      induction children with
      | nil => rfl
      | cons n rest more =>
          have first := ih n List.mem_cons_self
          have others := more fun child member => ih child (List.mem_cons_of_mem _ member)
          rw [List.flatMap_cons, allDone, first, others]
          rcases Lookup.forall_isComplete_or_exists_first n.leaves with
            all | ⟨before, l, after, cut, earlier, incomplete⟩
          · rw [Lookup.doneInTurn_append all, Lookup.doneInTurn_eq_ok_true_iff.2 all]
          · rw [cut, List.append_assoc, List.cons_append,
              Lookup.doneInTurn_append_cons earlier incomplete,
              Lookup.doneInTurn_append_cons earlier incomplete]
            rw [← Lookup.isDone_eq_ok_true_iff] at incomplete
            split
            · rename_i done
              exact absurd done incomplete
            · rfl

/-- A search is done exactly when every lookup below it has completed. -/
theorem isDone_eq_ok_true_iff {n : Node} : n.isDone = .ok true ↔ ∀ l ∈ n.leaves, l.IsComplete := by
  rw [isDone_eq_doneInTurn, Lookup.doneInTurn_eq_ok_true_iff]

/-- The first lookup below a search that has not completed decides. -/
theorem isDone_eq_of_first {n : Node} {before after : List (Lookup (List Entry))}
    {l : Lookup (List Entry)} (cut : n.leaves = before ++ l :: after)
    (earlier : ∀ b ∈ before, b.IsComplete) (incomplete : ¬ l.IsComplete) : n.isDone = l.isDone := by
  rw [isDone_eq_doneInTurn, cut, Lookup.doneInTurn_append_cons earlier incomplete]

/-- Whatever error a search answers is the abort of a lookup below it. -/
theorem failed_of_isDone_eq_error {n : Node} {e : SearchError} (failed : n.isDone = .error e) :
    ∃ l ∈ n.leaves, l.HasFailed := by
  rcases Lookup.forall_isComplete_or_exists_first n.leaves with
    all | ⟨before, l, after, cut, earlier, incomplete⟩
  · rw [isDone_eq_ok_true_iff.2 all] at failed
    cases failed
  · rw [isDone_eq_of_first cut earlier incomplete] at failed
    obtain ⟨reason, outcome, _⟩ := Lookup.isDone_eq_error_iff.1 failed
    refine ⟨l, ?_, reason, outcome⟩
    rw [cut]
    exact List.mem_append_right _ List.mem_cons_self

/-- A search that waits has an open lookup. -/
theorem exists_isOpen_of_isDone {n : Node} (waits : n.isDone = .ok false) :
    ∃ l ∈ n.leaves, l.isOpen = true := by
  rcases Lookup.forall_isComplete_or_exists_first n.leaves with
    all | ⟨before, l, after, cut, earlier, incomplete⟩
  · rw [isDone_eq_ok_true_iff.2 all] at waits
    cases waits
  · rw [isDone_eq_of_first cut earlier incomplete, Lookup.isDone_eq_ok_false_iff] at waits
    refine ⟨l, ?_, waits⟩
    rw [cut]
    exact List.mem_append_right _ List.mem_cons_self

end Search.Node

end Concordance
