/-
# Concordance.Proofs.Life -- what may become of a search

While a search is live its lookups are resolved, its status is asked for and results
are taken anywhere in it, in any order.  None of this changes what the search is for
or takes anything back: `Node.Becomes` collects what stays, and every operation on a
search has a lemma that the search becomes what the operation leaves.

Where only a part of a search changes, the whole becomes the changed whole
(`becomes_children`, `modify_becomes`), so each operation is looked at on its own.
-/
import Concordance.Proofs.Results

namespace Concordance.Search

open Concordance.Query

set_option autoImplicit false

universe u v w

/-! ## Lists in step -/

theorem forall₂_of_common {α : Type u} {β : Type v} {γ : Type w} {R : α → β → Prop}
    {S : α → γ → Prop} {T : β → γ → Prop} {items : List α} {others : List β} {results : List γ}
    (first : List.Forall₂ R items others) (second : List.Forall₂ S items results)
    (step : ∀ a b c, R a b → S a c → T b c) : List.Forall₂ T others results := by
  induction first generalizing results with
  | nil =>
      cases second
      exact .nil
  | cons related _ ih =>
      cases second with
      | cons given rest => exact .cons (step _ _ _ related given) (ih rest)

theorem forall₂_modify {α : Type u} {R : α → α → Prop} {f : α → α} (refl : ∀ a, R a a)
    (items : List α) (i : Nat) (step : ∀ a, items[i]? = some a → R a (f a)) :
    List.Forall₂ R items (items.modify i f) := by
  induction items generalizing i with
  | nil => simp
  | cons a rest ih =>
      cases i with
      | zero => exact .cons (step a rfl) (List.forall₂_same.2 fun b _ => refl b)
      | succ i => exact .cons (refl a) (ih i step)

namespace Node

/-! ## What stays -/

/-- A later state of a search: what it is for has stayed, and nothing that was known of it is lost. -/
structure Becomes (n later : Node) : Prop where
  /-- It searches for the same. -/
  shape : later.shape = n.shape
  /-- It searches in the same indexes. -/
  locators : later.locators = n.locators
  /-- Once done, it stays done. -/
  done : n.isDone = .ok true → later.isDone = .ok true
  /-- A failed lookup stays failed. -/
  failed : (∃ l ∈ n.leaves, l.HasFailed) → ∃ l ∈ later.leaves, l.HasFailed
  /-- A result that is given is given again. -/
  gives : ∀ set, n.Gives set → later.Gives set
  /-- Memories stay justified. -/
  faithful : n.Faithful → later.Faithful

theorem Becomes.refl (n : Node) : n.Becomes n :=
  ⟨rfl, rfl, id, id, fun _ => id, id⟩

theorem Becomes.trans {n later last : Node} (first : n.Becomes later) (second : later.Becomes last) :
    n.Becomes last where
  shape := second.shape.trans first.shape
  locators := second.locators.trans first.locators
  done := second.done ∘ first.done
  failed := second.failed ∘ first.failed
  gives set := second.gives set ∘ first.gives set
  faithful := second.faithful ∘ first.faithful

theorem query_eq_of_shape {n m : Node} (same : m.shape = n.shape) : m.query = n.query := by
  cases n with
  | leaf query locator holder lookup memo =>
      obtain ⟨_, _, _, _, rfl⟩ := shape_eq_term_iff.1 same
      rfl
  | branch query locators op children memo =>
      rw [shape_branch] at same
      obtain ⟨_, _, _, rfl, _⟩ := shape_eq_branch_iff.1 same
      rfl

/-- A branch becomes the branch over what its children become. -/
theorem becomes_children {query locators : String} {op : Operation} {children later : List Node}
    {memo : Memo} (each : List.Forall₂ Becomes children later) :
    (Node.branch query locators op children memo).Becomes
      (.branch query locators op later memo) := by
  have shapes : later.map shape = children.map shape := by
    induction each with
    | nil => rfl
    | cons first _ ih => rw [List.map_cons, List.map_cons, first.shape, ih]
  have allDone : allDone children = .ok true → allDone later = .ok true := by
    intro done
    rw [allDone_eq_ok_true_iff] at done ⊢
    exact forall_of_forall₂ each fun child member _ becomes => becomes.done (done child member)
  have failed : (∃ l ∈ children.flatMap leaves, l.HasFailed) →
      ∃ l ∈ later.flatMap leaves, l.HasFailed := by
    simp only [List.mem_flatMap]
    rintro ⟨l, ⟨child, member, below⟩, aborted⟩
    obtain ⟨other, isLater, l, below, aborted⟩ := exists_of_forall₂ each
      (fun _ _ becomes => becomes.failed) ⟨child, member, l, below, aborted⟩
    exact ⟨l, ⟨other, isLater, below⟩, aborted⟩
  have works : ∀ set, (Node.branch query locators op children memo).WorksOut set →
      (Node.branch query locators op later memo).WorksOut set := by
    rintro set ⟨sets, given, combines⟩
    exact ⟨sets, forall₂_of_common each given (fun _ _ _ becomes => becomes.gives _), combines⟩
  refine ⟨?_, rfl, allDone, ?_, ?_, ?_⟩
  · rw [shape_branch, shape_branch, shapes]
  · rw [leaves_branch, leaves_branch]
    exact failed
  · intro set given
    rcases gives_iff.1 given with remembers | ⟨fresh, done, worked⟩
    · exact gives_of_outcome remembers
    · exact gives_of_worksOut fresh (allDone done) (works set worked)
  · intro faithful
    refine .intro ⟨faithful.recalls.keyed, ?_, ?_⟩ ?_
    · intro set remembers notOperand
      exact works set (faithful.recalls.combined set remembers notOperand)
    · intro e remembers
      have aborted := faithful.recalls.failed e remembers
      rw [leaves_branch] at aborted ⊢
      exact failed aborted
    · exact forall_of_forall₂ each fun child member _ becomes =>
        becomes.faithful (faithful.ofChildren child member)

/-! ## Other memories -/

section Memories

variable (memo : Memo) (n : Node)

@[simp] theorem memo_withMemo : (n.withMemo memo).memo = memo := by cases n <;> rfl

@[simp] theorem locators_withMemo : (n.withMemo memo).locators = n.locators := by cases n <;> rfl

@[simp] theorem operation_withMemo : (n.withMemo memo).operation = n.operation := by
  cases n <;> rfl

@[simp] theorem children_withMemo : (n.withMemo memo).children = n.children := by cases n <;> rfl

@[simp] theorem shape_withMemo : (n.withMemo memo).shape = n.shape := by
  cases n <;> simp [withMemo, shape]

@[simp] theorem leaves_withMemo : (n.withMemo memo).leaves = n.leaves := by
  cases n <;> simp [withMemo, leaves]

@[simp] theorem isDone_withMemo : (n.withMemo memo).isDone = n.isDone := by
  simp [isDone_eq_doneInTurn]

@[simp] theorem worksOut_withMemo (set : ResultSet) :
    (n.withMemo memo).WorksOut set ↔ n.WorksOut set := by
  cases n <;> rfl

end Memories

/-- A search becomes the same one with other memories, provided that these are justified and keep
what was given. -/
theorem becomes_withMemo {n : Node} {memo : Memo}
    (gives : ∀ set, n.Gives set → (n.withMemo memo).Gives set)
    (recalls : n.Faithful → (n.withMemo memo).Recalls) : n.Becomes (n.withMemo memo) where
  shape := shape_withMemo memo n
  locators := locators_withMemo memo n
  done := by simp
  failed := by simp
  gives
  faithful faithful := .intro (recalls faithful) (by simpa using faithful.ofChildren)

/-- Memories of the same outcome are as good. -/
theorem becomes_withMemo_of_outcome {n : Node} {memo : Memo}
    (same : memo.outcome = n.memo.outcome) : n.Becomes (n.withMemo memo) := by
  refine becomes_withMemo ?_ ?_
  · intro set given
    rw [gives_iff] at given ⊢
    simpa [same] using given
  · intro faithful
    have recalls := faithful.recalls
    exact {
      keyed := by simpa [same] using recalls.keyed
      combined := by simpa [same, IsOperand] using recalls.combined
      failed := by simpa [same] using recalls.failed }

/-! ## Asking for the status -/

/-- Asking for the status changes the status alone. -/
theorem refresh_cases (n : Node) :
    n.refresh = n ∨ ∃ memo, memo.outcome = n.memo.outcome ∧ n.refresh = n.withMemo memo := by
  unfold refresh
  split
  · split
    · exact Or.inr ⟨{ n.memo with status := .ready }, rfl, rfl⟩
    · exact Or.inl rfl
  · exact Or.inl rfl

theorem refresh_becomes (n : Node) : n.Becomes n.refresh := by
  rcases n.refresh_cases with same | ⟨memo, outcome, same⟩
  · rw [same]
    exact .refl n
  · rw [same]
    exact becomes_withMemo_of_outcome outcome

/-! ## Taking results -/

/-- An error that a faithful search raises is the abort of a lookup below it. -/
theorem Faithful.failed_of_take {n : Node} (faithful : n.Faithful) {e : SearchError}
    (raised : n.take.2 = .error (.search e)) : ∃ l ∈ n.leaves, l.HasFailed := by
  induction n using induction_children with
  | step n ih =>
      rcases raises_cases raised with remembers | failed | ⟨_, child, isChild, childRaised⟩
      · exact faithful.recalls.failed e remembers
      · exact failed_of_isDone_eq_error failed
      · obtain ⟨l, below, failed⟩ := ih child isChild (faithful.ofChildren child isChild) childRaised
        exact ⟨l, mem_leaves_of_mem_children isChild below, failed⟩

/-- A search that becomes another becomes the other with the memory of what it answered. -/
theorem becomes_concluded {n later : Node} (worked : Except Failure ResultSet)
    (becomes : n.Becomes later) (fresh : later.memo.outcome = none)
    (answer : n.take.2 = (conclude worked).2) :
    n.Becomes (later.withMemo (conclude worked).1) := by
  -- What is remembered is what was answered, so what the search gives justifies it.
  have gives : ∀ set, n.Gives set → (later.withMemo (conclude worked).1).Gives set := by
    intro set given
    rw [Gives, answer, conclude_gives_iff, ← conclude_outcome_iff] at given
    exact gives_of_outcome (by rw [memo_withMemo]; exact given)
  have given : ∀ set, (conclude worked).1.outcome = some (.ok set) → n.Gives set := by
    intro set remembers
    rw [Gives, answer, conclude_gives_iff, ← conclude_outcome_iff]
    exact remembers
  refine ⟨?_, ?_, ?_, ?_, gives, ?_⟩
  · rw [shape_withMemo, becomes.shape]
  · rw [locators_withMemo, becomes.locators]
  · rw [isDone_withMemo]
    exact becomes.done
  · rw [leaves_withMemo]
    exact becomes.failed
  · intro faithful
    have laterFaithful := becomes.faithful faithful
    refine .intro ⟨?_, ?_, ?_⟩ (by simpa using laterFaithful.ofChildren)
    · intro set remembers
      rw [memo_withMemo] at remembers
      exact faithful.gives_keyed (given set remembers)
    · intro set remembers _
      rw [memo_withMemo] at remembers
      rw [worksOut_withMemo]
      rcases gives_iff.1 (becomes.gives set (given set remembers)) with known | ⟨_, _, works⟩
      · rw [fresh] at known
        cases known
      · exact works
    · intro e remembers
      rw [memo_withMemo, ← conclude_raises_iff, ← answer] at remembers
      rw [leaves_withMemo]
      exact becomes.failed (faithful.failed_of_take remembers)

/-- Of nodes that are asked together each is left as it is or as asking it leaves it. -/
theorem forall₂_takeAll {R : Node → Node → Prop} (refl : ∀ n, R n n) {nodes : List Node}
    (each : ∀ n ∈ nodes, R n n.take.1) : List.Forall₂ R nodes (takeAll nodes).1 := by
  induction nodes with
  | nil => exact .nil
  | cons n rest ih =>
      have first := each n List.mem_cons_self
      have others := ih fun other member => each other (List.mem_cons_of_mem _ member)
      have untouched : List.Forall₂ R rest rest := List.forall₂_same.2 fun other _ => refl other
      rw [takeAll]
      rcases taken : n.take with ⟨after, (e | (_ | set))⟩
      · rw [taken] at first
        exact .cons first untouched
      · rw [taken] at first
        exact .cons first untouched
      · rw [taken] at first
        exact .cons first others

@[simp] theorem memo_withChildren (children : List Node) (n : Node) :
    (n.withChildren children).memo = n.memo := by cases n <;> rfl

theorem withChildren_becomes {n : Node} {children : List Node}
    (each : List.Forall₂ Becomes n.children children) : n.Becomes (n.withChildren children) := by
  cases n with
  | leaf query locator holder lookup memo => exact .refl _
  | branch query locators op own memo => exact becomes_children each

/-- **Taking a result** takes nothing back. -/
theorem take_becomes (n : Node) : n.Becomes n.take.1 := by
  induction n using induction_children with
  | step n ih =>
      rcases n.take_cases with ⟨_, _, taken⟩ | ⟨_, _, taken⟩ | ⟨later, worked, fresh, _, asked, taken⟩
      · rw [taken]
        exact .refl n
      · rw [taken]
        exact .refl n
      · have below : n.Becomes later ∧ later.memo.outcome = none := by
          rcases asked with rfl | rfl
          · exact ⟨.refl _, fresh⟩
          · exact ⟨withChildren_becomes (forall₂_takeAll Becomes.refl ih), by
              rw [memo_withChildren, fresh]⟩
        have concluded := becomes_concluded worked below.1 below.2 (by rw [taken])
        rw [taken]
        exact concluded

/-! ## Resolving lookups -/

theorem onOpenAll_eq_map (serial : Nat) (term : Option String)
    (f : Lookup (List Entry) → Lookup (List Entry)) (nodes : List Node) :
    onOpenAll serial term f nodes = nodes.map (onOpen serial term f) := by
  induction nodes with
  | nil => rfl
  | cons n rest ih => rw [onOpenAll, List.map_cons, ih]

/-- An open lookup may become any other. -/
theorem becomes_of_isOpen {query locator : String} {holder : Option Nat}
    {lookup : Lookup (List Entry)} {memo : Memo} (waits : lookup.isOpen = true)
    (other : Lookup (List Entry)) :
    (Node.leaf query locator holder lookup memo).Becomes (.leaf query locator holder other memo) := by
  -- Of an open lookup nothing is known that could be lost.
  have notDone : lookup.isDone ≠ .ok true := by
    rw [Lookup.isDone_eq_ok_false_iff.2 waits]
    simp
  have notFailed : ∀ l ∈ [lookup], ¬ l.HasFailed := by
    intro l member failed
    rw [List.mem_singleton.1 member] at failed
    rw [failed.not_isOpen] at waits
    cases waits
  refine ⟨rfl, rfl, fun done => absurd done notDone, ?_, ?_, ?_⟩
  · rintro ⟨l, member, failed⟩
    exact absurd failed (notFailed l (by simpa [leaves] using member))
  · intro set given
    rcases gives_iff.1 given with remembers | ⟨_, done, _⟩
    · exact gives_of_outcome remembers
    · exact absurd done notDone
  · intro faithful
    refine .intro ⟨faithful.recalls.keyed, ?_, ?_⟩ faithful.ofChildren
    · intro set _ notOperand
      exact absurd (Or.inl rfl) notOperand
    · intro e remembers
      obtain ⟨l, member, failed⟩ := faithful.recalls.failed e remembers
      exact absurd failed (notFailed l (by simpa [leaves] using member))

/-- **Resolving lookups** changes open ones alone, whatever it makes of them. -/
theorem onOpen_becomes (serial : Nat) (term : Option String)
    (f : Lookup (List Entry) → Lookup (List Entry)) (n : Node) :
    n.Becomes (n.onOpen serial term f) := by
  induction n with
  | leaf query locator holder lookup memo =>
      rw [onOpen]
      split
      · rename_i held
        simp only [isHeldBy, Bool.and_eq_true] at held
        exact becomes_of_isOpen held.1.1 _
      · exact .refl _
  | branch query locators op children memo ih =>
      rw [onOpen, onOpenAll_eq_map]
      exact becomes_children (List.forall₂_map_right_iff.2 (List.forall₂_same.2 ih))

/-! ## Changes at a place -/

/-- What every node is to itself, and a branch is to another one if its children are, the search is to
the one in which the node at a place has changed, if this node is. -/
theorem modify_of_children {R : Node → Node → Prop} (refl : ∀ n, R n n)
    (branch : ∀ {query locators : String} {op : Operation} {children later : List Node}
      {memo : Memo}, List.Forall₂ R children later →
        R (.branch query locators op children memo) (.branch query locators op later memo))
    {f : Node → Node} (path : List Nat) (n : Node)
    (step : ∀ m, n.at? path = some m → R m (f m)) : R n (n.modify f path) := by
  induction path generalizing n with
  | nil => exact step n rfl
  | cons i rest ih =>
      cases n with
      | leaf query locator holder lookup memo => exact refl _
      | branch query locators op children memo =>
          refine branch (forall₂_modify refl children i ?_)
          intro child found
          refine ih child fun m placed => step m ?_
          show (children[i]?).bind (at? rest) = some m
          rw [found]
          exact placed

/-- A search becomes the one in which the node at a place has become another. -/
theorem modify_becomes {f : Node → Node} (path : List Nat) (n : Node)
    (step : ∀ m, n.at? path = some m → m.Becomes (f m)) : n.Becomes (n.modify f path) :=
  modify_of_children Becomes.refl becomes_children path n step

end Node

end Concordance.Search
