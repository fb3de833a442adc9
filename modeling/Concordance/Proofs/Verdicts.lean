/-
# Concordance.Proofs.Verdicts -- what the lookups of a search settle

A node remembers what it answered once, but what it has to answer is settled by the
lookups below it alone.  `combination` is the set that their entries combine to, and
`verdict` is the answer that is due: none while the first lookup that has not completed
is open, the abort of that lookup if it has failed, and the combination when all have
completed.

* `Proceeds.verdict`: a verdict stays, whatever becomes of the lookups that are open.
* `Honest`: whatever is remembered is a verdict.  Asking for a result keeps this up
  (`take_honest`), and an honest search answers its verdict (`Honest.take_answer`).
-/
import Concordance.Proofs.Life

namespace Concordance

set_option autoImplicit false

universe u

namespace Lookup

variable {α : Type u}

/-- The lookup without its counters. -/
def bare (l : Lookup α) : Lookup α := { l with parts := .one }

@[simp] theorem isDone_bare (l : Lookup α) : l.bare.isDone = l.isDone := rfl

theorem doneInTurn_map_bare (lookups : List (Lookup α)) :
    doneInTurn (lookups.map bare) = doneInTurn lookups := by
  induction lookups with
  | nil => rfl
  | cons l rest ih => rw [List.map_cons, doneInTurn, doneInTurn, isDone_bare, ih]

theorem IsComplete.not_isOpen {l : Lookup α} (complete : l.IsComplete) : l.isOpen = false := by
  obtain ⟨value, outcome⟩ := complete
  unfold isOpen
  rw [outcome]

theorem map_bare_eq {lookups others : List (Lookup α)}
    (subjects : others.map subject = lookups.map subject)
    (outcomes : others.map outcome = lookups.map outcome) :
    others.map bare = lookups.map bare := by
  induction lookups generalizing others with
  | nil => simpa using subjects
  | cons l rest ih =>
      cases others with
      | nil => cases subjects
      | cons k more =>
          rw [List.map_cons, List.map_cons, List.cons.injEq] at subjects outcomes
          rw [List.map_cons, List.map_cons, ih subjects.2 outcomes.2, bare, bare, subjects.1,
            outcomes.1]

/-- An abort that decides goes on deciding while resolved lookups stay as they are. -/
theorem doneInTurn_of_kept {lookups later : List (Lookup α)} {e : SearchError}
    (kept : List.Forall₂ (fun l k => l.isOpen = false → k = l) lookups later)
    (failed : doneInTurn lookups = .error e) : doneInTurn later = .error e := by
  induction kept with
  | nil => cases failed
  | @cons l k rest more same _ ih =>
      by_cases complete : l.IsComplete
      · have unchanged : k = l := same complete.not_isOpen
        subst unchanged
        rw [doneInTurn_cons_complete complete] at failed ⊢
        exact ih failed
      · rw [doneInTurn_cons_incomplete complete] at failed
        obtain ⟨reason, aborted, _⟩ := isDone_eq_error_iff.1 failed
        have unchanged : k = l := same (HasFailed.not_isOpen ⟨reason, aborted⟩)
        subst unchanged
        rw [doneInTurn_cons_incomplete complete, failed]

/-- What a holder does to a lookup: it leaves the question as it is, and changes nothing once the
lookup is resolved. -/
structure Handles (f : Lookup α → Lookup α) : Prop where
  subject : ∀ l, (f l).subject = l.subject
  resolved : ∀ l, l.isOpen = false → f l = l

theorem report_handles (parts : Parts) : Handles (fun l : Lookup α => l.report parts) where
  subject l := by
    unfold report
    split <;> rfl
  resolved _ resolved := report_of_resolved resolved parts

theorem complete_handles (value : α) : Handles (fun l : Lookup α => l.complete value) where
  subject l := by
    unfold complete
    split <;> rfl
  resolved _ resolved := complete_of_resolved resolved value

theorem abort_handles (reason : String) : Handles (fun l : Lookup α => l.abort reason) where
  subject l := by
    unfold abort
    split <;> rfl
  resolved _ resolved := abort_of_resolved resolved reason

end Lookup

namespace Search

open Concordance.Query

/-- Sets that an operation takes are combined. -/
theorem combineSets_of_accepts {op : Operation} (notTerm : op ≠ .term) (subject : String)
    {sets : List ResultSet} (accepted : op.accepts sets.length = true) :
    ∃ set, combineSets op subject sets = .ok set := by
  cases op with
  | term => exact absurd rfl notTerm
  | difference =>
      obtain ⟨minuend, subtrahend, rfl⟩ := List.length_eq_two.1 (by simpa [Operation.accepts] using accepted)
      exact ⟨_, rfl⟩
  | phrase | intersection | union | merge =>
      rcases sets with _ | ⟨first, _ | ⟨second, rest⟩⟩
      · exact absurd accepted (by simp [Operation.accepts])
      · exact absurd accepted (by simp [Operation.accepts])
      · exact ⟨_, rfl⟩

namespace Node

/-! ## Searches without their answers -/

mutual

/-- The search with other lookups, and without its memories. -/
def recast (f : Lookup (List Entry) → Lookup (List Entry)) : Node → Node
  | .leaf query locator holder lookup _ => .leaf query locator holder (f lookup) Memo.fresh
  | .branch query locators op children _ =>
      .branch query locators op (recastAll f children) Memo.fresh

/-- The searches of a list with other lookups, and without their memories. -/
def recastAll (f : Lookup (List Entry) → Lookup (List Entry)) : List Node → List Node
  | [] => []
  | n :: rest => recast f n :: recastAll f rest

end

/-- The search as it would be if none of its lookups had been answered yet. -/
def blank (n : Node) : Node := n.recast (fun l => .fresh l.subject)

section Recasting

variable (f : Lookup (List Entry) → Lookup (List Entry))

theorem recastAll_eq_map (nodes : List Node) : recastAll f nodes = nodes.map (recast f) := by
  induction nodes with
  | nil => rfl
  | cons n rest ih => rw [recastAll, List.map_cons, ih]

theorem recast_branch (query locators : String) (op : Operation) (children : List Node)
    (memo : Memo) :
    (Node.branch query locators op children memo).recast f =
      .branch query locators op (children.map (recast f)) Memo.fresh := by
  rw [recast, recastAll_eq_map]

theorem blank_branch (query locators : String) (op : Operation) (children : List Node)
    (memo : Memo) :
    (Node.branch query locators op children memo).blank =
      .branch query locators op (children.map blank) Memo.fresh := recast_branch _ _ _ _ _ _

@[simp] theorem leaves_recast (n : Node) : (n.recast f).leaves = n.leaves.map f := by
  induction n with
  | leaf query locator holder lookup memo => rfl
  | branch query locators op children memo ih =>
      rw [recast_branch, leaves_branch, leaves_branch, List.flatMap_map, List.map_flatMap]
      exact List.flatMap_congr ih

@[simp] theorem shape_recast (n : Node) : (n.recast f).shape = n.shape := by
  induction n with
  | leaf query locator holder lookup memo => rfl
  | branch query locators op children memo ih =>
      rw [recast_branch, shape_branch, shape_branch, List.map_map]
      congr 1
      exact List.map_congr_left ih

@[simp] theorem blank_withMemo (memo : Memo) (n : Node) : (n.withMemo memo).blank = n.blank := by
  cases n <;> rfl

theorem shape_of_blank {n m : Node} (same : m.blank = n.blank) : m.shape = n.shape := by
  have shapes := congrArg shape same
  rwa [blank, blank, shape_recast, shape_recast] at shapes

theorem subjects_of_blank {n m : Node} (same : m.blank = n.blank) :
    m.leaves.map Lookup.subject = n.leaves.map Lookup.subject := by
  have subjects := congrArg (fun n => n.leaves.map Lookup.subject) same
  simpa [blank, Function.comp_def, Lookup.fresh] using subjects

theorem blank_eq_leaf {n : Node} {query locator : String} {holder : Option Nat}
    {lookup : Lookup (List Entry)} {memo : Memo}
    (same : n.blank = (Node.leaf query locator holder lookup memo).blank) :
    ∃ other own, n = .leaf query locator holder other own := by
  cases n with
  | leaf _ _ _ other own =>
      injection same with sameQuery sameLocator sameHolder
      subst sameQuery sameLocator sameHolder
      exact ⟨other, own, rfl⟩
  | branch => cases same

theorem blank_eq_branch {n : Node} {query locators : String} {op : Operation}
    {children : List Node} {memo : Memo}
    (same : n.blank = (Node.branch query locators op children memo).blank) :
    ∃ others own, n = .branch query locators op others own ∧
      others.map blank = children.map blank := by
  cases n with
  | leaf => cases same
  | branch _ _ _ others own =>
      rw [blank_branch, blank_branch] at same
      injection same with sameQuery sameLocators sameOp sameChildren
      subst sameQuery sameLocators sameOp
      exact ⟨others, own, rfl, sameChildren⟩

/-- Searches of one list are known by what each is known by: every one has as many lookups as its
counterpart, so the lookups of the lists are cut alike. -/
theorem map_recast_eq {nodes others : List Node}
    (each : ∀ n ∈ nodes, ∀ m : Node, m.blank = n.blank → m.leaves.map f = n.leaves.map f →
      m.recast f = n.recast f)
    (same : others.map blank = nodes.map blank)
    (lookups : (others.flatMap leaves).map f = (nodes.flatMap leaves).map f) :
    others.map (recast f) = nodes.map (recast f) := by
  induction nodes generalizing others with
  | nil => simpa using same
  | cons n rest ih =>
      cases others with
      | nil => cases same
      | cons m more =>
          rw [List.map_cons, List.map_cons, List.cons.injEq] at same
          have count := congrArg List.length (subjects_of_blank same.1)
          rw [List.length_map, List.length_map] at count
          rw [List.flatMap_cons, List.flatMap_cons, List.map_append, List.map_append] at lookups
          obtain ⟨first, others⟩ := List.append_inj lookups (by simpa using count)
          rw [List.map_cons, List.map_cons, each n List.mem_cons_self m same.1 first,
            ih (fun n member => each n (List.mem_cons_of_mem _ member)) same.2 others]

/-- A search is known by its blank and by its lookups. -/
theorem recast_eq_of_leaves {n m : Node} (same : m.blank = n.blank)
    (lookups : m.leaves.map f = n.leaves.map f) : m.recast f = n.recast f := by
  induction n generalizing m with
  | leaf query locator holder lookup memo =>
      obtain ⟨other, own, rfl⟩ := blank_eq_leaf same
      have alike : f other = f lookup := by simpa [leaves] using lookups
      rw [recast, recast, alike]
  | branch query locators op children memo ih =>
      obtain ⟨others, own, rfl, sameChildren⟩ := blank_eq_branch same
      rw [leaves_branch, leaves_branch] at lookups
      rw [recast_branch, recast_branch,
        map_recast_eq f (fun n member _ => ih n member) sameChildren lookups]

end Recasting

/-! ## What is settled -/

mutual

/-- The set to which the entries of all lookups below the node combine. -/
def combination : Node → Option ResultSet
  | .leaf query locator _ lookup _ =>
      match lookup.outcome with
      | .complete entries => some (ResultSet.ofEntries (Query.subject query locator) entries)
      | _ => none
  | .branch query locators op children _ =>
      match combinations children with
      | some sets => (combineSets op (Query.subject query locators) sets).toOption
      | none => none

/-- The sets to which the entries of all lookups below the nodes of a list combine. -/
def combinations : List Node → Option (List ResultSet)
  | [] => some []
  | n :: rest =>
      match combination n, combinations rest with
      | some set, some sets => some (set :: sets)
      | _, _ => none

end

/-- The answer that is due, as far as the lookups below the node settle it. -/
def verdict (n : Node) : Option (Except SearchError ResultSet) :=
  match n.isDone with
  | .ok false => none
  | .ok true => n.combination.map .ok
  | .error e => some (.error e)

theorem combination_leaf_eq_some_iff {query locator : String} {holder : Option Nat}
    {lookup : Lookup (List Entry)} {memo : Memo} {set : ResultSet} :
    (Node.leaf query locator holder lookup memo).combination = some set ↔
      ∃ entries, lookup.outcome = .complete entries ∧
        set = ResultSet.ofEntries (Query.subject query locator) entries := by
  rw [combination]
  cases lookup.outcome <;> simp [eq_comm]

theorem combinations_eq_some_iff {nodes : List Node} {sets : List ResultSet} :
    combinations nodes = some sets ↔
      List.Forall₂ (fun n set => n.combination = some set) nodes sets := by
  induction nodes generalizing sets with
  | nil =>
      rw [combinations, List.forall₂_nil_left_iff]
      simp [eq_comm]
  | cons n rest ih =>
      rw [combinations, List.forall₂_cons_left_iff]
      simp only [← ih]
      cases n.combination with
      | none => simp
      | some own =>
          cases combinations rest with
          | none => simp
          | some others => simp [eq_comm]

theorem combination_branch_eq_some_iff {query locators : String} {op : Operation}
    {children : List Node} {memo : Memo} {set : ResultSet} :
    (Node.branch query locators op children memo).combination = some set ↔
      ∃ sets, List.Forall₂ (fun n set => n.combination = some set) children sets ∧
        combineSets op (Query.subject query locators) sets = .ok set := by
  simp only [← combinations_eq_some_iff]
  rw [combination]
  cases combinations children with
  | none => simp
  | some sets =>
      dsimp only
      cases combined : combineSets op (Query.subject query locators) sets <;>
        simp [Except.toOption, combined]

theorem combinations_map {nodes : List Node} {g : Node → Node}
    (each : ∀ n ∈ nodes, (g n).combination = n.combination) :
    combinations (nodes.map g) = combinations nodes := by
  induction nodes with
  | nil => rfl
  | cons n rest ih =>
      rw [List.map_cons, combinations, combinations, each n List.mem_cons_self,
        ih fun m member => each m (List.mem_cons_of_mem _ member)]

theorem combination_recast_bare (n : Node) :
    (n.recast Lookup.bare).combination = n.combination := by
  induction n with
  | leaf query locator holder lookup memo => rfl
  | branch query locators op children memo ih =>
      rw [recast_branch, combination, combination, combinations_map ih]

theorem verdict_recast_bare (n : Node) : (n.recast Lookup.bare).verdict = n.verdict := by
  rw [verdict, verdict, isDone_eq_doneInTurn, isDone_eq_doneInTurn, leaves_recast,
    Lookup.doneInTurn_map_bare, combination_recast_bare]

/-- **A verdict is settled by the lookups.**  Of one search, whatever its nodes remember, the same
lookups settle the same. -/
theorem verdict_of_leaves {n m : Node} (same : m.blank = n.blank)
    (lookups : m.leaves.map Lookup.bare = n.leaves.map Lookup.bare) : m.verdict = n.verdict := by
  rw [← verdict_recast_bare m, recast_eq_of_leaves Lookup.bare same lookups, verdict_recast_bare]

/-- A verdict for a set says that every lookup has completed, and what their entries combine to. -/
theorem verdict_eq_ok_iff {n : Node} {set : ResultSet} :
    n.verdict = some (.ok set) ↔ (∀ l ∈ n.leaves, l.IsComplete) ∧ n.combination = some set := by
  rw [← isDone_eq_ok_true_iff, verdict]
  rcases n.isDone with e | (_ | _) <;> simp

theorem verdict_eq_error_iff {n : Node} {e : SearchError} :
    n.verdict = some (.error e) ↔ n.isDone = .error e := by
  rw [verdict]
  rcases n.isDone with f | (_ | _) <;> simp

/-- Everything that can be planted is settled when all of its lookups are resolved. -/
theorem combination_of_done {n : Node} (sound : n.shape.Sound) (done : n.isDone = .ok true) :
    ∃ set, n.combination = some set := by
  induction n with
  | leaf query locator holder lookup memo =>
      obtain ⟨entries, complete⟩ := Lookup.isDone_eq_ok_true_iff.1 done
      exact ⟨_, combination_leaf_eq_some_iff.2 ⟨entries, complete, rfl⟩⟩
  | branch query locators op children memo ih =>
      rw [shape_branch] at sound
      cases sound with
      | branch _ _ _ notTerm accepted below =>
          have childrenDone := allDone_eq_ok_true_iff.1 done
          obtain ⟨sets, each⟩ := exists_forall₂ fun child member =>
            ih child member (below _ (List.mem_map_of_mem member)) (childrenDone child member)
          rw [List.length_map, each.length_eq] at accepted
          obtain ⟨set, combined⟩ := combineSets_of_accepts notTerm _ accepted
          exact ⟨set, combination_branch_eq_some_iff.2 ⟨sets, each, combined⟩⟩

/-! ## What may become of the lookups -/

/-- A later state of a search: its lookups are about the same, and those that were resolved are as
they were. -/
structure Proceeds (n later : Node) : Prop where
  blank : later.blank = n.blank
  kept : List.Forall₂ (fun l k => l.isOpen = false → k = l) n.leaves later.leaves

theorem Proceeds.of_leaves {n later : Node} (blank : later.blank = n.blank)
    (leaves : later.leaves = n.leaves) : n.Proceeds later where
  blank
  kept := by
    rw [leaves]
    exact List.forall₂_same.2 fun l _ _ => rfl

theorem Proceeds.refl (n : Node) : n.Proceeds n := .of_leaves rfl rfl

theorem Proceeds.trans {n later last : Node} (first : n.Proceeds later)
    (second : later.Proceeds last) : n.Proceeds last where
  blank := second.blank.trans first.blank
  kept := by
    refine forall₂_of_common first.kept.flip second.kept fun k l m before after resolved => ?_
    have same : k = l := before resolved
    subst same
    exact after resolved

theorem Proceeds.shape {n later : Node} (proceeds : n.Proceeds later) : later.shape = n.shape :=
  shape_of_blank proceeds.blank

/-- Lookups that have all completed stay as they are. -/
theorem Proceeds.leaves_of_complete {n later : Node} (proceeds : n.Proceeds later)
    (complete : ∀ l ∈ n.leaves, l.IsComplete) : later.leaves = n.leaves := by
  have same : List.Forall₂ (fun l k => k = l) n.leaves later.leaves :=
    ((List.forall₂_and_left _ _).2 ⟨complete, proceeds.kept⟩).imp fun l k both =>
      both.2 both.1.not_isOpen
  exact (List.forall₂_eq_eq_eq ▸ same.flip)

/-- An abort that decides goes on deciding. -/
theorem Proceeds.isDone_of_error {n later : Node} (proceeds : n.Proceeds later) {e : SearchError}
    (failed : n.isDone = .error e) : later.isDone = .error e := by
  rw [isDone_eq_doneInTurn] at failed ⊢
  exact Lookup.doneInTurn_of_kept proceeds.kept failed

/-- **A verdict stays.** -/
theorem Proceeds.verdict {n later : Node} (proceeds : n.Proceeds later)
    {outcome : Except SearchError ResultSet} (settled : n.verdict = some outcome) :
    later.verdict = some outcome := by
  cases outcome with
  | error e =>
      rw [verdict_eq_error_iff] at settled ⊢
      exact proceeds.isDone_of_error settled
  | ok set =>
      rw [← settled]
      refine verdict_of_leaves proceeds.blank ?_
      rw [proceeds.leaves_of_complete (verdict_eq_ok_iff.1 settled).1]

/-- A branch proceeds as its children do. -/
theorem children_proceeds {query locators : String} {op : Operation} {children later : List Node}
    {memo : Memo} (each : List.Forall₂ Proceeds children later) :
    (Node.branch query locators op children memo).Proceeds
      (.branch query locators op later memo) where
  blank := by
    have blanks : later.map Node.blank = children.map Node.blank := by
      induction each with
      | nil => rfl
      | cons first _ ih => rw [List.map_cons, List.map_cons, first.blank, ih]
    rw [blank_branch, blank_branch, blanks]
  kept := by
    rw [leaves_branch, leaves_branch]
    exact List.rel_flatMap each fun _ _ proceeds => proceeds.kept

/-! ## Honest memories -/

/-- Whatever the node and the nodes below it remember is the answer that is due. -/
inductive Honest : Node → Prop
  | intro {n : Node} (recalls : ∀ outcome, n.memo.outcome = some outcome → n.verdict = some outcome)
      (below : ∀ child ∈ n.children, child.Honest) : Honest n

theorem Honest.recalls {n : Node} (honest : n.Honest) :
    ∀ outcome, n.memo.outcome = some outcome → n.verdict = some outcome := by
  cases honest with
  | intro recalls below => exact recalls

theorem Honest.ofChildren {n : Node} (honest : n.Honest) :
    ∀ child ∈ n.children, child.Honest := by
  cases honest with
  | intro recalls below => exact below

theorem Honest.of_fresh {n : Node} (fresh : n.memo.outcome = none)
    (below : ∀ child ∈ n.children, child.Honest) : n.Honest := by
  refine .intro ?_ below
  intro outcome remembers
  rw [fresh] at remembers
  cases remembers

/-- An honest search is honest at every place. -/
theorem Honest.at? {n m : Node} (honest : n.Honest) {path : List Nat}
    (placed : n.at? path = some m) : m.Honest := by
  induction path generalizing n with
  | nil =>
      cases placed
      exact honest
  | cons i rest ih =>
      obtain ⟨child, found, placed⟩ := Option.bind_eq_some_iff.1 placed
      exact ih (honest.ofChildren child (List.mem_of_getElem? found)) placed

/-- A search that proceeds with the memories it had is as honest as before, if what is below is. -/
theorem Honest.of_proceeds {n later : Node} (honest : n.Honest) (proceeds : n.Proceeds later)
    (same : later.memo.outcome = n.memo.outcome) (below : ∀ child ∈ later.children, child.Honest) :
    later.Honest := by
  refine .intro ?_ below
  intro outcome remembers
  rw [same] at remembers
  exact proceeds.verdict (honest.recalls outcome remembers)

/-- A later state of a search that is no less honest. -/
structure Continues (n later : Node) : Prop where
  proceeds : n.Proceeds later
  honest : n.Honest → later.Honest

theorem Continues.refl (n : Node) : n.Continues n := ⟨.refl n, id⟩

theorem Continues.trans {n later last : Node} (first : n.Continues later)
    (second : later.Continues last) : n.Continues last :=
  ⟨first.proceeds.trans second.proceeds, second.honest ∘ first.honest⟩

/-- A search that proceeds with the memory it had is no less honest, if its children are not. -/
theorem continues_of_proceeds {n later : Node} (proceeds : n.Proceeds later)
    (same : later.memo.outcome = n.memo.outcome)
    (below : List.Forall₂ Continues n.children later.children) : n.Continues later :=
  ⟨proceeds, fun honest => honest.of_proceeds proceeds same
    (forall_of_forall₂ below fun child member _ continues =>
      continues.honest (honest.ofChildren child member))⟩

/-- A branch continues as its children do. -/
theorem children_continues {query locators : String} {op : Operation} {children later : List Node}
    {memo : Memo} (each : List.Forall₂ Continues children later) :
    (Node.branch query locators op children memo).Continues
      (.branch query locators op later memo) :=
  continues_of_proceeds (children_proceeds (each.imp fun _ _ continues => continues.proceeds)) rfl
    each

/-- A search continues as the node at a place does. -/
theorem modify_continues {f : Node → Node} (path : List Nat) (n : Node)
    (step : ∀ m, n.at? path = some m → m.Continues (f m)) : n.Continues (n.modify f path) :=
  modify_of_children Continues.refl children_continues path n step

/-! ## Asking for results -/

/-- An honest search that gives a set has it as its verdict. -/
theorem Honest.verdict_of_gives {n : Node} (honest : n.Honest) {set : ResultSet}
    (given : n.Gives set) : n.verdict = some (.ok set) := by
  induction n generalizing set with
  | leaf query locator holder lookup memo =>
      rcases gives_iff.1 given with remembers | ⟨_, done, works⟩
      · exact honest.recalls _ remembers
      · exact verdict_eq_ok_iff.2 ⟨isDone_eq_ok_true_iff.1 done, combination_leaf_eq_some_iff.2 works⟩
  | branch query locators op children memo ih =>
      rcases gives_iff.1 given with remembers | ⟨_, done, sets, each, combines⟩
      · exact honest.recalls _ remembers
      · refine verdict_eq_ok_iff.2 ⟨isDone_eq_ok_true_iff.1 done,
          combination_branch_eq_some_iff.2 ⟨sets, ?_, combines⟩⟩
        have settled (child : Node) (member : child ∈ children) : ∀ set, child.Gives set →
            child.verdict = some (.ok set) :=
          fun set => ih child member (honest.ofChildren child member)
        exact ((List.forall₂_and_left _ _).2 ⟨settled, each⟩).imp fun child set both =>
          (verdict_eq_ok_iff.1 (both.1 set both.2)).2

/-- An honest search that raises an error has it as its verdict. -/
theorem Honest.verdict_of_raises {n : Node} (honest : n.Honest) {e : SearchError}
    (raised : n.take.2 = .error (.search e)) : n.verdict = some (.error e) := by
  induction n generalizing e with
  | leaf query locator holder lookup memo =>
      rcases raises_cases raised with remembers | failed | ⟨_, child, member, _⟩
      · exact honest.recalls _ remembers
      · exact verdict_eq_error_iff.2 failed
      · cases member
  | branch query locators op children memo ih =>
      rcases raises_cases raised with remembers | failed | ⟨done, child, member, childRaised⟩
      · exact honest.recalls _ remembers
      · exact verdict_eq_error_iff.2 failed
      · -- The child is done itself, so nothing below it has failed.
        have failed := ih child member (honest.ofChildren child member) childRaised
        rw [verdict_eq_error_iff, allDone_eq_ok_true_iff.1 done child member] at failed
        cases failed

/-- What a node remembers after it was asked is what it answered. -/
theorem take_remembers {n : Node} {outcome : Except SearchError ResultSet}
    (remembers : n.take.1.memo.outcome = some outcome) : n.take.2 = remembered outcome := by
  rcases n.take_cases with ⟨known, before, taken⟩ | ⟨before, _, taken⟩ | ⟨later, worked, _, _, _, taken⟩
  · rw [taken, before] at remembers
    cases remembers
    rw [taken]
  · rw [taken, before] at remembers
    cases remembers
  · rw [taken, memo_withMemo] at remembers
    rw [taken]
    rcases worked with (e | f) | set <;> cases remembers <;> rfl

/-- Asking a node leaves its children alone, or asks them in turn. -/
theorem children_take (n : Node) :
    n.take.1.children = n.children ∨ n.take.1.children = (takeAll n.children).1 := by
  rcases n.take_cases with ⟨_, _, taken⟩ | ⟨_, _, taken⟩ | ⟨later, _, _, _, rfl | rfl, taken⟩
  · exact Or.inl (by rw [taken])
  · exact Or.inl (by rw [taken])
  · exact Or.inl (by rw [taken, children_withMemo])
  · rw [taken, children_withMemo]
    cases n with
    | leaf query locator holder lookup memo => exact Or.inl rfl
    | branch query locators op children memo => exact Or.inr rfl

theorem withMemo_proceeds (n : Node) (memo : Memo) : n.Proceeds (n.withMemo memo) :=
  .of_leaves (blank_withMemo memo n) (leaves_withMemo memo n)

theorem withChildren_proceeds {n : Node} {children : List Node}
    (each : List.Forall₂ Proceeds n.children children) : n.Proceeds (n.withChildren children) := by
  cases n with
  | leaf query locator holder lookup memo => exact .refl _
  | branch query locators op own memo => exact children_proceeds each

/-- Asking a node does nothing to the lookups. -/
theorem take_proceeds (n : Node) : n.Proceeds n.take.1 := by
  induction n using induction_children with
  | step n ih =>
      rcases n.take_cases with ⟨_, _, taken⟩ | ⟨_, _, taken⟩ | ⟨later, _, _, _, asked, taken⟩
      · rw [taken]
        exact .refl n
      · rw [taken]
        exact .refl n
      · have below : n.Proceeds later := by
          rcases asked with rfl | rfl
          · exact .refl _
          · exact withChildren_proceeds (forall₂_takeAll Proceeds.refl ih)
        rw [taken]
        exact below.trans (withMemo_proceeds later _)

/-- Whatever an honest search answers is its verdict. -/
theorem Honest.verdict_of_take {n : Node} (honest : n.Honest)
    {outcome : Except SearchError ResultSet} (answered : n.take.2 = remembered outcome) :
    n.verdict = some outcome := by
  cases outcome with
  | error e => exact honest.verdict_of_raises answered
  | ok set => exact honest.verdict_of_gives answered

/-- **Asking keeps a search honest.** -/
theorem take_honest {n : Node} (honest : n.Honest) : n.take.1.Honest := by
  induction n using induction_children with
  | step n ih =>
      refine .intro ?_ ?_
      · intro outcome remembers
        exact n.take_proceeds.verdict (honest.verdict_of_take (take_remembers remembers))
      · rcases n.children_take with same | asked
        · rw [same]
          exact honest.ofChildren
        · rw [asked]
          have each : List.Forall₂ (fun a b : Node => a.Honest → b.Honest) n.children
              (takeAll n.children).1 := forall₂_takeAll (fun _ => id) fun child => ih child
          exact forall_of_forall₂ each fun child member _ keeps =>
            keeps (honest.ofChildren child member)

/-- An honest search whose verdict is a set gives it. -/
theorem Honest.gives_of_verdict {n : Node} (honest : n.Honest) {set : ResultSet}
    (settled : n.verdict = some (.ok set)) : n.Gives set := by
  induction n generalizing set with
  | leaf query locator holder lookup memo =>
      rcases outcome : (Node.leaf query locator holder lookup memo).memo.outcome with _ | known
      · obtain ⟨complete, combined⟩ := verdict_eq_ok_iff.1 settled
        exact gives_of_worksOut outcome (isDone_eq_ok_true_iff.2 complete)
          (combination_leaf_eq_some_iff.1 combined)
      · rw [honest.recalls known outcome] at settled
        cases settled
        exact gives_of_outcome outcome
  | branch query locators op children memo ih =>
      rcases outcome : (Node.branch query locators op children memo).memo.outcome with _ | known
      · obtain ⟨complete, combined⟩ := verdict_eq_ok_iff.1 settled
        obtain ⟨sets, each, combines⟩ := combination_branch_eq_some_iff.1 combined
        have done := isDone_eq_ok_true_iff.2 complete
        -- Every child is done as well, so its combination is its verdict.
        have given (child : Node) (member : child ∈ children) : ∀ set,
            child.combination = some set → child.Gives set := fun set childCombined =>
          ih child member (honest.ofChildren child member) (verdict_eq_ok_iff.2
            ⟨isDone_eq_ok_true_iff.1 (allDone_eq_ok_true_iff.1 done child member), childCombined⟩)
        refine gives_of_worksOut outcome done ⟨sets, ?_, combines⟩
        exact ((List.forall₂_and_left _ _).2 ⟨given, each⟩).imp fun child set both =>
          both.1 set both.2
      · rw [honest.recalls known outcome] at settled
        cases settled
        exact gives_of_outcome outcome

/-- An honest search whose verdict is an error raises it. -/
theorem Honest.raises_of_verdict {n : Node} (honest : n.Honest) {e : SearchError}
    (settled : n.verdict = some (.error e)) : n.take.2 = .error (.search e) := by
  rcases outcome : n.memo.outcome with _ | known
  · rw [take_of_error outcome (verdict_eq_error_iff.1 settled)]
  · rw [honest.recalls known outcome] at settled
    cases settled
    rw [take_of_outcome outcome]
    rfl

/-- Nothing is settled exactly while the search waits. -/
theorem verdict_eq_none_iff {n : Node} (sound : n.shape.Sound) :
    n.verdict = none ↔ n.isDone = .ok false := by
  rw [verdict]
  rcases done : n.isDone with e | (_ | _)
  · simp
  · simp
  · obtain ⟨set, combined⟩ := combination_of_done sound done
    simp [combined]

/-- An answer as it is given: none as long as none is due. -/
def answered : Option (Except SearchError ResultSet) → Except Failure (Option ResultSet)
  | none => .ok none
  | some outcome => remembered outcome

/-- Nothing is remembered before anything is settled. -/
theorem Honest.outcome_of_unsettled {n : Node} (honest : n.Honest) (unsettled : n.verdict = none) :
    n.memo.outcome = none := by
  rcases outcome : n.memo.outcome with _ | known
  · rfl
  · rw [honest.recalls known outcome] at unsettled
    cases unsettled

/-- **An honest search answers its verdict.** -/
theorem Honest.take_answer {n : Node} (honest : n.Honest) (sound : n.shape.Sound) :
    n.take.2 = answered n.verdict := by
  rcases settled : n.verdict with _ | (e | set)
  · have fresh := honest.outcome_of_unsettled settled
    rw [take_of_waiting fresh ((verdict_eq_none_iff sound).1 settled)]
    rfl
  · exact honest.raises_of_verdict settled
  · exact honest.gives_of_verdict settled

end Node

end Search

end Concordance
