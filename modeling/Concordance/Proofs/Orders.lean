/-
# Concordance.Proofs.Orders -- the order of events does not matter

Holders report on the lookups of a search and resolve them one by one, and callers ask
about its nodes in between, all in any order: an `Event` is one call at one place, and a
run is a list of them.  No event makes a search dishonest or takes a verdict back
(`after_continues`), so the first answer that a caller of the root gets is
the verdict that the lookups settle in the end (`run_verdict_of_firstResult`).  Two runs
that resolve every lookup alike settle the same verdict, and so answer the same
(`firstResult_of_outcomes`).
-/
import Concordance.Proofs.Planting
import Concordance.Proofs.Verdicts
import Mathlib

namespace Concordance.Search

open Concordance.Index Concordance.Query

set_option autoImplicit false

/-! ## Events -/

/-- What may be done to one node of a search: by the holder of a lookup, or by somebody who asks. -/
inductive Call
  | report (parts : Parts)
  | complete (entries : List Entry)
  | abort (reason : String)
  | drop
  | status
  | isDone
  | parts
  | result

/-- A call at a place of a search. -/
structure Event where
  place : List Nat
  call : Call

namespace Node

/-- Changes the lookup of a leaf; no other node has one of its own. -/
def onLookup (f : Lookup (List Entry) → Lookup (List Entry)) : Node → Node
  | .leaf query locator holder lookup memo => .leaf query locator holder (f lookup) memo
  | .branch query locators op children memo => .branch query locators op children memo

/-- The node after a call. -/
def afterCall (n : Node) : Call → Node
  | .report parts => n.onLookup (fun l => l.report parts)
  | .complete entries => n.onLookup (fun l => l.complete entries)
  | .abort reason => n.onLookup (fun l => l.abort reason)
  | .drop => n.onLookup Lookup.drop
  | .status => n.refresh
  | .isDone => n
  | .parts => n
  | .result => n.take.1

/-- The search after an event. -/
def after (root : Node) (event : Event) : Node :=
  root.modify (fun n => n.afterCall event.call) event.place

/-- The search after some events. -/
def run (root : Node) (events : List Event) : Node := events.foldl after root

/-- What somebody is told who asks the root for its result, unless there is none yet. -/
def told (root : Node) : Event → Option (Except Failure (Option ResultSet))
  | ⟨[], .result⟩ =>
      match root.take.2 with
      | .ok none => none
      | answer => some answer
  | _ => none

/-- The first that anybody is told who asks the root for its result. -/
def firstResult (root : Node) : List Event → Option (Except Failure (Option ResultSet))
  | [] => none
  | event :: rest =>
      match root.told event with
      | some answer => some answer
      | none => (root.after event).firstResult rest

/-! ## What events keep -/

theorem onLookup_continues {f : Lookup (List Entry) → Lookup (List Entry)}
    (handles : Lookup.Handles f) (n : Node) : n.Continues (n.onLookup f) := by
  cases n with
  | leaf query locator holder lookup memo =>
      refine continues_of_proceeds ⟨?_, .cons (handles.resolved lookup) .nil⟩ rfl .nil
      show Node.leaf _ _ _ (Lookup.fresh (f lookup).subject) _ = Node.leaf _ _ _ _ _
      rw [handles.subject]
  | branch query locators op children memo => exact .refl _

theorem refresh_continues (n : Node) : n.Continues n.refresh := by
  rcases n.refresh_cases with same | ⟨memo, outcome, same⟩
  · rw [same]
    exact .refl n
  · rw [same]
    refine continues_of_proceeds (withMemo_proceeds n memo) ?_ ?_
    · rw [memo_withMemo, outcome]
    · rw [children_withMemo]
      exact List.forall₂_same.2 fun child _ => .refl child

theorem afterCall_continues (n : Node) (call : Call) : n.Continues (n.afterCall call) := by
  cases call with
  | report parts => exact onLookup_continues (Lookup.report_handles parts) n
  | complete entries => exact onLookup_continues (Lookup.complete_handles entries) n
  | abort reason => exact onLookup_continues (Lookup.abort_handles reason) n
  | drop => exact onLookup_continues (Lookup.abort_handles Lookup.droppedReason) n
  | status => exact refresh_continues n
  | isDone => exact .refl n
  | parts => exact .refl n
  | result => exact ⟨take_proceeds n, take_honest⟩

/-- **No event takes a verdict back**, or makes a search dishonest. -/
theorem after_continues (root : Node) (event : Event) : root.Continues (root.after event) :=
  modify_continues event.place root fun m _ => afterCall_continues m event.call

theorem run_continues (root : Node) (events : List Event) : root.Continues (root.run events) := by
  induction events generalizing root with
  | nil => exact .refl root
  | cons event rest ih => exact (root.after_continues event).trans (ih (root.after event))

/-! ## The first answer -/

theorem told_result {root : Node} (honest : root.Honest) (sound : root.shape.Sound) :
    root.told ⟨[], .result⟩ = root.verdict.map remembered := by
  rw [told, honest.take_answer sound]
  rcases root.verdict with _ | (e | set) <;> rfl

/-- Whoever is told anything is told the verdict. -/
theorem verdict_of_told {root : Node} (honest : root.Honest) (sound : root.shape.Sound)
    {event : Event} {answer : Except Failure (Option ResultSet)}
    (answered : root.told event = some answer) :
    ∃ outcome, root.verdict = some outcome ∧ answer = remembered outcome := by
  match event with
  | ⟨[], .result⟩ =>
      rw [told_result honest sound] at answered
      obtain ⟨outcome, settled, same⟩ := Option.map_eq_some_iff.1 answered
      exact ⟨outcome, settled, same.symm⟩
  | ⟨_ :: _, .result⟩ => cases answered
  | ⟨[], .report _⟩ | ⟨[], .complete _⟩ | ⟨[], .abort _⟩ | ⟨[], .drop⟩ | ⟨[], .status⟩
  | ⟨[], .isDone⟩ | ⟨[], .parts⟩ => cases answered

/-- **The first answer is the verdict in the end.** -/
theorem run_verdict_of_firstResult {root : Node} (honest : root.Honest)
    (sound : root.shape.Sound) {events : List Event} {answer : Except Failure (Option ResultSet)}
    (answered : root.firstResult events = some answer) :
    ∃ outcome, (root.run events).verdict = some outcome ∧ answer = remembered outcome := by
  induction events generalizing root with
  | nil => cases answered
  | cons event rest ih =>
      have proceeds := (root.run_continues (event :: rest)).proceeds
      rw [firstResult] at answered
      split at answered
      · rename_i first tells
        cases answered
        obtain ⟨outcome, settled, same⟩ := verdict_of_told honest sound tells
        exact ⟨outcome, proceeds.verdict settled, same⟩
      · refine ih ((root.after_continues event).honest honest) ?_ answered
        rw [(root.after_continues event).proceeds.shape]
        exact sound

/-- Once the lookups settle an answer, asking for it once more makes sure that it was given. -/
theorem firstResult_of_verdict {root : Node} (honest : root.Honest) (sound : root.shape.Sound)
    {events : List Event} {outcome : Except SearchError ResultSet}
    (settled : (root.run events).verdict = some outcome) :
    root.firstResult (events ++ [⟨[], .result⟩]) = some (remembered outcome) := by
  induction events generalizing root with
  | nil =>
      have now : root.verdict = some outcome := settled
      rw [List.nil_append, firstResult, told_result honest sound, now]
      rfl
  | cons event rest ih =>
      have proceeds := (root.run_continues (event :: rest)).proceeds
      rw [List.cons_append, firstResult]
      split
      · rename_i first tells
        obtain ⟨early, before, rfl⟩ := verdict_of_told honest sound tells
        have same := proceeds.verdict before
        rw [settled] at same
        cases same
        rfl
      · refine ih ((root.after_continues event).honest honest) ?_ settled
        rw [(root.after_continues event).proceeds.shape]
        exact sound

/-! ## Runs that resolve every lookup -/

/-- What a search has to answer, read off its lookups from the left. -/
structure Owes (n : Node) (outcome : Except SearchError ResultSet) : Prop where
  /-- When all have completed, it is what their entries combine to. -/
  combines : (∀ l ∈ n.leaves, l.IsComplete) → ∃ set, n.combination = some set ∧ outcome = .ok set
  /-- Otherwise it is the abort of the first that has failed. -/
  aborts : ∀ before l after reason, n.leaves = before ++ l :: after →
    (∀ b ∈ before, b.IsComplete) → l.outcome = .aborted reason →
      outcome = .error (.abort l.subject reason)

theorem owes_of_verdict {n : Node} {outcome : Except SearchError ResultSet}
    (settled : n.verdict = some outcome) : n.Owes outcome where
  combines complete := by
    rw [verdict, isDone_eq_ok_true_iff.2 complete] at settled
    obtain ⟨set, combined, same⟩ := Option.map_eq_some_iff.1 settled
    exact ⟨set, combined, same.symm⟩
  aborts before l rest reason cut earlier failed := by
    have raised : n.isDone = .error (.abort l.subject reason) := by
      rw [isDone_eq_of_first cut earlier (Lookup.HasFailed.not_isComplete ⟨reason, failed⟩)]
      exact Lookup.isDone_eq_error_iff.2 ⟨reason, failed, rfl⟩
    rw [verdict_eq_error_iff.2 raised] at settled
    exact (Option.some.inj settled).symm

/-- When every lookup is resolved, something is settled. -/
theorem exists_verdict_of_resolved {n : Node} (sound : n.shape.Sound)
    (resolved : ∀ l ∈ n.leaves, l.isOpen = false) : ∃ outcome, n.verdict = some outcome := by
  rcases settled : n.verdict with _ | outcome
  · obtain ⟨l, member, waits⟩ := exists_isOpen_of_isDone ((verdict_eq_none_iff sound).1 settled)
    rw [resolved l member] at waits
    cases waits
  · exact ⟨outcome, rfl⟩

/-- A search is answered with one outcome in a run. -/
structure Answers (root : Node) (events : List Event) (outcome : Except SearchError ResultSet) :
    Prop where
  /-- The lookups call for that outcome. -/
  owed : (root.run events).Owes outcome
  /-- Nobody who asked the root during the run was told another one first. -/
  first : ∀ answer, root.firstResult events = some answer → answer = remembered outcome
  /-- Whoever asks the root after the run makes sure that it was told. -/
  last : root.firstResult (events ++ [⟨[], .result⟩]) = some (remembered outcome)
  /-- A set that any node gives at any time is whole. -/
  whole : ∀ earlier, earlier <+: events → ∀ place n set,
    (root.run earlier).at? place = some n → n.Gives set →
      (∀ l ∈ n.leaves, l.IsComplete) ∧ n.combination = some set

theorem answers_of_verdict {root : Node} (honest : root.Honest) (sound : root.shape.Sound)
    {events : List Event} {outcome : Except SearchError ResultSet}
    (settled : (root.run events).verdict = some outcome) : root.Answers events outcome where
  owed := owes_of_verdict settled
  first answer answered := by
    obtain ⟨told, same, rfl⟩ := run_verdict_of_firstResult honest sound answered
    rw [settled] at same
    cases same
    rfl
  last := firstResult_of_verdict honest sound settled
  whole earlier _ place n set placed given :=
    verdict_eq_ok_iff.1
      ((((root.run_continues earlier).honest honest).at? placed).verdict_of_gives given)

end Node

/-! ## Searches as they are opened -/

theorem honest_growSearch (catalog : Catalog) (query : String) (p : Plan)
    (indexes : List (String × Backend)) : (growSearch catalog query p indexes).Honest :=
  growSearch_of_fresh (fun _ fresh => .of_fresh (congrArg Memo.outcome fresh)) ..

theorem sound_growSearch (catalog : Catalog) (query : String) {p : Plan} (sound : p.Sound)
    {indexes : List (String × Backend)} (some : indexes ≠ []) :
    (growSearch catalog query p indexes).shape.Sound := by
  rw [shape_growSearch]
  split
  · exact sound
  · rename_i notOne
    have several : 2 ≤ indexes.length := by
      have positive := List.length_pos_iff.2 some
      omega
    refine .branch _ _ _ (by simp) (by simpa [Operation.accepts] using several) ?_
    intro child member
    rw [List.eq_of_mem_replicate member]
    exact sound

/-- A search that was just opened is honest and could be planted again. -/
theorem honest_of_opened {catalog : Catalog} {query : String} {locators : List String} {root : Node}
    (opened : (openSearch catalog query locators).search = .ok root) :
    root.Honest ∧ root.shape.Sound := by
  obtain ⟨p, later, backends, planned, named, resolved, rfl⟩ := openSearch_eq_ok_iff.1 opened
  obtain ⟨tokens, _, made⟩ := planQuery_eq_ok_iff.1 planned
  refine ⟨honest_growSearch .., sound_growSearch _ _ (plan_sound made) ?_⟩
  rw [← List.length_pos_iff, List.length_zip, resolveAll_length resolved, Nat.min_self]
  exact List.length_pos_iff.2 named

/-- **The order of events does not matter.**  Two runs of a search that end with every lookup
resolved, each with the same outcome in both, answer the same, whatever was asked in between. -/
theorem firstResult_of_outcomes {catalog : Catalog} {query : String} {locators : List String}
    {root : Node} {first second : List Event}
    (opened : (openSearch catalog query locators).search = .ok root)
    (resolved : ∀ l ∈ (root.run first).leaves, l.isOpen = false)
    (alike : (root.run second).leaves.map Lookup.outcome =
      (root.run first).leaves.map Lookup.outcome) :
    ∃ outcome, root.Answers first outcome ∧ root.Answers second outcome := by
  obtain ⟨honest, sound⟩ := honest_of_opened opened
  have firstProceeds := (root.run_continues first).proceeds
  have secondProceeds := (root.run_continues second).proceeds
  obtain ⟨outcome, settled⟩ := Node.exists_verdict_of_resolved
    (by rw [firstProceeds.shape]; exact sound) resolved
  have blank := secondProceeds.blank.trans firstProceeds.blank.symm
  have same := Node.verdict_of_leaves blank
    (Lookup.map_bare_eq (Node.subjects_of_blank blank) alike)
  refine ⟨outcome, Node.answers_of_verdict honest sound settled, ?_⟩
  exact Node.answers_of_verdict honest sound (same.trans settled)

/-! ## Two orders -/

/-- Somebody else answers the lookups of `idx`. -/
def idxHeld : Catalog :=
  (Catalog.empty ⟨.absent, 1⟩).register "idx" (.external 0 fun _ => .ok none)

/-- The search for two words. -/
def catDog : Node :=
  .branch "cat dog" "idx" .intersection
    [.leaf "cat" "idx" (some 0) (.fresh "cat") Memo.fresh,
      .leaf "dog" "idx" (some 0) (.fresh "dog") Memo.fresh] Memo.fresh

/-- The first word is found and fetched, then the second is given up. -/
def foundThenGone : List Event :=
  [⟨[0], .complete [.ofOffsets "cat" "a.txt" [3]]⟩, ⟨[0], .result⟩, ⟨[], .result⟩,
    ⟨[1], .abort "gone"⟩, ⟨[], .status⟩, ⟨[], .result⟩]

/-- The second word is given up, and everybody asks before the first is found. -/
def goneThenFound : List Event :=
  [⟨[1], .abort "gone"⟩, ⟨[1], .result⟩, ⟨[], .isDone⟩, ⟨[], .result⟩, ⟨[0], .report .nothing⟩,
    ⟨[], .parts⟩, ⟨[0], .complete [.ofOffsets "cat" "a.txt" [3]]⟩]

theorem catDog_opened : (openSearch idxHeld "cat dog" ["idx"]).search = .ok catDog := by
  rw [catDog]
  cbv

theorem foundThenGone_outcomes :
    (catDog.run foundThenGone).leaves.map Lookup.outcome =
      [.complete [.ofOffsets "cat" "a.txt" [3]], .aborted "gone"] := rfl

theorem firstResult_of_outcomes_catDog :
    (openSearch idxHeld "cat dog" ["idx"]).search = .ok catDog ∧
      (∀ l ∈ (catDog.run foundThenGone).leaves, l.isOpen = false) ∧
      (catDog.run goneThenFound).leaves.map Lookup.outcome =
        (catDog.run foundThenGone).leaves.map Lookup.outcome ∧
      ∃ outcome, catDog.Answers foundThenGone outcome ∧ catDog.Answers goneThenFound outcome := by
  have resolved : ∀ l ∈ (catDog.run foundThenGone).leaves, l.isOpen = false := by
    intro l member
    have outcome := List.mem_map_of_mem (f := Lookup.outcome) member
    rw [foundThenGone_outcomes] at outcome
    unfold Lookup.isOpen
    rcases List.mem_cons.1 outcome with complete | aborted
    · rw [complete]
    · rw [List.mem_singleton.1 aborted]
  exact ⟨catDog_opened, resolved, rfl, firstResult_of_outcomes catDog_opened resolved rfl⟩

end Concordance.Search
