/-
# Concordance.Proofs.Coherence -- a node's status agrees with its memory

A node keeps a status beside its outcome, and both are written in several places: the
status by whoever asks for it, both by whoever asks for the result, anywhere in the
tree and in any order.  `Node.Coherent` says how they agree with each other, with the
lookups below and with the children; `Node.Advances` says what a node never goes back on.

Whether a node stays coherent when something happens below it depends on what its
children never go back on, so both are carried through a run together (`Keeps`), from
the change at one place to the whole search by `keeps_of_children`.
-/
import Concordance.Proofs.Orders

namespace Concordance

set_option autoImplicit false

universe u v

theorem Status.eq_done_of_le {status : Status} (late : Status.done ≤ status) : status = .done := by
  revert late
  cases status <;> decide

namespace Search

open Concordance.Index Concordance.Query

/-- What stands in a list has its counterpart at the same number of a list in step. -/
theorem exists_getElem?_of_forall₂ {α : Type u} {β : Type v} {R : α → β → Prop} {items : List α}
    {others : List β} (related : List.Forall₂ R items others) {i : Nat} {a : α}
    (found : items[i]? = some a) : ∃ b, others[i]? = some b ∧ R a b := by
  induction related generalizing i with
  | nil => cases found
  | cons first _ ih =>
      cases i with
      | zero =>
          cases found
          exact ⟨_, rfl, first⟩
      | succ i => exact ih found

/-! ## Status and memory -/

/-- The status tells what is remembered, and what is remembered tells the status. -/
structure Memo.Agrees (memo : Memo) : Prop where
  fresh : memo.outcome = none ↔ memo.status = .busy ∨ memo.status = .ready
  done : (∃ set, memo.outcome = some (.ok set)) ↔ memo.status = .done
  combining : (∃ e, memo.outcome = some (.error e)) ↔ memo.status = .combining

theorem Memo.agrees_fresh : Memo.fresh.Agrees := by
  constructor <;> simp [Memo.fresh]

/-- A status below ready is that of a node that was not asked yet. -/
theorem Memo.Agrees.fresh_of_lt {memo : Memo} (agrees : memo.Agrees) (early : memo.status < .ready) :
    memo.outcome = none := by
  rcases outcome : memo.outcome with _ | (e | set)
  · rfl
  · rw [agrees.combining.1 ⟨e, outcome⟩] at early
    exact absurd early (by decide)
  · rw [agrees.done.1 ⟨set, outcome⟩] at early
    exact absurd early (by decide)

/-- Remembering an outcome is a step up from remembering none. -/
theorem Memo.Agrees.le_of_fresh {memo later : Memo} (agrees : memo.Agrees)
    (laterAgrees : later.Agrees) (fresh : memo.outcome = none)
    {outcome : Except SearchError ResultSet} (remembers : later.outcome = some outcome) :
    memo.status ≤ later.status := by
  have after : later.status = .combining ∨ later.status = .done := by
    cases outcome with
    | error e => exact Or.inl (laterAgrees.combining.1 ⟨e, remembers⟩)
    | ok set => exact Or.inr (laterAgrees.done.1 ⟨set, remembers⟩)
  rcases agrees.fresh.1 fresh with before | before <;> rcases after with after | after <;>
    rw [before, after] <;> decide

namespace Node

theorem conclude_agrees {worked : Except Failure ResultSet} {outcome : Except SearchError ResultSet}
    (answered : (conclude worked).2 = remembered outcome) :
    (conclude worked).1.Agrees ∧ (conclude worked).1.outcome = some outcome := by
  rcases worked with (e | f) | own <;> rcases outcome with e' | set <;> cases answered
  · refine ⟨?_, rfl⟩
    constructor <;> simp [conclude]
  · refine ⟨?_, rfl⟩
    constructor <;> simp [conclude]

/-- How a node's status, its memory, the lookups below it and its children fit together. -/
structure Coherent (n : Node) : Prop where
  /-- Its status agrees with what it remembers. -/
  agrees : n.memo.Agrees
  /-- An error that it remembers is the abort of a lookup below it. -/
  aborted : ∀ e, n.memo.outcome = some (.error e) →
    ∃ l ∈ n.leaves, ∃ reason, l.outcome = .aborted reason ∧ e = .abort l.subject reason
  /-- When it is ready or done, all lookups below it are complete. -/
  complete : n.memo.status = .ready ∨ n.memo.status = .done → ∀ l ∈ n.leaves, l.IsComplete
  /-- When a branch is done, so are its children, and its set is combined from what they
  remember. -/
  combined : n.isLeaf = false → n.memo.status = .done →
    (∀ child ∈ n.children, child.memo.status = .done) ∧
      ∃ outcomes set, List.Forall₂ (fun child outcome => child.memo.outcome = some outcome)
          n.children outcomes ∧
        n.memo.outcome = some (.ok set) ∧ combine n.operation n.subject outcomes = .ok set

theorem abort_of_isDone_eq_error {n : Node} {e : SearchError} (failed : n.isDone = .error e) :
    ∃ l ∈ n.leaves, ∃ reason, l.outcome = .aborted reason ∧ e = .abort l.subject reason := by
  rcases Lookup.forall_isComplete_or_exists_first n.leaves with
    all | ⟨before, l, after, cut, earlier, incomplete⟩
  · rw [isDone_eq_ok_true_iff.2 all] at failed
    cases failed
  · rw [isDone_eq_of_first cut earlier incomplete] at failed
    obtain ⟨reason, outcome, same⟩ := Lookup.isDone_eq_error_iff.1 failed
    refine ⟨l, ?_, reason, outcome, same⟩
    rw [cut]
    exact List.mem_append_right _ List.mem_cons_self

theorem Honest.aborted {n : Node} (honest : n.Honest) {e : SearchError}
    (remembers : n.memo.outcome = some (.error e)) :
    ∃ l ∈ n.leaves, ∃ reason, l.outcome = .aborted reason ∧ e = .abort l.subject reason :=
  abort_of_isDone_eq_error (verdict_eq_error_iff.1 (honest.recalls _ remembers))

/-! ## What a node is told to be -/

theorem refresh_eq_or (n : Node) :
    n.refresh = n ∨ (n.isDone = .ok true ∧ n.memo.status < .ready ∧
      n.refresh = n.withMemo { n.memo with status := .ready }) := by
  unfold refresh
  split
  · rename_i done
    split
    · rename_i early
      exact Or.inr ⟨done, early, rfl⟩
    · exact Or.inl rfl
  · exact Or.inl rfl

/-- Whoever asks is told at least what is stored. -/
theorem memo_status_le_status (n : Node) : n.memo.status ≤ n.status := by
  unfold status
  rcases n.refresh_eq_or with same | ⟨_, early, same⟩
  · rw [same]
    exact Nat.le_refl _
  · rw [same, memo_withMemo]
    exact Nat.le_of_lt early

/-- A node is told to be ready once it is done and was not asked for its result. -/
theorem ready_le_status {n : Node} (done : n.isDone = .ok true) : .ready ≤ n.status := by
  unfold status refresh
  rw [done]
  dsimp only
  split
  · rw [memo_withMemo]
    exact Nat.le_refl _
  · rename_i late
    exact Nat.le_of_not_lt late

/-! ## What a node never goes back on -/

/-- Lookups that have completed leave a search done. -/
theorem Proceeds.isDone {n later : Node} (proceeds : n.Proceeds later) (done : n.isDone = .ok true) :
    later.isDone = .ok true := by
  rw [isDone_eq_ok_true_iff] at done ⊢
  rwa [proceeds.leaves_of_complete done]

/-- What may become of a node. -/
structure Advances (n later : Node) : Prop where
  /-- It asks the same, and its resolved lookups stay as they are. -/
  proceeds : n.Proceeds later
  /-- Its status does not go back. -/
  status : n.memo.status ≤ later.memo.status
  /-- Nobody is told an earlier status than before. -/
  told : n.status ≤ later.status
  /-- An outcome that it remembers stays, and everybody who asks for the result is answered that. -/
  kept : ∀ outcome, n.memo.outcome = some outcome →
    later.memo.outcome = some outcome ∧ later.take.2 = remembered outcome

theorem advances_of_memo {n later : Node} (proceeds : n.Proceeds later)
    (status : n.memo.status ≤ later.memo.status)
    (kept : ∀ outcome, n.memo.outcome = some outcome → later.memo.outcome = some outcome) :
    n.Advances later where
  proceeds
  status
  told := by
    have stored : n.memo.status ≤ later.status := Nat.le_trans status later.memo_status_le_status
    show n.refresh.memo.status ≤ _
    rcases n.refresh_eq_or with same | ⟨done, _, same⟩
    · rw [same]
      exact stored
    · rw [same, memo_withMemo]
      exact ready_le_status (proceeds.isDone done)
  kept outcome remembers :=
    ⟨kept outcome remembers, congrArg Prod.snd (take_of_outcome (kept outcome remembers))⟩

theorem Advances.refl (n : Node) : n.Advances n :=
  advances_of_memo (.refl n) (Nat.le_refl _) fun _ => id

theorem Advances.trans {n later last : Node} (first : n.Advances later)
    (second : later.Advances last) : n.Advances last where
  proceeds := first.proceeds.trans second.proceeds
  status := Nat.le_trans first.status second.status
  told := Nat.le_trans first.told second.told
  kept outcome remembers := second.kept outcome (first.kept outcome remembers).1

/-- At every place of a search stands what the node at that place may become. -/
def Ages (n later : Node) : Prop :=
  ∀ place m, n.at? place = some m → ∃ k, later.at? place = some k ∧ m.Advances k

theorem Ages.refl (n : Node) : n.Ages n := fun _ m placed => ⟨m, placed, .refl m⟩

theorem Ages.trans {n later last : Node} (first : n.Ages later) (second : later.Ages last) :
    n.Ages last := by
  intro place m placed
  obtain ⟨k, placed, advances⟩ := first place m placed
  obtain ⟨l, placed, more⟩ := second place k placed
  exact ⟨l, placed, advances.trans more⟩

theorem Ages.advances {n later : Node} (ages : n.Ages later) : n.Advances later := by
  obtain ⟨k, placed, advances⟩ := ages [] n rfl
  cases placed
  exact advances

theorem ages_of_children {n later : Node} (here : n.Advances later)
    (below : List.Forall₂ Ages n.children later.children) : n.Ages later := by
  intro place m placed
  cases place with
  | nil =>
      cases placed
      exact ⟨later, rfl, here⟩
  | cons i rest =>
      obtain ⟨child, found, placed⟩ := Option.bind_eq_some_iff.1 placed
      obtain ⟨other, foundLater, ages⟩ := exists_getElem?_of_forall₂ below found
      obtain ⟨k, placedLater, advances⟩ := ages rest m placed
      refine ⟨k, ?_, advances⟩
      show (later.children[i]?).bind (at? rest) = some k
      rw [foundLater]
      exact placedLater

/-! ## Searches in order -/

/-- A search that could be planted, with honest memories and coherent nodes. -/
structure Orderly (n : Node) : Prop where
  honest : n.Honest
  sound : n.shape.Sound
  coherent : n.Everywhere Coherent

theorem sound_children {n : Node} (sound : n.shape.Sound) : ∀ child ∈ n.children, child.shape.Sound := by
  cases n with
  | leaf query locator holder lookup memo => simp [children]
  | branch query locators op children memo =>
      rw [shape_branch] at sound
      cases sound with
      | branch _ _ _ _ _ below => exact fun child member => below _ (List.mem_map_of_mem member)

theorem Orderly.ofChildren {n : Node} (orderly : n.Orderly) : ∀ child ∈ n.children, child.Orderly :=
  fun child member => ⟨orderly.honest.ofChildren child member, sound_children orderly.sound child member,
    orderly.coherent.ofChildren child member⟩

/-- A later state of a search: an orderly search is still orderly, and no node went back. -/
def Keeps (n later : Node) : Prop := n.Orderly → later.Orderly ∧ n.Ages later

theorem Keeps.refl (n : Node) : n.Keeps n := fun orderly => ⟨orderly, .refl n⟩

theorem Keeps.trans {n later last : Node} (first : n.Keeps later) (second : later.Keeps last) :
    n.Keeps last := by
  intro orderly
  obtain ⟨laterOrderly, ages⟩ := first orderly
  obtain ⟨lastOrderly, more⟩ := second laterOrderly
  exact ⟨lastOrderly, ages.trans more⟩

/-- A search keeps what it has if every child does and its own step is no step back. -/
theorem keeps_of_step {n later : Node} (continues : n.Continues later)
    (below : List.Forall₂ Keeps n.children later.children)
    (status : n.Orderly → n.memo.status ≤ later.memo.status)
    (kept : ∀ outcome, n.memo.outcome = some outcome → later.memo.outcome = some outcome)
    (coherent : n.Orderly → List.Forall₂ (fun child other => child.Advances other ∧ other.Orderly)
      n.children later.children → later.Coherent) :
    n.Keeps later := by
  intro orderly
  have each : List.Forall₂ (fun child other => other.Orderly ∧ child.Ages other) n.children
      later.children :=
    ((List.forall₂_and_left _ _).2 ⟨orderly.ofChildren, below⟩).imp fun _ _ both => both.2 both.1
  have advancing := each.imp fun _ _ both => And.intro both.2.advances both.1
  refine ⟨⟨continues.honest orderly.honest, ?_, .intro (coherent orderly advancing) ?_⟩, ?_⟩
  · rw [continues.proceeds.shape]
    exact orderly.sound
  · exact forall_of_forall₂ each fun _ _ _ both => both.1.coherent
  · exact ages_of_children (advances_of_memo continues.proceeds (status orderly) kept)
      (each.imp fun _ _ both => both.2)

/-! ## Events below a node, and on its lookup -/

theorem Proceeds.same {n later : Node} (proceeds : n.Proceeds later) :
    later.isLeaf = n.isLeaf ∧ later.operation = n.operation ∧ later.subject = n.subject := by
  cases n with
  | leaf query locator holder lookup memo =>
      obtain ⟨other, own, rfl⟩ := blank_eq_leaf proceeds.blank
      exact ⟨rfl, rfl, rfl⟩
  | branch query locators op children memo =>
      obtain ⟨others, own, rfl, _⟩ := blank_eq_branch proceeds.blank
      exact ⟨rfl, rfl, rfl⟩

/-- A node whose memory stays is as coherent as before when its children advance: those that were
done and remembered something still are and do. -/
theorem Coherent.of_children {n later : Node} (coherent : n.Coherent) (proceeds : n.Proceeds later)
    (honest : later.Honest) (memo : later.memo = n.memo)
    (below : List.Forall₂ Advances n.children later.children) : later.Coherent where
  agrees := by
    rw [memo]
    exact coherent.agrees
  aborted _ := honest.aborted
  complete reached := by
    rw [memo] at reached
    have complete := coherent.complete reached
    rwa [proceeds.leaves_of_complete complete]
  combined isBranch done := by
    obtain ⟨sameKind, sameOperation, sameSubject⟩ := proceeds.same
    rw [sameKind] at isBranch
    rw [memo] at done ⊢
    rw [sameOperation, sameSubject]
    obtain ⟨childrenDone, outcomes, set, each, remembers, combines⟩ := coherent.combined isBranch done
    refine ⟨?_, outcomes, set, ?_, remembers, combines⟩
    · refine forall_of_forall₂ below fun child member other advances => Status.eq_done_of_le ?_
      rw [← childrenDone child member]
      exact advances.status
    · exact forall₂_of_common below each fun _ _ outcome advances known =>
        (advances.kept outcome known).1

theorem keeps_of_children {n later : Node} (continues : n.Continues later)
    (memo : later.memo = n.memo) (below : List.Forall₂ Keeps n.children later.children) :
    n.Keeps later := by
  refine keeps_of_step continues below ?_ ?_ ?_
  · intro _
    rw [memo]
    exact Nat.le_refl _
  · intro outcome remembers
    rwa [memo]
  · intro orderly advancing
    exact orderly.coherent.here.of_children continues.proceeds (continues.honest orderly.honest) memo
      (advancing.imp fun _ _ both => both.1)

theorem onLookup_keeps {f : Lookup (List Entry) → Lookup (List Entry)} (handles : Lookup.Handles f)
    (n : Node) : n.Keeps (n.onLookup f) := by
  refine keeps_of_children (onLookup_continues handles n) ?_ ?_
  · cases n <;> rfl
  · have same : (n.onLookup f).children = n.children := by cases n <;> rfl
    rw [same]
    exact List.forall₂_same.2 fun child _ => .refl child

/-! ## Asking for the status -/

theorem refresh_keeps (n : Node) : n.Keeps n.refresh := by
  rcases n.refresh_eq_or with same | ⟨done, early, same⟩
  · rw [same]
    exact .refl n
  · have continues := n.refresh_continues
    rw [same] at continues ⊢
    refine keeps_of_step continues ?_ ?_ ?_ ?_
    · rw [children_withMemo]
      exact List.forall₂_same.2 fun child _ => .refl child
    · intro _
      rw [memo_withMemo]
      exact Nat.le_of_lt early
    · intro outcome remembers
      rwa [memo_withMemo]
    · intro orderly _
      have fresh := orderly.coherent.here.agrees.fresh_of_lt early
      refine ⟨?_, fun e => (continues.honest orderly.honest).aborted, ?_, ?_⟩
      · rw [memo_withMemo]
        constructor <;> simp [fresh]
      · intro _
        rw [leaves_withMemo]
        exact isDone_eq_ok_true_iff.1 done
      · intro _ isDone
        rw [memo_withMemo] at isDone
        cases isDone

/-! ## Asking for the result -/

/-- A node that gave a set remembers it. -/
theorem outcome_of_gives {n : Node} {set : ResultSet} (given : n.Gives set) :
    n.take.1.memo.outcome = some (.ok set) := by
  unfold Gives at given
  rcases n.take_cases with ⟨known, remembers, taken⟩ | ⟨_, _, taken⟩ | ⟨later, worked, _, _, _, taken⟩
  · rw [taken] at given ⊢
    rw [remembers]
    cases known <;> cases given
    rfl
  · rw [taken] at given
    cases given
  · rw [taken] at given ⊢
    rw [memo_withMemo]
    exact conclude_outcome_iff.2 (conclude_gives_iff.1 given)

/-- When all children give their sets, all of them were asked. -/
theorem takeAll_fst_of_ok {nodes : List Node} {sets : List ResultSet}
    (given : List.Forall₂ Gives nodes sets) :
    (takeAll nodes).1 = nodes.map (fun n => n.take.1) := by
  induction given with
  | nil => rfl
  | @cons n set rest sets first others ih =>
      rw [takeAll, List.map_cons, ← ih]
      unfold Gives at first
      rcases taken : n.take with ⟨after, answer⟩
      rw [taken] at first
      cases first
      rfl

/-- A branch that gives a set has asked all of its children, and combined their sets. -/
theorem combined_of_take {n : Node} (isBranch : n.isLeaf = false) (fresh : n.memo.outcome = none)
    {set : ResultSet} (given : n.Gives set) :
    ∃ sets : List ResultSet,
      List.Forall₂ (fun child set => child.memo.outcome = some (.ok set)) n.take.1.children sets ∧
        combine n.operation n.subject (sets.map .ok) = .ok set := by
  rcases gives_iff.1 given with remembers | ⟨_, done, works⟩
  · rw [fresh] at remembers
    cases remembers
  · cases n with
    | leaf query locator holder lookup memo => cases isBranch
    | branch query locators op children memo =>
        obtain ⟨sets, each, combines⟩ := works
        refine ⟨sets, ?_, combine_sets_eq_ok_iff.2 combines⟩
        have asked : (Node.branch query locators op children memo).take.1.children =
            children.map (fun n => n.take.1) := by
          rw [take_branch_done fresh done]
          exact takeAll_fst_of_ok each
        rw [asked, List.forall₂_map_left_iff]
        exact each.imp fun _ _ => outcome_of_gives

/-- Asking an orderly node that is not waiting settles its memory: nothing faults. -/
theorem Orderly.take_concludes {n : Node} (orderly : n.Orderly) (fresh : n.memo.outcome = none)
    (settles : n.isDone ≠ .ok false) :
    ∃ outcome, n.take.2 = remembered outcome ∧ n.take.1.memo.Agrees ∧
      n.take.1.memo.outcome = some outcome := by
  rcases settled : n.verdict with _ | outcome
  · exact absurd ((verdict_eq_none_iff orderly.sound).1 settled) settles
  · have answer : n.take.2 = remembered outcome := by
      rw [orderly.honest.take_answer orderly.sound, settled, answered]
    refine ⟨outcome, answer, ?_⟩
    rcases n.take_cases with ⟨_, remembers, _⟩ | ⟨_, waits, _⟩ | ⟨later, worked, _, _, _, taken⟩
    · rw [fresh] at remembers
      cases remembers
    · exact absurd waits settles
    · rw [taken] at answer
      rw [taken, memo_withMemo]
      exact conclude_agrees answer

/-- A node that was asked is coherent, if the nodes right below it are afterwards. -/
theorem Orderly.take_coherent {n : Node} (orderly : n.Orderly) (fresh : n.memo.outcome = none)
    (settles : n.isDone ≠ .ok false) (below : ∀ child ∈ n.take.1.children, child.Coherent) :
    n.take.1.Coherent := by
  obtain ⟨outcome, answer, agrees, known⟩ := orderly.take_concludes fresh settles
  have honest := take_honest orderly.honest
  refine ⟨agrees, fun e => honest.aborted, ?_, ?_⟩
  · rintro (ready | done)
    · rw [agrees.fresh.2 (Or.inr ready)] at known
      cases known
    · obtain ⟨set, own⟩ := agrees.done.2 done
      exact (verdict_eq_ok_iff.1 (honest.recalls _ own)).1
  · intro isBranch done
    obtain ⟨set, own⟩ := agrees.done.2 done
    rw [own] at known
    cases known
    obtain ⟨sameKind, sameOperation, sameSubject⟩ := n.take_proceeds.same
    rw [sameKind] at isBranch
    rw [sameOperation, sameSubject]
    obtain ⟨sets, each, combines⟩ := combined_of_take isBranch fresh answer
    refine ⟨?_, _, set, List.forall₂_map_right_iff.2 each, own, combines⟩
    intro child member
    have remembers : ∃ own, child.memo.outcome = some (.ok own) :=
      forall_of_forall₂ (P := fun child => ∃ own, child.memo.outcome = some (.ok own)) each.flip
        (fun own _ _ known => ⟨own, known⟩) child member
    exact (below child member).agrees.done.1 remembers

/-- **Asking for the result** keeps a search orderly. -/
theorem take_keeps (n : Node) : n.Keeps n.take.1 := by
  induction n using induction_children with
  | step n ih =>
      have continues : n.Continues n.take.1 := ⟨n.take_proceeds, take_honest⟩
      have below : List.Forall₂ Keeps n.children n.take.1.children := by
        rcases n.children_take with same | asked
        · rw [same]
          exact List.forall₂_same.2 fun child _ => .refl child
        · rw [asked]
          exact forall₂_takeAll Keeps.refl ih
      rcases n.take_cases with ⟨_, _, taken⟩ | ⟨_, _, taken⟩ | ⟨_, _, fresh, settles, _, _⟩
      · rw [taken]
        exact .refl n
      · rw [taken]
        exact .refl n
      · refine keeps_of_step continues below ?_ ?_ ?_
        · intro orderly
          obtain ⟨outcome, _, agrees, known⟩ := orderly.take_concludes fresh settles
          exact orderly.coherent.here.agrees.le_of_fresh agrees fresh known
        · intro outcome known
          rw [fresh] at known
          cases known
        · intro orderly advancing
          refine orderly.take_coherent fresh settles ?_
          exact forall_of_forall₂ advancing fun _ _ _ both => both.2.coherent.here

/-! ## Runs -/

theorem afterCall_keeps (n : Node) (call : Call) : n.Keeps (n.afterCall call) := by
  cases call with
  | report parts => exact onLookup_keeps (Lookup.report_handles parts) n
  | complete entries => exact onLookup_keeps (Lookup.complete_handles entries) n
  | abort reason => exact onLookup_keeps (Lookup.abort_handles reason) n
  | drop => exact onLookup_keeps (Lookup.abort_handles Lookup.droppedReason) n
  | status => exact refresh_keeps n
  | isDone => exact .refl n
  | parts => exact .refl n
  | result => exact take_keeps n

/-- A search keeps what it has if the node at a place does. -/
theorem modify_keeps {f : Node → Node} (path : List Nat) (n : Node)
    (step : ∀ m, n.at? path = some m → m.Continues (f m) ∧ m.Keeps (f m)) :
    n.Keeps (n.modify f path) := by
  -- Along the way down the continuation of a branch is needed beside what its children keep.
  have both : n.Continues (n.modify f path) ∧ n.Keeps (n.modify f path) :=
    modify_of_children (R := fun n later => n.Continues later ∧ n.Keeps later)
      (fun n => ⟨.refl n, .refl n⟩)
      (fun each =>
        have continues := children_continues (each.imp fun _ _ both => both.1)
        ⟨continues, keeps_of_children continues rfl (each.imp fun _ _ both => both.2)⟩)
      path n step
  exact both.2

/-- **No event disturbs an orderly search** or takes a node back. -/
theorem after_keeps (root : Node) (event : Event) : root.Keeps (root.after event) :=
  modify_keeps event.place root fun m _ =>
    ⟨afterCall_continues m event.call, afterCall_keeps m event.call⟩

theorem run_keeps (root : Node) (events : List Event) : root.Keeps (root.run events) := by
  induction events generalizing root with
  | nil => exact .refl root
  | cons event rest ih => exact (root.after_keeps event).trans (ih (root.after event))

theorem run_append (root : Node) (earlier more : List Event) :
    root.run (earlier ++ more) = (root.run earlier).run more := List.foldl_append

end Node

/-! ## Searches as they are opened -/

theorem Node.coherent_of_fresh {n : Node} (fresh : n.memo = Memo.fresh) : n.Coherent := by
  constructor
  · rw [fresh]
    exact Memo.agrees_fresh
  · intro e remembers
    rw [fresh] at remembers
    cases remembers
  · rintro (ready | done)
    · rw [fresh] at ready
      cases ready
    · rw [fresh] at done
      cases done
  · intro _ done
    rw [fresh] at done
    cases done

theorem orderly_of_opened {catalog : Catalog} {query : String} {locators : List String} {root : Node}
    (opened : (openSearch catalog query locators).search = .ok root) : root.Orderly := by
  obtain ⟨honest, sound⟩ := honest_of_opened opened
  refine ⟨honest, sound, ?_⟩
  obtain ⟨p, later, backends, _, _, _, rfl⟩ := openSearch_eq_ok_iff.1 opened
  exact growSearch_of_fresh (fun _ fresh below => .intro (Node.coherent_of_fresh fresh) below) ..

/-- **Statuses and memories stay coherent.**  Whatever happens to a search, every node's status
agrees with its memory, with the lookups below it and with its children; and between any two moments
no status goes back and no outcome is forgotten or answered differently. -/
theorem run_coherent {catalog : Catalog} {query : String} {locators : List String} {root : Node}
    (opened : (openSearch catalog query locators).search = .ok root) (events : List Event) :
    (∀ place n, (root.run events).at? place = some n → n.Coherent) ∧
      ∀ earlier, earlier <+: events → (root.run earlier).Ages (root.run events) := by
  have orderly := orderly_of_opened opened
  constructor
  · intro place n placed
    exact (root.run_keeps events orderly).1.coherent.at? placed
  · rintro earlier ⟨more, rfl⟩
    rw [Node.run_append]
    exact ((root.run earlier).run_keeps more (root.run_keeps earlier orderly).1).2

/-- Both words are found, with somebody asking in between. -/
def bothFound : List Event :=
  [⟨[], .status⟩, ⟨[0], .complete [.ofOffsets "cat" "a.txt" [3]]⟩, ⟨[0], .status⟩, ⟨[0], .result⟩,
    ⟨[1], .complete [.ofOffsets "dog" "a.txt" [5]]⟩, ⟨[], .parts⟩, ⟨[], .status⟩, ⟨[], .result⟩]

theorem run_coherent_bothFound :
    (openSearch idxHeld "cat dog" ["idx"]).search = .ok catDog ∧
      (catDog.run bothFound).memo.status = .done ∧
      (∀ place n, (catDog.run bothFound).at? place = some n → n.Coherent) ∧
      ∀ earlier, earlier <+: bothFound → (catDog.run earlier).Ages (catDog.run bothFound) :=
  ⟨catDog_opened, by cbv, run_coherent catDog_opened bothFound⟩

end Search

end Concordance
