/-
# Concordance.Proofs.Counters -- the progress of a search counts every lookup once

A search in one index reports by its leaves, and a search in several by its indexes, so the
counters of the former are one sum over the leaves and those of the latter a sum of sums.
Either way every lookup is counted once (`Node.Counting.parts_eq`): `subProgress` lists the
places of the leaves, each once and in the order of a walk through the tree
(`Node.Flat.mem_subProgress_iff`, `Node.Flat.subProgress_ordered`), and what fits a word may
be added up in groups.

A lookup that has completed counts all its parts as done (`Lookup.Settled`), and no event of
a run changes that (`Node.run_retains`), so a search that is done is complete.
-/
import Concordance.Proofs.Aborts
import Concordance.Proofs.Coherence
import Concordance.Proofs.Dispatching
import Concordance.Proofs.Sums

namespace Concordance

open Concordance.Index Concordance.Query Concordance.Search

set_option autoImplicit false

universe u

namespace Lookup

variable {α : Type u}

/-! ## What a lookup counts -/

/-- The counters of a lookup as a search counts them. -/
def tally (l : Lookup α) : Except Failure Parts := l.progress.mapError Failure.search

theorem tally_of_not_failed {l : Lookup α} (sound : ¬ l.HasFailed) : l.tally = .ok l.parts := by
  unfold tally progress
  cases outcome : l.outcome with
  | aborted reason => exact absurd ⟨reason, outcome⟩ sound
  | pending => rfl
  | complete value => rfl

theorem tally_of_aborted {l : Lookup α} {reason : String} (failed : l.outcome = .aborted reason) :
    l.tally = .error (.search (.abort l.subject reason)) := by
  rw [tally, progress, failed]
  rfl

theorem map_tally {lookups : List (Lookup α)} (sound : ∀ l ∈ lookups, ¬ l.HasFailed) :
    lookups.map tally = (lookups.map parts).map .ok := by
  rw [List.map_map]
  exact List.map_congr_left fun l member => tally_of_not_failed (sound l member)

/-- Once the lookup has completed, all its parts are done, and there are no more to come. -/
def Settled (l : Lookup α) : Prop :=
  l.IsComplete → l.parts.done = l.parts.total ∧ l.parts.final = true

theorem settled_of_not_complete {l : Lookup α} (incomplete : ¬ l.IsComplete) : l.Settled :=
  fun complete => absurd complete incomplete

theorem settled_fresh (subject : String) : (fresh subject : Lookup α).Settled :=
  settled_of_not_complete (not_isComplete_of_isOpen rfl)

theorem settled_report {l : Lookup α} (settled : l.Settled) (parts : Parts) :
    (l.report parts).Settled := by
  cases waits : l.isOpen with
  | false => rwa [report_of_resolved waits]
  | true =>
      refine settled_of_not_complete (not_isComplete_of_isOpen ?_)
      rw [report, if_pos waits]
      exact waits

theorem settled_complete {l : Lookup α} (settled : l.Settled) (value : α) :
    (l.complete value).Settled := by
  cases waits : l.isOpen with
  | false => rwa [complete_of_resolved waits]
  | true =>
      intro _
      rw [complete, if_pos waits]
      exact ⟨rfl, rfl⟩

theorem settled_abort {l : Lookup α} (settled : l.Settled) (reason : String) :
    (l.abort reason).Settled := by
  cases waits : l.isOpen with
  | false => rwa [abort_of_resolved waits]
  | true =>
      refine settled_of_not_complete (HasFailed.not_isComplete ⟨reason, ?_⟩)
      rw [abort, if_pos waits]

theorem settled_answered (subject : String) (answer : Except String α) :
    (answered subject answer).Settled := by
  cases answer with
  | ok value => exact settled_complete (settled_fresh subject) value
  | error reason => exact settled_abort (settled_fresh subject) reason

theorem settled_ask (catalog : Catalog) (backend : Backend) (word : String) :
    (catalog.ask backend word).Settled := by
  cases backend with
  | held name => exact settled_answered word _
  | external serial describe => exact settled_fresh word
  | remote remote => exact settled_answered word _

end Lookup

namespace Search

namespace Node

/-! ## Places of progress -/

/-- Nothing in the search is merged, and every branch has children: so is a search in one index. -/
def Flat (n : Node) : Prop :=
  n.Everywhere fun m => m.operation ≠ .merge ∧ (m.isLeaf = false → m.children ≠ [])

/-- Only the node itself may be a merge, and what is below it is flat. -/
structure Counting (n : Node) : Prop where
  below : ∀ child ∈ n.children, child.Flat
  here : n.operation ≠ .merge → n.Flat

theorem Flat.ofChildren {n : Node} (flat : n.Flat) : ∀ child ∈ n.children, child.Flat :=
  Everywhere.ofChildren flat

theorem Flat.counting {n : Node} (flat : n.Flat) : n.Counting := ⟨flat.ofChildren, fun _ => flat⟩

/-- The places, seen from a node, that it hands up to the branch above it. -/
def handedPlaces (n : Node) : List (List Nat) :=
  if n.isLeaf || n.subProgress.isEmpty then [[]] else n.subProgress

theorem liftedProgress_eq_flatMap (i : Nat) (nodes : List Node) :
    liftedProgress i nodes =
      (nodes.zipIdx i).flatMap fun child => child.1.handedPlaces.map (child.2 :: ·) := by
  induction nodes generalizing i with
  | nil => rfl
  | cons n rest ih =>
      rw [liftedProgress, ih, List.zipIdx_cons, List.flatMap_cons, handedPlaces]
      congr 1
      split <;> rfl

/-- Something is handed up in any case: the reports if there are some, or else the node's own. -/
theorem reports_or_own_ne_nil {α : Type} (leaf : Bool) (own : α) (reports : List α) :
    (if leaf || reports.isEmpty then [own] else reports) ≠ [] := by
  split
  · exact List.cons_ne_nil _ _
  · rename_i nested
    rintro rfl
    exact nested (Bool.or_true leaf)

theorem handedPlaces_ne_nil (n : Node) : n.handedPlaces ≠ [] := reports_or_own_ne_nil _ _ _

/-- The reports of a branch in one index are those of its children, one child after another. -/
theorem subProgress_branch {op : Operation} (apart : op ≠ .merge) (query locators : String)
    (children : List Node) (memo : Memo) :
    (Node.branch query locators op children memo).subProgress =
      children.zipIdx.flatMap fun child => child.1.handedPlaces.map (child.2 :: ·) := by
  rw [subProgress, if_neg apart, liftedProgress_eq_flatMap]

/-- Whatever reports in a search in one index is handed up. -/
theorem Flat.handedPlaces_eq {n : Node} (flat : n.Flat) : n.handedPlaces = n.subProgress := by
  cases n with
  | leaf query locator holder lookup memo => rfl
  | branch query locators op children memo =>
      have apart : op ≠ .merge := flat.here.1
      have reports : (Node.branch query locators op children memo).subProgress ≠ [] := by
        obtain ⟨first, rest, cut⟩ := List.exists_cons_of_ne_nil (flat.here.2 rfl)
        rw [subProgress_branch apart, show children = first :: rest from cut]
        simpa using fun none => absurd none first.handedPlaces_ne_nil
      unfold handedPlaces
      rw [if_neg]
      simpa [isLeaf] using reports

theorem Flat.subProgress_branch {query locators : String} {op : Operation} {children : List Node}
    {memo : Memo} (flat : (Node.branch query locators op children memo).Flat) :
    (Node.branch query locators op children memo).subProgress =
      children.zipIdx.flatMap fun child => child.1.subProgress.map (child.2 :: ·) := by
  have apart : op ≠ .merge := flat.here.1
  rw [Node.subProgress_branch apart]
  refine List.flatMap_congr fun child member => ?_
  rw [(flat.ofChildren child.1 (List.fst_mem_of_mem_zipIdx member)).handedPlaces_eq]

/-- **A search in one index reports by its leaves**, and by nothing else. -/
theorem Flat.mem_subProgress_iff {n : Node} (flat : n.Flat) {place : List Nat} :
    place ∈ n.subProgress ↔ ∃ leaf, n.at? place = some leaf ∧ leaf.isLeaf = true := by
  induction n generalizing place with
  | leaf query locator holder lookup memo =>
      cases place with
      | nil => simp [subProgress, at?, isLeaf]
      | cons i rest => simp [subProgress, at?, children]
  | branch query locators op children memo ih =>
      rw [flat.subProgress_branch, List.mem_flatMap]
      constructor
      · rintro ⟨⟨child, i⟩, member, reported⟩
        obtain ⟨rest, below, rfl⟩ := List.mem_map.1 reported
        have found := List.mem_zipIdx_iff_getElem?.1 member
        have isChild := List.mem_of_getElem? found
        obtain ⟨leaf, placed, isLeaf⟩ := (ih child isChild (flat.ofChildren child isChild)).1 below
        refine ⟨leaf, ?_, isLeaf⟩
        show (children[i]?).bind (at? rest) = some leaf
        rw [found]
        exact placed
      · rintro ⟨leaf, placed, isLeaf⟩
        cases place with
        | nil =>
            cases placed
            cases isLeaf
        | cons i rest =>
            obtain ⟨child, found, placed⟩ := Option.bind_eq_some_iff.1 placed
            have isChild := List.mem_of_getElem? found
            have below := (ih child isChild (flat.ofChildren child isChild)).2 ⟨leaf, placed, isLeaf⟩
            exact ⟨(child, i), List.mem_zipIdx_iff_getElem?.2 found, List.mem_map_of_mem below⟩

theorem pairwise_zipIdx (nodes : List Node) :
    nodes.zipIdx.Pairwise fun child other => child.2 < other.2 := by
  rw [← List.pairwise_map (f := Prod.snd) (R := (· < ·)), List.zipIdx_map_snd]
  exact List.pairwise_lt_range'

/-- **Every leaf reports once**, in the order of a walk through the tree. -/
theorem Flat.subProgress_ordered {n : Node} (flat : n.Flat) :
    n.subProgress.Pairwise (· < ·) := by
  induction n with
  | leaf query locator holder lookup memo => exact List.pairwise_singleton _ _
  | branch query locators op children memo ih =>
      rw [flat.subProgress_branch, List.pairwise_flatMap]
      constructor
      · intro child member
        have isChild := List.fst_mem_of_mem_zipIdx member
        refine (ih child.1 isChild (flat.ofChildren child.1 isChild)).map _ ?_
        exact fun _ _ => List.cons_lt_cons_self.2
      · refine (pairwise_zipIdx children).imp fun {child other} further place isOne another isOther => ?_
        obtain ⟨rest, _, rfl⟩ := List.mem_map.1 isOne
        obtain ⟨tail, _, rfl⟩ := List.mem_map.1 isOther
        exact List.Lex.rel further

/-- The reports of a merge are its children. -/
theorem mem_subProgress_merge {query locators : String} {children : List Node} {memo : Memo}
    {place : List Nat} :
    place ∈ (Node.branch query locators .merge children memo).subProgress ↔
      ∃ i child, place = [i] ∧ children[i]? = some child := by
  simp only [subProgress, if_pos, List.mem_map, List.mem_range]
  constructor
  · rintro ⟨i, bound, rfl⟩
    exact ⟨i, children[i], rfl, List.getElem?_eq_getElem bound⟩
  · rintro ⟨i, child, rfl, found⟩
    exact ⟨i, (List.getElem?_eq_some_iff.1 found).1, rfl⟩

theorem merge_subProgress_ordered (query locators : String) (children : List Node) (memo : Memo) :
    (Node.branch query locators .merge children memo).subProgress.Pairwise (· < ·) := by
  rw [subProgress, if_pos rfl]
  refine List.pairwise_lt_range.map _ fun _ _ further => ?_
  exact List.Lex.rel further

/-! ## Counters of a search -/

/-- What the lookups below a node count, one by one. -/
def tallies (n : Node) : List (Except Failure Parts) := n.leaves.map Lookup.tally

theorem tallies_branch (query locators : String) (op : Operation) (children : List Node)
    (memo : Memo) :
    (Node.branch query locators op children memo).tallies = children.flatMap tallies := by
  rw [tallies, leaves_branch, List.map_flatMap]
  rfl

theorem handedUp_ne_nil (n : Node) : n.handedUp ≠ [] := reports_or_own_ne_nil _ _ _

theorem Flat.handedUp_eq {n : Node} (flat : n.Flat) : n.handedUp = n.reportedParts := by
  cases n with
  | leaf query locator holder lookup memo => rfl
  | branch query locators op children memo =>
      have apart : op ≠ .merge := flat.here.1
      have reports : (Node.branch query locators op children memo).reportedParts ≠ [] := by
        obtain ⟨first, rest, cut⟩ := List.exists_cons_of_ne_nil (flat.here.2 rfl)
        rw [reportedParts, if_neg apart, liftedParts_eq_flatMap, show children = first :: rest from cut]
        simpa using fun none => absurd none first.handedUp_ne_nil
      unfold handedUp
      rw [if_neg]
      simpa [isLeaf] using reports

/-- A search in one index counts the lookups below it, one by one. -/
theorem Flat.reportedParts_eq {n : Node} (flat : n.Flat) : n.reportedParts = n.tallies := by
  induction n with
  | leaf query locator holder lookup memo => rfl
  | branch query locators op children memo ih =>
      have apart : op ≠ .merge := flat.here.1
      rw [reportedParts, if_neg apart, liftedParts_eq_flatMap, tallies_branch]
      refine List.flatMap_congr fun child member => ?_
      have below := flat.ofChildren child member
      rw [below.handedUp_eq, ih child member below]

/-- The counters of a search in one index are the sum over the lookups below it. -/
theorem Flat.parts_eq {n : Node} (flat : n.Flat) : n.parts = Parts.sum n.tallies := by
  cases n with
  | leaf query locator holder lookup memo => exact (Parts.sum_singleton lookup.tally).symm
  | branch query locators op children memo => rw [parts_branch, flat.reportedParts_eq]

/-- **Every lookup is counted once.**  The counters of a node are the sum over the lookups below
it, also where they are added up by index. -/
theorem Counting.parts_eq {n : Node} (counting : n.Counting)
    (fits : Parts.Fits (Parts.given n.tallies)) : n.parts = Parts.sum n.tallies := by
  by_cases merges : n.operation = .merge
  · cases n with
    | leaf query locator holder lookup memo => cases merges
    | branch query locators op children memo =>
        obtain rfl : op = .merge := merges
        rw [tallies_branch, List.flatMap_def] at fits ⊢
        rw [parts_branch, reportedParts, if_pos rfl, partsOf_eq_flatMap, ← List.map_eq_flatMap,
          ← Parts.sum_map_sum fits, List.map_map]
        congr 1
        exact List.map_congr_left fun child member => (counting.below child member).parts_eq
  · exact (counting.here merges).parts_eq

/-- The counters of the lookups below a node that have not failed. -/
def counters (n : Node) : List Parts := n.leaves.filterMap fun l => l.progress.toOption

theorem given_tallies (n : Node) : Parts.given n.tallies = n.counters := by
  rw [Parts.given, tallies, List.filterMap_map]
  refine List.filterMap_congr fun l _ => ?_
  show l.tally.toOption = l.progress.toOption
  unfold Lookup.tally
  cases l.progress <;> rfl

theorem counters_of_not_failed {n : Node} (sound : ∀ l ∈ n.leaves, ¬ l.HasFailed) :
    n.counters = n.leaves.map Lookup.parts := by
  rw [← given_tallies, tallies, Lookup.map_tally sound, Parts.given_map_ok]

section Counting

variable {n : Node} (counting : n.Counting) (fits : Parts.Fits n.counters)
include counting fits

/-- While no lookup has failed, the counters are the exact sums. -/
theorem Counting.exact (sound : ∀ l ∈ n.leaves, ¬ l.HasFailed) :
    ∃ p, n.parts = .ok p ∧ p.AddsUp (n.leaves.map Lookup.parts) := by
  have counted := fits
  rw [counters_of_not_failed sound] at counted
  obtain ⟨p, exact⟩ := Parts.fits_iff_exists_addsUp.1 counted
  refine ⟨p, ?_, exact⟩
  rw [counting.parts_eq (by rwa [given_tallies]), tallies, Lookup.map_tally sound,
    Parts.sum_of_addsUp exact]

/-- The first lookup that has failed is what the counters raise. -/
theorem Counting.aborted {before after : List (Lookup (List Entry))} {l : Lookup (List Entry)}
    {reason : String} (cut : n.leaves = before ++ l :: after)
    (earlier : ∀ b ∈ before, ¬ b.HasFailed) (failed : l.outcome = .aborted reason) :
    n.parts = .error (.search (.abort l.subject reason)) := by
  have told : n.tallies = (before.map Lookup.parts).map .ok ++
      .error (.search (.abort l.subject reason)) :: after.map Lookup.tally := by
    rw [tallies, cut, List.map_append, List.map_cons, Lookup.map_tally earlier,
      Lookup.tally_of_aborted failed]
  have counted : Parts.Fits (before.map Lookup.parts) := by
    rw [← given_tallies, told, Parts.given_append, Parts.given_map_ok] at fits
    exact fits.sublist (List.sublist_append_left _ _)
  rw [counting.parts_eq (by rwa [given_tallies]), told, Parts.sum_of_first counted]

/-- A search that is done is complete, if every lookup that completed counts all its parts. -/
theorem Counting.complete (settled : ∀ l ∈ n.leaves, l.Settled) (done : n.isDone = .ok true) :
    ∃ p, n.parts = .ok p ∧ p.done = p.total ∧ p.final = true ∧ p.isComplete = true := by
  have complete := isDone_eq_ok_true_iff.1 done
  obtain ⟨p, given, exact⟩ := counting.exact fits fun l member failed =>
    failed.not_isComplete (complete l member)
  have counts : p.done = p.total := by
    rw [← UInt32.toNat_inj, exact.done, exact.total, List.map_map, List.map_map]
    congr 1
    refine List.map_congr_left fun l member => ?_
    show l.parts.done.toNat = l.parts.total.toNat
    rw [(settled l member (complete l member)).1]
  have final : p.final = true := by
    rw [exact.final, List.all_map, List.all_eq_true]
    exact fun l member => (settled l member (complete l member)).2
  refine ⟨p, given, counts, final, ?_⟩
  rw [Parts.isComplete, final, counts]
  simp

end Counting

/-! ## What a run keeps -/

/-- What holds of every lookup of a search holds of every lookup of a later state of it. -/
def Retains (P : Lookup (List Entry) → Prop) (n later : Node) : Prop :=
  (∀ l ∈ n.leaves, P l) → ∀ l ∈ later.leaves, P l

section Retaining

variable {P : Lookup (List Entry) → Prop}

theorem Retains.of_leaves {n later : Node} (same : later.leaves = n.leaves) : Retains P n later := by
  intro holds
  rwa [same]

theorem Retains.refl (n : Node) : Retains P n n := .of_leaves rfl

theorem Retains.trans {n later last : Node} (first : Retains P n later)
    (second : Retains P later last) : Retains P n last :=
  second ∘ first

theorem children_retain {query locators : String} {op : Operation} {children later : List Node}
    {memo : Memo} (each : List.Forall₂ (Retains P) children later) :
    Retains P (.branch query locators op children memo) (.branch query locators op later memo) := by
  intro holds
  rw [leaves_branch, List.forall_mem_flatMap] at holds ⊢
  exact forall_of_forall₂ each fun child member _ retains => retains (holds child member)

theorem onLookup_retains {f : Lookup (List Entry) → Lookup (List Entry)}
    (keeps : ∀ l, P l → P (f l)) (n : Node) : Retains P n (n.onLookup f) := by
  cases n with
  | leaf query locator holder lookup memo =>
      intro holds l member
      obtain rfl := List.mem_singleton.1 member
      exact keeps lookup (holds lookup (List.mem_singleton_self _))
  | branch query locators op children memo => exact .refl _

theorem take_retains (n : Node) : Retains P n n.take.1 := by
  induction n using induction_children with
  | step n ih =>
      rcases n.take_cases with ⟨_, _, taken⟩ | ⟨_, _, taken⟩ | ⟨later, _, _, _, asked, taken⟩
      · rw [taken]
        exact .refl n
      · rw [taken]
        exact .refl n
      · have below : Retains P n later := by
          rcases asked with rfl | rfl
          · exact .refl _
          · have each := forall₂_takeAll Retains.refl ih
            cases n with
            | leaf query locator holder lookup memo => exact .refl _
            | branch query locators op children memo => exact children_retain each
        rw [taken]
        exact below.trans (.of_leaves (leaves_withMemo _ later))

end Retaining

/-- No call takes a part back from a lookup that has completed. -/
theorem afterCall_retains (n : Node) (call : Call) :
    Retains Lookup.Settled n (n.afterCall call) := by
  cases call with
  | report parts => exact onLookup_retains (fun _ settled => Lookup.settled_report settled parts) n
  | complete entries =>
      exact onLookup_retains (fun _ settled => Lookup.settled_complete settled entries) n
  | abort reason => exact onLookup_retains (fun _ settled => Lookup.settled_abort settled reason) n
  | drop =>
      exact onLookup_retains (fun _ settled => Lookup.settled_abort settled Lookup.droppedReason) n
  | status =>
      rcases n.refresh_cases with same | ⟨memo, _, same⟩
      · exact .of_leaves (by rw [afterCall, same])
      · exact .of_leaves (by rw [afterCall, same, leaves_withMemo])
  | isDone => exact .refl n
  | parts => exact .refl n
  | result => exact take_retains n

/-- **Nor does any run.** -/
theorem run_retains (root : Node) (events : List Event) :
    Retains Lookup.Settled root (root.run events) := by
  induction events generalizing root with
  | nil => exact .refl root
  | cons event rest ih =>
      have first : Retains Lookup.Settled root (root.after event) :=
        modify_of_children Retains.refl children_retain event.place root
          fun m _ => afterCall_retains m event.call
      exact first.trans (ih (root.after event))

end Node

/-! ## Searches as they are opened -/

theorem settled_grow (catalog : Catalog) (locator : String) (backend : Backend) (p : Plan) :
    ∀ l ∈ (grow catalog locator backend p).leaves, l.Settled := by
  induction p with
  | term word =>
      intro l member
      obtain rfl := List.mem_singleton.1 member
      exact Lookup.settled_ask catalog backend word
  | branch query op children ih =>
      rw [grow_branch, Node.leaves_branch, List.forall_mem_flatMap, List.forall_mem_map]
      exact ih

theorem settled_growSearch (catalog : Catalog) (query : String) (p : Plan)
    (indexes : List (String × Backend)) :
    ∀ l ∈ (growSearch catalog query p indexes).leaves, l.Settled := by
  by_cases one : indexes.length = 1
  · obtain ⟨index, rfl⟩ := List.length_eq_one_iff.1 one
    exact settled_grow catalog index.1 index.2 p
  · rw [growSearch_several catalog query p one, Node.leaves_branch, List.forall_mem_flatMap,
      List.forall_mem_map]
    exact fun index _ => settled_grow catalog index.1 index.2 p

/-- A search of the shape of a plan in layers is flat. -/
theorem flat_of_within {layer : Nat} {p : Plan} (within : p.Within layer) {n : Node}
    (shaped : n.shape = p) : n.Flat := by
  induction within generalizing n with
  | term word =>
      obtain ⟨locator, holder, lookup, memo, rfl⟩ := Node.shape_eq_term_iff.1 shaped
      exact .intro ⟨by simp [Node.operation], by simp [Node.isLeaf]⟩ (by simp [Node.children])
  | joined query outward joins reached several below ih =>
      obtain ⟨locators, children, memo, rfl, rfl⟩ := Node.shape_eq_branch_iff.1 shaped
      refine .intro ⟨?_, fun _ none => ?_⟩ fun child member =>
        ih child.shape (List.mem_map_of_mem member) rfl
      · rintro rfl
        cases outward
        exact absurd joins (by decide)
      · obtain rfl : children = [] := none
        exact absurd several (by decide)
  | excluding query reached first second keptIh excludedIh =>
      obtain ⟨locators, children, memo, rfl, shapes⟩ := Node.shape_eq_branch_iff.1 shaped
      obtain ⟨kept, rest, rfl, rfl, more⟩ := List.map_eq_cons_iff.1 shapes
      obtain ⟨excluded, none, rfl, rfl, nothing⟩ := List.map_eq_cons_iff.1 more
      obtain rfl := List.map_eq_nil_iff.1 nothing
      refine .intro ⟨by simp [Node.operation], by simp [Node.children]⟩ fun child member => ?_
      simp only [Node.children, List.mem_cons, List.not_mem_nil, or_false] at member
      rcases member with rfl | rfl
      · exact keptIh rfl
      · exact excludedIh rfl

/-- A search of the shape of those that are opened may merge at its root only. -/
theorem everywhere_counting {p : Plan} (within : p.Within 4) {query : String} {count : Nat}
    {n : Node} (shaped : n.shape =
      if count = 1 then p else .branch query .merge (List.replicate count p)) :
    n.Everywhere Node.Counting := by
  split at shaped
  · exact (flat_of_within within shaped).everywhere.imp fun _ flat => Node.Flat.counting flat
  · obtain ⟨locators, children, memo, rfl, shapes⟩ := Node.shape_eq_branch_iff.1 shaped
    have below : ∀ child ∈ children, child.Flat := fun child member =>
      flat_of_within within (List.eq_of_mem_replicate (shapes ▸ List.mem_map_of_mem member))
    refine .intro ⟨below, fun apart => absurd rfl apart⟩ fun child member => ?_
    exact (below child member).everywhere.imp fun _ flat => Node.Flat.counting flat

/-- Whatever happens to a search, its lookups can be counted at every place of it. -/
theorem counting_of_opened {catalog : Catalog} {query : String} {locators : List String}
    {root : Node} (opened : (openSearch catalog query locators).search = .ok root)
    (events : List Event) :
    (root.run events).Everywhere Node.Counting ∧ ∀ l ∈ (root.run events).leaves, l.Settled := by
  have same := (root.run_continues events).proceeds.shape
  have retains := root.run_retains events
  obtain ⟨p, later, backends, planned, _, _, rfl⟩ := openSearch_eq_ok_iff.1 opened
  obtain ⟨tokens, _, made⟩ := planQuery_eq_ok_iff.1 planned
  rw [shape_growSearch] at same
  exact ⟨everywhere_counting (plan_within made) same, retains (settled_growSearch _ _ _ _)⟩

theorem Node.mem_leaves_of_at? {n m : Node} {place : List Nat} (placed : n.at? place = some m)
    {l : Lookup (List Entry)} (below : l ∈ m.leaves) : l ∈ n.leaves := by
  induction place generalizing n with
  | nil =>
      cases placed
      exact below
  | cons i rest ih =>
      obtain ⟨child, found, placed⟩ := Option.bind_eq_some_iff.1 placed
      exact mem_leaves_of_mem_children (List.mem_of_getElem? found) (ih placed)

/-! ## The progress of a node -/

/-- A node reports by its leaves, or by its indexes if it merges several, and counts every lookup
below it once. -/
structure Node.Progresses (n : Node) : Prop where
  /-- In one index it reports by its leaves. -/
  byLeaf : n.operation ≠ .merge → ∀ place,
    place ∈ n.subProgress ↔ ∃ leaf, n.at? place = some leaf ∧ leaf.isLeaf = true
  /-- In several it reports by index. -/
  byIndex : n.operation = .merge → ∀ place,
    place ∈ n.subProgress ↔ ∃ i child, place = [i] ∧ n.children[i]? = some child
  /-- It reports by each of them once, in the order of a walk through the tree. -/
  ordered : n.subProgress.Pairwise (· < ·)
  /-- While no lookup has failed, its counters are the exact sums over all of them. -/
  exact : Parts.Fits n.counters → (∀ l ∈ n.leaves, ¬ l.HasFailed) →
    ∃ p, n.parts = .ok p ∧ p.AddsUp (n.leaves.map Lookup.parts)
  /-- The first lookup that has failed is what its counters raise. -/
  aborted : Parts.Fits n.counters → ∀ before l after reason,
    n.leaves = before ++ l :: after → (∀ b ∈ before, ¬ b.HasFailed) →
      l.outcome = .aborted reason → n.parts = .error (.search (.abort l.subject reason))
  /-- When it is done, it is complete. -/
  complete : Parts.Fits n.counters → n.isDone = .ok true →
    ∃ p, n.parts = .ok p ∧ p.done = p.total ∧ p.final = true ∧ p.isComplete = true

theorem Node.Counting.progresses {n : Node} (counting : n.Counting)
    (settled : ∀ l ∈ n.leaves, l.Settled) : n.Progresses where
  byLeaf apart _ := (counting.here apart).mem_subProgress_iff
  byIndex merges place := by
    cases n with
    | leaf query locator holder lookup memo => cases merges
    | branch query locators op children memo =>
        obtain rfl : op = .merge := merges
        exact mem_subProgress_merge
  ordered := by
    by_cases merges : n.operation = .merge
    · cases n with
      | leaf query locator holder lookup memo => cases merges
      | branch query locators op children memo =>
          obtain rfl : op = .merge := merges
          exact merge_subProgress_ordered query locators children memo
    · exact (counting.here merges).subProgress_ordered
  exact fits sound := counting.exact fits sound
  aborted fits _ _ _ _ cut earlier failed := counting.aborted fits cut earlier failed
  complete fits done := counting.complete fits settled done

/-- **Progress counts every lookup once.**  Whatever happens to a search, every node of it reports
by exactly the leaves or the indexes below it, and its counters are the exact sums over all lookups
below it, or the first abort among them.  A node that is done is complete. -/
theorem run_progresses {catalog : Catalog} {query : String} {locators : List String}
    {root n : Node} (opened : (openSearch catalog query locators).search = .ok root)
    (events : List Event) {place : List Nat} (placed : (root.run events).at? place = some n) :
    n.Progresses := by
  obtain ⟨counting, settled⟩ := counting_of_opened opened events
  exact (counting.at? placed).progresses fun l below =>
    settled l (Node.mem_leaves_of_at? placed below)

/-- The search in one of two indexes, each answered by somebody else. -/
def catFishNotBigDog (locator : String) (holder : Nat) : Node :=
  .branch "cat -\"big dog\" fish" locator .difference
    [.branch "cat fish" locator .intersection
        [.leaf "cat" locator (some holder) (.fresh "cat") Memo.fresh,
          .leaf "fish" locator (some holder) (.fresh "fish") Memo.fresh] Memo.fresh,
      .branch "\"big dog\"" locator .phrase
        [.leaf "big" locator (some holder) (.fresh "big") Memo.fresh,
          .leaf "dog" locator (some holder) (.fresh "dog") Memo.fresh] Memo.fresh] Memo.fresh

/-- The search in both. -/
def catFishInBoth : Node :=
  .branch "cat -\"big dog\" fish" "near far" .merge
    [catFishNotBigDog "near" 0, catFishNotBigDog "far" 1] Memo.fresh

theorem catFishInBoth_opened :
    (openSearch Service.nearAndFar.catalog "cat -\"big dog\" fish" ["near", "far"]).search =
      .ok catFishInBoth := by
  have planned : planQuery "cat -\"big dog\" fish" =
      .ok (.branch "cat -\"big dog\" fish" .difference
        [.branch "cat fish" .intersection [.term "cat", .term "fish"],
          .branch "\"big dog\"" .phrase [.term "big", .term "dog"]]) := by cbv
  have resolved : Service.nearAndFar.catalog.resolveAll ["near", "far"] =
      (Service.nearAndFar.catalog,
        .ok [.external 0 fun _ => .ok none, .external 1 fun _ => .ok none]) := rfl
  rw [openSearch_of_planned planned (by simp) resolved]
  rfl

/-- Far away everything is found, one word of four after a report; nearby a word of the phrase is
given up while the others are open, and somebody asks. -/
def foundFarAway : List Event :=
  [⟨[1, 0, 0], .report ⟨1, 4, false⟩⟩, ⟨[0, 0, 1], .report ⟨3, 9, false⟩⟩,
    ⟨[1, 1, 1], .complete []⟩, ⟨[1, 0, 0], .complete [.ofOffsets "cat" "a.txt" [3]]⟩,
    ⟨[0, 1, 0], .abort "gone"⟩, ⟨[], .result⟩, ⟨[1, 1, 0], .complete []⟩,
    ⟨[1, 0, 1], .complete [.ofOffsets "fish" "a.txt" [5]]⟩, ⟨[1], .status⟩]

theorem run_progresses_foundFarAway :
    (openSearch Service.nearAndFar.catalog "cat -\"big dog\" fish" ["near", "far"]).search =
        .ok catFishInBoth ∧
      ((catFishInBoth.run foundFarAway).Progresses ∧
        Parts.Fits (catFishInBoth.run foundFarAway).counters ∧
        (catFishInBoth.run foundFarAway).parts = .error (.search (.abort "big" "gone"))) ∧
      ∃ far, (catFishInBoth.run foundFarAway).at? [1] = some far ∧ far.Progresses ∧
        Parts.Fits far.counters ∧ far.isDone = .ok true ∧ far.parts = .ok ⟨7, 7, true⟩ ∧
        far.subProgress = [[0, 0], [0, 1], [1, 0], [1, 1]] := by
  have root : (catFishInBoth.run foundFarAway).at? [] = some _ := rfl
  have whole := run_progresses catFishInBoth_opened foundFarAway root
  have second : (catFishInBoth.run foundFarAway).at? [1] = some _ := rfl
  refine ⟨catFishInBoth_opened, ⟨whole, by decide +kernel, by cbv⟩, _, second, ?_, ?_⟩
  · exact run_progresses catFishInBoth_opened foundFarAway second
  · exact ⟨by decide +kernel, by cbv, by cbv, by cbv⟩

end Search

end Concordance
