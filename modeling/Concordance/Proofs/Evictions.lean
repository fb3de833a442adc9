/-
# Concordance.Proofs.Evictions -- what makes a search live, and what ends that

Two things put a search in place of another under a name: starting it, and nothing else.
Three take one away: clearing, removing its root, and taking a result from its root that
is worked out then.  `find?_act` says for every action which search is live under a name
afterwards, so that whoever asks for that need not look at the registry's own operations.

A result is worked out of the results of the nodes below, and each of these nodes may ask
to be removed as well.  None of them can be live, so only the root counts
(`result_evicting`).

What is live has not been taken yet (`Untaken`): the result that a search remembers is
worked out in the same step in which it leaves the registry.  This and that every search
is filed under its own name is what a run keeps (`run_orderly`).
-/
import Concordance.Proofs.Identity
import Concordance.Proofs.Verdicts

namespace Concordance

open Concordance.Data Concordance.Index Concordance.Query Concordance.Search

set_option autoImplicit false

namespace Search

/-! ## Memories of a root -/

namespace Node

/-- A search that remembers nothing works its result out exactly when it has one to tell. -/
theorem isCollectable_iff {n : Node} (untaken : n.memo.outcome = none) :
    n.isCollectable = true ↔ n.take.2 ≠ .ok none := by
  rcases n.take_cases with ⟨_, known, _⟩ | ⟨_, waits, taken⟩ | ⟨later, worked, _, acts, _, taken⟩
  · rw [untaken] at known
    cases known
  · rw [taken, isCollectable, untaken, waits]
    simp
  · have told : (conclude worked).2 ≠ .ok none := by
      rcases worked with (e | f) | set <;> simp [conclude]
    rw [taken, isCollectable, untaken]
    refine iff_of_true ?_ told
    rcases done : n.isDone with e | (_ | _)
    · rfl
    · exact absurd done acts
    · rfl

/-- A search that remembers nothing and has nothing to tell is left as it is. -/
theorem take_of_not_isCollectable {n : Node} (untaken : n.memo.outcome = none)
    (postponed : n.isCollectable = false) : n.take = (n, .ok none) := by
  refine take_of_waiting untaken ?_
  rw [isCollectable, untaken] at postponed
  rcases done : n.isDone with e | (_ | _)
  · rw [done] at postponed
    cases postponed
  · rfl
  · rw [done] at postponed
    cases postponed

/-- A change of a node changes what the root remembers only if it is a change of the root. -/
theorem outcome_modify {f : Node → Node} (path : List Nat) (n : Node)
    (same : path = [] → (f n).memo.outcome = n.memo.outcome) :
    (n.modify f path).memo.outcome = n.memo.outcome := by
  cases path with
  | nil => exact same rfl
  | cons i rest => cases n <;> rfl

theorem memo_onOpen (serial : Nat) (term : Option String)
    (f : Lookup (List Entry) → Lookup (List Entry)) (n : Node) :
    (n.onOpen serial term f).memo = n.memo := by
  cases n <;> rfl

end Node

end Search

namespace Service

/-! ## Names of what is live -/

/-- What is live under a name has that name. -/
theorem WellFiled.subject {s : Service} (wellFiled : s.WellFiled) {subject : String} {search : Nat}
    (live : s.registry.find? subject = some search) :
    ∃ root, s.node? (.root search) = some root ∧ root.subject = subject := by
  obtain ⟨query, locators, rfl, filed⟩ := wellFiled subject search live
  obtain ⟨root, found, sameQuery, sameLocators⟩ := filed.root
  refine ⟨root, found, ?_⟩
  rw [Node.subject, sameQuery, sameLocators]
  rfl

/-! ## Nodes that are no roots -/

/-- A node below a root is in no registry, so removing it changes nothing. -/
theorem remove_of_inner {s : Service} {ref : NodeRef} (inner : ref.path ≠ []) : s.remove ref = s := by
  unfold Service.remove
  rcases s.node? ref with _ | n
  · rfl
  · have noRoot : ¬ (s.registry.bySubject.find? n.subject).map NodeRef.root = some ref := by
      intro live
      obtain ⟨search, _, rfl⟩ := Option.map_eq_some_iff.1 live
      exact inner rfl
    show { s with registry := s.registry.remove n.subject n.hash ref } = s
    rw [Registry.remove, if_neg noRoot]

theorem foldl_remove_of_inner (s : Service) {refs : List NodeRef}
    (inner : ∀ ref ∈ refs, ref.path ≠ []) : refs.foldl Service.remove s = s := by
  induction refs with
  | nil => rfl
  | cons ref rest ih =>
      obtain ⟨first, others⟩ := List.forall_mem_cons.1 inner
      rw [List.foldl_cons, remove_of_inner first]
      exact ih others

/-- **All that a result is worked out of may be removed**, the node itself and then, in whatever
order, nodes below it: only the node itself can have been live. -/
theorem result_evicting {s : Service} {ref : NodeRef} {n : Node} (placed : s.node? ref = some n)
    (collectable : n.isCollectable = true) {below : List NodeRef}
    (inner : ∀ child ∈ below, child.path ≠ []) :
    s.result ref =
      (((ref :: below).foldl Service.remove s).modify ref (fun _ => n.take.1), n.take.2) := by
  rw [List.foldl_cons, foldl_remove_of_inner _ inner, Service.result, placed]
  show ((if n.isCollectable then s.remove ref else s).modify ref _, _) = _
  rw [if_pos collectable]
/-! ## What is live after an action -/

/-- Removing a node takes away the search of which it is the root, and no other. -/
theorem find?_remove_of_wellFiled {s : Service} (wellFiled : s.WellFiled) (ref : NodeRef)
    (subject : String) :
    (s.remove ref).registry.find? subject =
      (s.registry.find? subject).filter (fun search => NodeRef.root search ≠ ref) := by
  rcases s.remove_registry_cases ref with ⟨absent, same⟩ | ⟨n, placed, removed⟩
  · rw [same]
    rcases live : s.registry.find? subject with _ | search
    · rfl
    · obtain ⟨root, found, _⟩ := wellFiled.subject live
      have other : NodeRef.root search ≠ ref := by
        rintro rfl
        rw [absent] at found
        cases found
      rw [Option.filter_some, if_pos (decide_eq_true other)]
  · rw [removed, Registry.find?_remove]
    rcases live : s.registry.find? subject with _ | search
    · rw [ite_self]
      rfl
    · by_cases itself : NodeRef.root search = ref
      · -- The node is the root of what is live under the name, so it has that name.
        obtain ⟨root, found, rfl⟩ := wellFiled.subject live
        rw [itself, placed] at found
        cases found
        rw [live, Option.map_some, itself, if_pos ⟨rfl, rfl⟩, Option.filter_some,
          if_neg (by simp [itself])]
      · have kept : ¬ (subject = n.subject ∧
            (s.registry.find? n.subject).map NodeRef.root = some ref) := by
          rintro ⟨rfl, removed⟩
          rw [live] at removed
          exact itself (Option.some.inj removed)
        rw [if_neg kept, Option.filter_some, if_pos (decide_eq_true itself)]

/-- The search that is live under a name after an action. -/
def liveAfter (s : Service) (subject : String) : Action → Option Nat
  | .start query locators =>
      if canonicalSubject query locators = subject then (s.startSearch query locators).2.toOption
      else s.registry.find? subject
  | .result ref =>
      if (s.node? ref).any Node.isCollectable then
        (s.registry.find? subject).filter (fun search => NodeRef.root search ≠ ref)
      else s.registry.find? subject
  | .remove ref => (s.registry.find? subject).filter (fun search => NodeRef.root search ≠ ref)
  | .clear => none
  | _ => s.registry.find? subject

/-- **What an action does to the registry.** -/
theorem find?_act {s : Service} (wellFiled : s.WellFiled) (action : Action) (subject : String) :
    (s.act action).registry.find? subject = s.liveAfter subject action := by
  have unchanged (same : (s.act action).registry = s.registry) :
      (s.act action).registry.find? subject = s.registry.find? subject := by
    rw [same]
  cases action with
  | resolve locator => exact unchanged (by rw [act, resolve_registry])
  | start query locators =>
      rw [act, liveAfter]
      rcases s.startSearch_cases query locators with
        ⟨search, live, started⟩ | ⟨fresh, later, e, started, _, registry⟩ |
          ⟨fresh, later, root, started, _, registry, _, _⟩
      · rw [started]
        split
        · rename_i same
          subst same
          exact live
        · rfl
      · rw [started, registry]
        split
        · rename_i same
          subst same
          exact fresh
        · rfl
      · rw [started, registry, Registry.find?_file]
        split
        · rename_i same
          rw [if_pos same.symm]
          rfl
        · rename_i other
          rw [if_neg fun same => other same.symm]
  | parse query locators => exact unchanged (by rw [act, parse_registry])
  | askTerm locator term => exact unchanged (by rw [act, askTerm_registry])
  | askDocument locator uri => exact unchanged (by rw [act, askDocument_fst, resolve_registry])
  | result ref =>
      rw [act, result_registry, liveAfter]
      split
      · exact find?_remove_of_wellFiled wellFiled ref subject
      · rfl
  | remove ref => exact find?_remove_of_wellFiled wellFiled ref subject
  | clear => rfl
  | register | create | addDocument | removeDocument | status | complete | abort | drop | report
  | abandon => rfl

/-- Whatever is live after an action was live before, or is new. -/
theorem live_before_or_new {s : Service} (wellFiled : s.WellFiled) {action : Action}
    {subject : String} {search : Nat}
    (live : (s.act action).registry.find? subject = some search) :
    s.registry.find? subject = some search ∨ search = s.searches.size := by
  rw [find?_act wellFiled] at live
  cases action with
  | start query locators =>
      rw [liveAfter] at live
      split at live
      · rename_i same
        subst same
        rcases s.startSearch_cases query locators with
          ⟨other, known, started⟩ | ⟨_, later, e, started, _⟩ | ⟨_, later, root, started, _⟩
        · rw [started] at live
          cases live
          exact Or.inl known
        · rw [started] at live
          cases live
        · rw [started] at live
          cases live
          exact Or.inr rfl
      · exact Or.inl live
  | result ref =>
      rw [liveAfter] at live
      split at live
      · exact Or.inl (Option.filter_eq_some_iff.1 live).1
      · exact Or.inl live
  | remove ref =>
      have kept : (s.registry.find? subject).filter (fun search => NodeRef.root search ≠ ref) =
        some search := live
      exact Or.inl (Option.filter_eq_some_iff.1 kept).1
  | clear =>
      cases (live : (none : Option Nat) = some search)
  | _ => exact Or.inl live

/-! ## What is live was not taken -/

/-- What is live remembers no result. -/
def Untaken (s : Service) : Prop :=
  ∀ subject search root, s.registry.find? subject = some search →
    s.node? (.root search) = some root → root.memo.outcome = none

/-- What was live before, and remembers what it did then, was not taken either. -/
theorem untaken_of_kept {s later : Service} (wellFiled : s.WellFiled) (untaken : s.Untaken)
    (older : ∀ subject search, later.registry.find? subject = some search →
      s.registry.find? subject = some search)
    (kept : ∀ subject search root, later.registry.find? subject = some search →
      s.node? (.root search) = some root →
        ∃ next, later.node? (.root search) = some next ∧
          next.memo.outcome = root.memo.outcome) : later.Untaken := by
  intro subject search next live found
  have before := older subject search live
  obtain ⟨root, placed, _⟩ := wellFiled.subject before
  obtain ⟨other, same, outcome⟩ := kept subject search root live placed
  rw [found] at same
  cases same
  rw [outcome]
  exact untaken subject search root before placed

/-- Searches that stay in place stay untaken. -/
theorem untaken_of_node? {s later : Service} (wellFiled : s.WellFiled) (untaken : s.Untaken)
    (registry : later.registry = s.registry)
    (stays : ∀ search root, s.node? (.root search) = some root →
      later.node? (.root search) = some root) : later.Untaken :=
  untaken_of_kept wellFiled untaken (fun subject search live => by rw [← registry]; exact live)
    fun _ search root _ found => ⟨root, stays search root found, rfl⟩

theorem openSearch_searches_cases (s : Service) (query : String) (locators : List String) :
    (s.openSearch query locators).1.searches = s.searches ∨
      ∃ root, (s.openSearch query locators).1.searches = s.searches.push root := by
  unfold Service.openSearch
  dsimp only
  split
  · exact Or.inl rfl
  · exact Or.inr ⟨_, rfl⟩

theorem resolve_searches (s : Service) (locator : String) :
    (s.resolve locator).1.searches = s.searches := by
  unfold Service.resolve
  split <;> rfl

/-- Searches are opened behind the others. -/
theorem node?_of_searches {s later : Service}
    (opened : later.searches = s.searches ∨ ∃ root, later.searches = s.searches.push root)
    {search : Nat} {root : Node} (found : s.node? (.root search) = some root) :
    later.node? (.root search) = some root := by
  rcases opened with same | ⟨new, pushed⟩
  · rw [node?_root] at found ⊢
    rw [same, found]
  · exact node?_of_push pushed found

theorem startSearch_untaken {s : Service} (wellFiled : s.WellFiled) (untaken : s.Untaken)
    (query locators : String) : (s.startSearch query locators).1.Untaken := by
  rcases s.startSearch_cases query locators with
    ⟨search, _, started⟩ | ⟨_, later, e, started, searches, registry⟩ |
      ⟨_, later, root, started, pushed, registry, _, fresh⟩
  · rw [started]
    exact untaken
  · rw [started]
    exact untaken_of_node? wellFiled untaken registry fun _ _ => node?_of_searches (Or.inl searches)
  · rw [started]
    intro subject search next live found
    rw [registry, Registry.find?_file] at live
    split at live
    · cases live
      rw [node?_root, pushed, Array.getElem?_push_size] at found
      cases found
      rw [fresh]
      rfl
    · obtain ⟨old, before, _⟩ := wellFiled.subject live
      have stayed := node?_of_push pushed before
      rw [found] at stayed
      cases stayed
      exact untaken subject search next live before

theorem node?_result {s : Service} {ref : NodeRef} {n : Node} (placed : s.node? ref = some n)
    (search : Nat) :
    (s.result ref).1.node? (.root search) =
      if ref.search = search then
        (s.node? (.root search)).map (Node.modify (fun _ => n.take.1) ref.path)
      else s.node? (.root search) := by
  have same : (if n.isCollectable then s.remove ref else s).node? (.root search) =
      s.node? (.root search) := by
    split
    · exact node?_remove s ref _
    · rfl
  unfold Service.result
  rw [placed]
  refine (node?_modify ..).trans ?_
  rw [same]

/-- A result that is taken from the root of a live search is worked out, and then the search is live
no more. -/
theorem result_untaken {s : Service} (wellFiled : s.WellFiled) (untaken : s.Untaken)
    (ref : NodeRef) : (s.result ref).1.Untaken := by
  rcases placed : s.node? ref with _ | n
  · unfold Service.result
    rw [placed]
    exact untaken
  refine untaken_of_kept wellFiled untaken (fun _ _ => find?_of_result) ?_
  intro subject search root live found
  rw [node?_result placed, found]
  split
  · rename_i here
    refine ⟨_, rfl, Node.outcome_modify ref.path root fun atRoot => ?_⟩
    -- The result of the root was asked for, but there was none yet.
    have itself : ref = .root search := by
      rw [← here, NodeRef.root, ← atRoot]
    rw [itself, found] at placed
    have same := Option.some.inj placed
    subst same
    have before := find?_of_result live
    have kept := (find?_act wellFiled (.result ref) subject).symm.trans live
    rw [liveAfter, itself, found, Option.any_some, before] at kept
    rcases postponed : root.isCollectable with _ | _
    · rw [Node.take_of_not_isCollectable (untaken subject search root before found) postponed]
    · simp [postponed] at kept
  · exact ⟨root, rfl, rfl⟩

theorem act_untaken {s : Service} (wellFiled : s.WellFiled) (untaken : s.Untaken)
    (action : Action) : (s.act action).Untaken := by
  have inPlace (registry : (s.act action).registry = s.registry)
      (opened : (s.act action).searches = s.searches ∨
        ∃ root, (s.act action).searches = s.searches.push root) : (s.act action).Untaken :=
    untaken_of_node? wellFiled untaken registry fun _ _ => node?_of_searches opened
  have resolved (serial : Nat) (term : Option String)
      (f : Lookup (List Entry) → Lookup (List Entry)) : (s.onOpen serial term f).1.Untaken := by
    refine untaken_of_kept wellFiled untaken (fun _ _ => id) fun _ search root _ found => ?_
    rw [node?_onOpen, found]
    exact ⟨_, rfl, by rw [Node.memo_onOpen]⟩
  cases action with
  | register | create | addDocument | removeDocument => exact inPlace rfl (Or.inl rfl)
  | resolve locator =>
      exact inPlace (by rw [act, resolve_registry]) (Or.inl (by rw [act, resolve_searches]))
  | start query locators => exact startSearch_untaken wellFiled untaken query locators
  | parse query locators =>
      refine inPlace (by rw [act, parse_registry]) ?_
      rw [act, Service.parse]
      exact openSearch_searches_cases ..
  | askTerm locator term =>
      refine inPlace (by rw [act, askTerm_registry]) ?_
      rcases askTerm_fst_cases s locator term with same | ⟨backend, asked, same⟩
      · exact Or.inl (by rw [act, same, resolve_searches])
      · refine Or.inr ⟨grow (s.resolve locator).1.catalog locator backend (.term term), ?_⟩
        rw [act, same]
        show (s.resolve locator).1.searches.push _ = _
        rw [resolve_searches]
  | askDocument locator uri =>
      exact inPlace (by rw [act, askDocument_fst, resolve_registry])
        (Or.inl (by rw [act, askDocument_fst, resolve_searches]))
  | status ref =>
      refine untaken_of_kept wellFiled untaken (fun _ _ => id) fun _ search root _ found => ?_
      show ∃ next, (s.modify ref Node.refresh).node? (.root search) = some next ∧ _
      rw [node?_modify, found]
      split
      · refine ⟨_, rfl, Node.outcome_modify ref.path root fun _ => ?_⟩
        rcases root.refresh_cases with same | ⟨memo, outcome, same⟩
        · rw [same]
        · rw [same, Node.memo_withMemo, outcome]
      · exact ⟨root, rfl, rfl⟩
  | result ref => exact result_untaken wellFiled untaken ref
  | remove ref =>
      refine untaken_of_kept wellFiled untaken (fun _ _ => find?_of_remove) ?_
      intro _ search root _ found
      exact ⟨root, (node?_remove s ref _).trans found, rfl⟩
  | clear =>
      intro subject search root live
      cases live
  | complete | abort | drop | report | abandon => exact resolved _ _ _

/-! ## Runs -/

/-- The registry of a service is in order: what is live is filed under its own name, and its result
was not taken. -/
structure Orderly (s : Service) : Prop where
  wellFiled : s.WellFiled
  untaken : s.Untaken

theorem Orderly.act {s : Service} (orderly : s.Orderly) (action : Action) :
    (s.act action).Orderly :=
  ⟨act_wellFiled orderly.wellFiled action, act_untaken orderly.wellFiled orderly.untaken action⟩

theorem Orderly.run {s : Service} (orderly : s.Orderly) (actions : List Action) :
    (s.run actions).Orderly := by
  induction actions generalizing s with
  | nil => exact orderly
  | cons action rest ih => exact ih (orderly.act action)

/-- **The registry is in order** in every run. -/
theorem run_orderly (link : Link) (actions : List Action) : ((start link).run actions).Orderly := by
  refine Orderly.run ⟨?_, ?_⟩ actions
  · intro subject search live
    cases live
  · intro subject search root live
    cases live

end Service

end Concordance
