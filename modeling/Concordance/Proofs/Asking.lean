/-
# Concordance.Proofs.Asking -- what asking leaves as it was

Whoever asks a search for its status or its result changes nothing but what its nodes
remember.  `Node.unasked` is the search without these memories, as if nobody had asked
it anything; what its lookups settle can be read off it (`verdict_of_unasked`).

A service without memories goes on as the service itself does: whatever is done, it
comes to the same whether the searches were asked before or not (`act_unasked`).  This
needs that what is live has not been taken, which every run keeps, together with the
order of every search that was ever opened (`run_tidy`).  So two services that are alike
but for what was asked stay `Alike` in every run, hold the same searches live and answer
the same (`Alike.run`, `Alike.result`).
-/
import Concordance.Proofs.Waiting
import Concordance.Proofs.Windows

namespace Concordance

open Concordance.Data Concordance.Index Concordance.Query Concordance.Search

set_option autoImplicit false

universe u v

theorem map_eq_of_forall₂ {α : Type u} {β : Type v} {f : α → β} {items later : List α}
    (each : List.Forall₂ (fun a b => f b = f a) items later) : later.map f = items.map f := by
  induction each with
  | nil => rfl
  | cons same _ ih => rw [List.map_cons, List.map_cons, same, ih]

namespace Search

namespace Node

/-! ## Searches that nobody has asked -/

/-- The search without its memories. -/
def unasked (n : Node) : Node := n.recast id

theorem unasked_branch (query locators : String) (op : Operation) (children : List Node)
    (memo : Memo) :
    (Node.branch query locators op children memo).unasked =
      .branch query locators op (children.map unasked) Memo.fresh := recast_branch _ _ _ _ _ _

theorem recast_recast (f g : Lookup (List Entry) → Lookup (List Entry)) (n : Node) :
    (n.recast f).recast g = n.recast (g ∘ f) := by
  induction n with
  | leaf query locator holder lookup memo => rfl
  | branch query locators op children memo ih =>
      rw [recast_branch, recast_branch, recast_branch, List.map_map]
      congr 1
      exact List.map_congr_left ih

@[simp] theorem unasked_withMemo (memo : Memo) (n : Node) :
    (n.withMemo memo).unasked = n.unasked := by
  cases n <;> rfl

@[simp] theorem leaves_unasked (n : Node) : n.unasked.leaves = n.leaves := by
  rw [unasked, leaves_recast, List.map_id]

@[simp] theorem isDone_unasked (n : Node) : n.unasked.isDone = n.isDone := by
  rw [isDone_eq_doneInTurn, isDone_eq_doneInTurn, leaves_unasked]

@[simp] theorem query_unasked (n : Node) : n.unasked.query = n.query := by
  cases n <;> rfl

@[simp] theorem locators_unasked (n : Node) : n.unasked.locators = n.locators := by
  cases n <;> rfl

@[simp] theorem subject_unasked (n : Node) : n.unasked.subject = n.subject := by
  rw [subject, subject, query_unasked, locators_unasked]

@[simp] theorem hash_unasked (n : Node) : n.unasked.hash = n.hash := by
  rw [hash, hash, subject_unasked]

/-- **What is settled can be read off a search without its memories.** -/
@[simp] theorem verdict_unasked (n : Node) : n.unasked.verdict = n.verdict := by
  refine verdict_of_leaves ?_ (by rw [leaves_unasked])
  rw [blank, blank, unasked, recast_recast]
  rfl

theorem verdict_of_unasked {n m : Node} (same : m.unasked = n.unasked) : m.verdict = n.verdict := by
  rw [← verdict_unasked m, same, verdict_unasked]

/-! ## Asking -/

@[simp] theorem unasked_refresh (n : Node) : n.refresh.unasked = n.unasked := by
  rcases n.refresh_cases with same | ⟨memo, _, same⟩ <;> rw [same]
  exact unasked_withMemo memo n

theorem unasked_withChildren {n : Node} {children : List Node}
    (each : List.Forall₂ (fun child other => other.unasked = child.unasked) n.children children) :
    (n.withChildren children).unasked = n.unasked := by
  cases n with
  | leaf query locator holder lookup memo => rfl
  | branch query locators op own memo =>
      rw [withChildren, unasked_branch, map_eq_of_forall₂ each, unasked_branch]
      rfl

@[simp] theorem unasked_take (n : Node) : n.take.1.unasked = n.unasked := by
  induction n using induction_children with
  | step n ih =>
      rcases n.take_cases with ⟨_, _, taken⟩ | ⟨_, _, taken⟩ | ⟨later, _, _, _, asked, taken⟩
      · rw [taken]
      · rw [taken]
      · rw [taken, unasked_withMemo]
        rcases asked with rfl | rfl
        · rfl
        · exact unasked_withChildren
            (forall₂_takeAll (R := fun child other => other.unasked = child.unasked)
              (fun _ => rfl) ih)

/-! ## Places and lookups -/

theorem children_unasked (n : Node) : n.unasked.children = n.children.map unasked := by
  cases n with
  | leaf query locator holder lookup memo => rfl
  | branch query locators op children memo => rw [unasked_branch]; rfl

theorem at?_unasked (path : List Nat) (n : Node) :
    n.unasked.at? path = (n.at? path).map unasked := by
  induction path generalizing n with
  | nil => rfl
  | cons i rest ih =>
      show (n.unasked.children[i]?).bind (at? rest) = ((n.children[i]?).bind (at? rest)).map unasked
      rw [children_unasked, List.getElem?_map]
      cases n.children[i]? with
      | none => rfl
      | some child => exact ih child

/-- A change of a node that changes nothing but memories changes nothing else in the search. -/
theorem unasked_modify {f : Node → Node} (path : List Nat) (n : Node)
    (same : ∀ m, n.at? path = some m → (f m).unasked = m.unasked) :
    (n.modify f path).unasked = n.unasked :=
  modify_of_children (R := fun n later => later.unasked = n.unasked) (fun _ => rfl)
    (fun each => by rw [unasked_branch, unasked_branch, map_eq_of_forall₂ each]) path n same

theorem unasked_onOpen (serial : Nat) (term : Option String)
    (f : Lookup (List Entry) → Lookup (List Entry)) (n : Node) :
    (n.onOpen serial term f).unasked = n.unasked.onOpen serial term f := by
  induction n with
  | leaf query locator holder lookup memo => rfl
  | branch query locators op children memo ih =>
      rw [unasked_branch, onOpen, onOpen, unasked_branch, onOpenAll_eq_map, onOpenAll_eq_map,
        List.map_map, List.map_map]
      congr 1
      exact List.map_congr_left ih

/-- Whatever holders do to their lookups keeps a search orderly. -/
theorem onOpen_keeps {f : Lookup (List Entry) → Lookup (List Entry)} (handles : Lookup.Handles f)
    (serial : Nat) (term : Option String) (n : Node) : n.Keeps (n.onOpen serial term f) := by
  -- Along the way down the continuation of a branch is needed beside what its children keep.
  have both : n.Continues (n.onOpen serial term f) ∧ n.Keeps (n.onOpen serial term f) := by
    induction n with
    | leaf query locator holder lookup memo =>
        rw [onOpen]
        split
        · exact ⟨onLookup_continues handles _, onLookup_keeps handles _⟩
        · exact ⟨.refl _, .refl _⟩
    | branch query locators op children memo ih =>
        rw [onOpen, onOpenAll_eq_map]
        have each : List.Forall₂ (fun child later => child.Continues later ∧ child.Keeps later)
            children (children.map (Node.onOpen serial term f)) :=
          List.forall₂_map_right_iff.2 (List.forall₂_same.2 ih)
        have continues : (Node.branch query locators op children memo).Continues
            (.branch query locators op (children.map (Node.onOpen serial term f)) memo) :=
          children_continues (each.imp fun _ _ both => both.1)
        exact ⟨continues, keeps_of_children continues rfl (each.imp fun _ _ both => both.2)⟩
  exact both.2

end Node

end Search

namespace Service

/-! ## Searches in order -/

/-- The registry is in order, and so is every search that was ever opened. -/
structure Tidy (s : Service) : Prop where
  orderly : s.Orderly
  searches : ∀ search root, s.node? (.root search) = some root → root.Orderly

theorem Tidy.at? {s : Service} (tidy : s.Tidy) {ref : NodeRef} {n : Node}
    (placed : s.node? ref = some n) : n.Orderly := by
  obtain ⟨root, found, below⟩ := Option.bind_eq_some_iff.1 placed
  exact (tidy.searches ref.search root ((node?_root ..).trans found)).at? below

section Searches

variable {s later : Service}

theorem searches_of_kept (tidy : s.Tidy)
    (kept : ∀ search root, later.node? (.root search) = some root →
      ∃ old, s.node? (.root search) = some old ∧ old.Keeps root) :
    ∀ search root, later.node? (.root search) = some root → root.Orderly := by
  intro search root found
  obtain ⟨old, before, keeps⟩ := kept search root found
  exact (keeps (tidy.searches search old before)).1

theorem searches_of_same (tidy : s.Tidy) (same : later.searches = s.searches) :
    ∀ search root, later.node? (.root search) = some root → root.Orderly := by
  refine searches_of_kept tidy fun search root found => ⟨root, ?_, .refl root⟩
  rw [node?_root, same] at found
  rw [node?_root, found]

theorem searches_of_push (tidy : s.Tidy) {new : Node} (orderly : new.Orderly)
    (pushed : later.searches = s.searches.push new) :
    ∀ search root, later.node? (.root search) = some root → root.Orderly := by
  intro search root found
  rw [node?_root, pushed, Array.getElem?_push] at found
  split at found
  · cases found
    exact orderly
  · exact tidy.searches search root ((node?_root ..).trans found)

theorem searches_of_modify (tidy : s.Tidy) {ref : NodeRef} {f : Node → Node}
    (step : ∀ n, s.node? ref = some n → n.Continues (f n) ∧ n.Keeps (f n))
    (changed : ∀ search, later.node? (.root search) = if ref.search = search then
      (s.node? (.root search)).map (Node.modify f ref.path) else s.node? (.root search)) :
    ∀ search root, later.node? (.root search) = some root → root.Orderly := by
  refine searches_of_kept tidy fun search root found => ?_
  rw [changed] at found
  split at found
  · rename_i here
    subst here
    obtain ⟨old, before, rfl⟩ := Option.map_eq_some_iff.1 found
    refine ⟨old, before, Node.modify_keeps ref.path old fun m placed => step m ?_⟩
    rw [node?_root] at before
    rw [Service.node?, before]
    exact placed
  · exact ⟨root, found, .refl root⟩

theorem searches_of_onOpen (tidy : s.Tidy) {f : Lookup (List Entry) → Lookup (List Entry)}
    (handles : Lookup.Handles f) (serial : Nat) (term : Option String) :
    ∀ search root, (s.onOpen serial term f).1.node? (.root search) = some root →
      root.Orderly := by
  refine searches_of_kept tidy fun search root found => ?_
  rw [node?_onOpen] at found
  obtain ⟨old, before, rfl⟩ := Option.map_eq_some_iff.1 found
  exact ⟨old, before, Node.onOpen_keeps handles serial term old⟩

end Searches

/-- The search for one word is orderly, whatever the word is. -/
theorem orderly_grow_term (catalog : Catalog) (locator : String) (backend : Backend)
    (word : String) : (grow catalog locator backend (.term word)).Orderly where
  honest := .of_fresh rfl nofun
  sound := .term word
  coherent := .intro (Node.coherent_of_fresh rfl) nofun

/-- Opening a search opens an orderly one, if any. -/
theorem searches_of_parse {s : Service} (tidy : s.Tidy) (query locators : String) :
    ∀ search root, (s.parse query locators).1.node? (.root search) = some root →
      root.Orderly := by
  unfold Service.parse Service.openSearch
  dsimp only
  split
  · exact searches_of_same tidy rfl
  · rename_i root opened
    exact searches_of_push tidy (orderly_of_opened opened) rfl

/-- **No action disturbs a service.** -/
theorem Tidy.act {s : Service} (tidy : s.Tidy) (action : Action) : (s.act action).Tidy := by
  refine ⟨tidy.orderly.act action, ?_⟩
  cases action with
  | register | create | addDocument | removeDocument | clear => exact searches_of_same tidy rfl
  | resolve locator => exact searches_of_same tidy (s.resolve_searches locator)
  | start query locators =>
      have parsed := searches_of_parse tidy query locators
      rw [Service.act]
      rcases s.startSearch_fst_cases query locators with same | ⟨registry, same⟩
      · rw [same]
        exact tidy.searches
      · rw [same]
        generalize (s.parse query locators).1 = later at parsed ⊢
        exact parsed
  | parse query locators => exact searches_of_parse tidy query locators
  | askTerm locator term =>
      rw [Service.act]
      rcases s.askTerm_fst_cases locator term with same | ⟨backend, asked, same⟩
      · rw [same]
        exact searches_of_same tidy (s.resolve_searches locator)
      · rw [same]
        refine searches_of_push tidy
          (orderly_grow_term (s.resolve locator).1.catalog locator backend term) ?_
        show (s.resolve locator).1.searches.push _ = _
        rw [resolve_searches]
  | askDocument locator uri =>
      rw [Service.act, askDocument_fst]
      exact searches_of_same tidy (s.resolve_searches locator)
  | status ref =>
      exact searches_of_modify tidy (fun n _ => ⟨n.refresh_continues, n.refresh_keeps⟩)
        (node?_modify s ref Node.refresh)
  | result ref =>
      rw [Service.act]
      rcases placed : s.node? ref with _ | n
      · rw [Service.result, placed]
        exact tidy.searches
      · refine searches_of_modify tidy (fun m there => ?_) (node?_result placed)
        rw [placed] at there
        cases there
        exact ⟨⟨n.take_proceeds, Node.take_honest⟩, n.take_keeps⟩
  | remove ref =>
      refine searches_of_kept tidy fun search root found => ⟨root, ?_, .refl root⟩
      exact (node?_remove s ref _).symm.trans found
  | complete serial term entries =>
      exact searches_of_onOpen tidy (Lookup.complete_handles entries) serial (some term)
  | abort serial term reason =>
      exact searches_of_onOpen tidy (Lookup.abort_handles reason) serial (some term)
  | drop serial term =>
      exact searches_of_onOpen tidy (Lookup.abort_handles Lookup.droppedReason) serial (some term)
  | report serial term parts =>
      exact searches_of_onOpen tidy (Lookup.report_handles parts) serial (some term)
  | abandon serial =>
      exact searches_of_onOpen tidy (Lookup.abort_handles Lookup.droppedReason) serial none

theorem Tidy.run {s : Service} (tidy : s.Tidy) (actions : List Action) :
    (s.run actions).Tidy := by
  induction actions generalizing s with
  | nil => exact tidy
  | cons action rest ih => exact ih (tidy.act action)

theorem start_tidy (link : Link) : (start link).Tidy :=
  ⟨run_orderly link [], fun _ _ found => by rw [node?_root] at found; cases found⟩

/-! ## Services that were asked differently -/

/-- Two services are the same but for what their searches remember. -/
structure Alike (s other : Service) : Prop where
  catalog : other.catalog = s.catalog
  searches : other.searches.map Node.unasked = s.searches.map Node.unasked
  registry : other.registry = s.registry
  asked : other.asked = s.asked
  holders : other.holders = s.holders

namespace Alike

variable {s other last : Service}

theorem refl (s : Service) : s.Alike s := ⟨rfl, rfl, rfl, rfl, rfl⟩

theorem symm (alike : s.Alike other) : other.Alike s :=
  ⟨alike.catalog.symm, alike.searches.symm, alike.registry.symm, alike.asked.symm,
    alike.holders.symm⟩

theorem trans (first : s.Alike other) (second : other.Alike last) : s.Alike last :=
  ⟨second.catalog.trans first.catalog, second.searches.trans first.searches,
    second.registry.trans first.registry, second.asked.trans first.asked,
    second.holders.trans first.holders⟩

theorem size (alike : s.Alike other) : other.searches.size = s.searches.size := by
  simpa using congrArg Array.size alike.searches

/-- At every place stands the same node, but for what it remembers. -/
theorem node? (alike : s.Alike other) (ref : NodeRef) :
    (other.node? ref).map Node.unasked = (s.node? ref).map Node.unasked := by
  have same := congrArg (fun searches => searches[ref.search]?) alike.searches
  simp only [Array.getElem?_map] at same
  unfold Service.node?
  cases before : s.searches[ref.search]? with
  | none =>
      rw [before, Option.map_none, Option.map_eq_none_iff] at same
      rw [same]
  | some root =>
      rw [before, Option.map_some] at same
      obtain ⟨next, after, alikeRoots⟩ := Option.map_eq_some_iff.1 same
      rw [after]
      show (next.at? ref.path).map _ = (root.at? ref.path).map _
      rw [← Node.at?_unasked, alikeRoots, Node.at?_unasked]

theorem node?_cases (alike : s.Alike other) (ref : NodeRef) :
    (s.node? ref = none ∧ other.node? ref = none) ∨
      ∃ n m, s.node? ref = some n ∧ other.node? ref = some m ∧ m.unasked = n.unasked := by
  have same := alike.node? ref
  rcases placed : s.node? ref with _ | n
  · rw [placed] at same
    exact Or.inl ⟨rfl, Option.map_eq_none_iff.1 same⟩
  · rw [placed] at same
    obtain ⟨m, otherPlaced, sameNode⟩ := Option.map_eq_some_iff.1 same
    exact Or.inr ⟨n, m, rfl, otherPlaced, sameNode⟩

/-- What does not look at memories is told alike at every place. -/
theorem map_node? {α : Type u} (alike : s.Alike other) {g : Node → α}
    (blind : ∀ n : Node, g n.unasked = g n) (ref : NodeRef) :
    (other.node? ref).map g = (s.node? ref).map g := by
  rcases alike.node?_cases ref with ⟨absent, gone⟩ | ⟨n, m, placed, otherPlaced, same⟩
  · rw [absent, gone]
  · rw [placed, otherPlaced, Option.map_some, Option.map_some, ← blind m, same, blind n]

end Alike

/-! ## Asking -/

/-- A change of a node that changes nothing but memories changes nothing else in the service. -/
theorem modify_alike (s : Service) (ref : NodeRef) {f : Node → Node}
    (same : ∀ n, s.node? ref = some n → (f n).unasked = n.unasked) : s.Alike (s.modify ref f) := by
  refine ⟨rfl, Array.ext_getElem? fun search => ?_, rfl, rfl, rfl⟩
  rw [Array.getElem?_map, Array.getElem?_map, ← node?_root, ← node?_root, node?_modify]
  split
  · rename_i here
    subst here
    rcases found : s.node? (.root ref.search) with _ | root
    · rfl
    · refine congrArg some (Node.unasked_modify ref.path root fun m placed => same m ?_)
      rw [node?_root] at found
      rw [Service.node?, found]
      exact placed
  · rfl

theorem status_alike (s : Service) (ref : NodeRef) : s.Alike (s.status ref).1 :=
  modify_alike s ref fun n _ => n.unasked_refresh

theorem result_of_absent {s : Service} {ref : NodeRef} (absent : s.node? ref = none) :
    s.result ref = (s, .ok none) := by
  rw [Service.result, absent]

/-- Asking for a result changes memories and the registry, and nothing else. -/
theorem result_alike (s : Service) (ref : NodeRef) :
    ({ s with registry := (s.result ref).1.registry } : Service).Alike (s.result ref).1 := by
  rcases placed : s.node? ref with _ | n
  · rw [result_of_absent placed]
    exact .refl s
  · have same : (s.result ref).1 =
        ({ s with registry := (s.result ref).1.registry } : Service).modify ref
          fun _ => n.take.1 := by
      unfold Service.result Service.remove
      rw [placed]
      dsimp only
      split <;> rfl
    rw [same]
    refine modify_alike _ ref fun m found => ?_
    have there : s.node? ref = some m := found
    rw [placed] at there
    cases there
    exact n.unasked_take

/-- A result that is asked for too early leaves the registry alone. -/
theorem result_registry_of_waiting {s : Service} {ref : NodeRef} {n : Node}
    (placed : s.node? ref = some n) (waits : n.isDone = .ok false) :
    (s.result ref).1.registry = s.registry := by
  have postponed : n.isCollectable = false := by rw [Node.isCollectable, waits, Bool.and_false]
  rw [result_registry, placed, Option.any_some, postponed]
  rfl

/-- Any other takes the node out of the registry: if it was taken before, it was not live. -/
theorem Orderly.result_registry_of_settled {s : Service} (orderly : s.Orderly) {ref : NodeRef}
    {n : Node} (placed : s.node? ref = some n) (settled : n.isDone ≠ .ok false) :
    (s.result ref).1.registry = s.registry.remove n.subject n.hash ref := by
  rw [result_registry, placed, Option.any_some]
  split
  · rw [Service.remove, placed]
  · rename_i kept
    rcases outcome : n.memo.outcome with _ | known
    · refine absurd ?_ kept
      rw [Node.isCollectable, outcome]
      rcases done : n.isDone with e | (_ | _)
      · rfl
      · exact absurd done settled
      · rfl
    · rw [Registry.remove, if_neg]
      intro live
      obtain ⟨search, found, rfl⟩ := Option.map_eq_some_iff.1 live
      rw [orderly.untaken n.subject search n found placed] at outcome
      cases outcome

/-! ## Actions -/

namespace Alike

variable {s other : Service}

theorem openSearch (alike : s.Alike other) (query : String) (locators : List String) :
    (s.openSearch query locators).1.Alike (other.openSearch query locators).1 ∧
      (other.openSearch query locators).2 = (s.openSearch query locators).2 := by
  unfold Service.openSearch
  dsimp only
  rw [alike.catalog, alike.asked]
  split
  · exact ⟨⟨rfl, alike.searches, alike.registry, rfl, alike.holders⟩, rfl⟩
  · refine ⟨⟨rfl, ?_, alike.registry, rfl, alike.holders⟩, ?_⟩
    · rw [Array.map_push, Array.map_push, alike.searches]
    · dsimp only
      rw [alike.size]

theorem startSearch (alike : s.Alike other) (query locators : String) :
    (s.startSearch query locators).1.Alike (other.startSearch query locators).1 ∧
      (other.startSearch query locators).2 = (s.startSearch query locators).2 := by
  have parsed := alike.openSearch (normalize query) (splitLocators locators)
  unfold Service.startSearch Service.parse
  dsimp only
  rw [alike.registry]
  generalize s.openSearch (normalize query) (splitLocators locators) = own at parsed ⊢
  generalize other.openSearch (normalize query) (splitLocators locators) = others at parsed ⊢
  obtain ⟨later, answer⟩ := own
  obtain ⟨next, same⟩ := others
  obtain ⟨alikeLater, rfl⟩ : later.Alike next ∧ same = answer := parsed
  split
  · exact ⟨alike, rfl⟩
  · rcases same with e | search
    · exact ⟨alikeLater, rfl⟩
    · refine ⟨⟨alikeLater.catalog, alikeLater.searches, ?_, alikeLater.asked, alikeLater.holders⟩,
        rfl⟩
      show next.registry.file _ (((next.node? (.root search)).map Node.hash).getD 0) search =
        later.registry.file _ (((later.node? (.root search)).map Node.hash).getD 0) search
      rw [alikeLater.map_node? Node.hash_unasked, alikeLater.registry]

theorem resolve (alike : s.Alike other) (locator : String) :
    (s.resolve locator).1.Alike (other.resolve locator).1 ∧
      (other.resolve locator).2 = (s.resolve locator).2 := by
  unfold Service.resolve
  rw [alike.catalog]
  split
  · exact ⟨⟨rfl, alike.searches, alike.registry, alike.asked, alike.holders⟩, rfl⟩
  · exact ⟨alike, rfl⟩

theorem askTerm (alike : s.Alike other) (locator term : String) :
    (s.askTerm locator term).1.Alike (other.askTerm locator term).1 := by
  have resolved := alike.resolve locator
  unfold Service.askTerm
  generalize s.resolve locator = own at resolved ⊢
  generalize other.resolve locator = others at resolved ⊢
  obtain ⟨later, answer⟩ := own
  obtain ⟨next, same⟩ := others
  obtain ⟨alikeLater, rfl⟩ : later.Alike next ∧ same = answer := resolved
  rcases same with e | backend
  · exact alikeLater
  · refine ⟨alikeLater.catalog, ?_, alikeLater.registry, ?_, alikeLater.holders⟩
    · dsimp only
      rw [Array.map_push, Array.map_push, alikeLater.searches, alikeLater.catalog]
    · dsimp only
      rw [alikeLater.asked]

theorem onOpen (alike : s.Alike other) (serial : Nat) (term : Option String)
    (f : Lookup (List Entry) → Lookup (List Entry)) :
    (s.onOpen serial term f).1.Alike (other.onOpen serial term f).1 := by
  refine ⟨alike.catalog, ?_, alike.registry, alike.asked, alike.holders⟩
  have commutes : Node.unasked ∘ Node.onOpen serial term f =
      Node.onOpen serial term f ∘ Node.unasked := funext (Node.unasked_onOpen serial term f)
  show (other.searches.map _).map _ = (s.searches.map _).map _
  rw [Array.map_map, Array.map_map, commutes, ← Array.map_map, ← Array.map_map, alike.searches]

theorem remove (alike : s.Alike other) (ref : NodeRef) : (s.remove ref).Alike (other.remove ref) := by
  unfold Service.remove
  rcases alike.node?_cases ref with ⟨absent, gone⟩ | ⟨n, m, placed, otherPlaced, same⟩
  · rw [absent, gone]
    exact alike
  · rw [placed, otherPlaced]
    refine ⟨alike.catalog, alike.searches, ?_, alike.asked, alike.holders⟩
    show other.registry.remove m.subject m.hash ref = s.registry.remove n.subject n.hash ref
    rw [alike.registry, ← m.subject_unasked, ← m.hash_unasked, same, n.subject_unasked,
      n.hash_unasked]

theorem status (alike : s.Alike other) (ref : NodeRef) :
    (s.status ref).1.Alike (other.status ref).1 :=
  (s.status_alike ref).symm.trans (alike.trans (other.status_alike ref))

/-- What is live was not taken, so a result takes the same out of both registries. -/
theorem result_registry (alike : s.Alike other) (orderly : s.Orderly)
    (otherOrderly : other.Orderly) (ref : NodeRef) :
    (other.result ref).1.registry = (s.result ref).1.registry := by
  rcases alike.node?_cases ref with ⟨absent, gone⟩ | ⟨n, m, placed, otherPlaced, same⟩
  · rw [result_of_absent absent, result_of_absent gone]
    exact alike.registry
  · have done : m.isDone = n.isDone := by rw [← m.isDone_unasked, same, n.isDone_unasked]
    by_cases waits : n.isDone = .ok false
    · rw [result_registry_of_waiting placed waits,
        result_registry_of_waiting otherPlaced (done.trans waits), alike.registry]
    · rw [orderly.result_registry_of_settled placed waits,
        otherOrderly.result_registry_of_settled otherPlaced (by rwa [done]), alike.registry,
        ← m.subject_unasked, ← m.hash_unasked, same, n.subject_unasked, n.hash_unasked]

theorem result (alike : s.Alike other) (orderly : s.Orderly) (otherOrderly : other.Orderly)
    (ref : NodeRef) : (s.result ref).1.Alike (other.result ref).1 := by
  refine (s.result_alike ref).symm.trans (Alike.trans ?_ (other.result_alike ref))
  exact ⟨alike.catalog, alike.searches, alike.result_registry orderly otherOrderly ref,
    alike.asked, alike.holders⟩

/-- **Services that are alike stay alike**, whatever is done to both. -/
theorem act (alike : s.Alike other) (orderly : s.Orderly) (otherOrderly : other.Orderly)
    (action : Action) : (s.act action).Alike (other.act action) := by
  cases action with
  | register locator describe =>
      refine ⟨?_, alike.searches, alike.registry, alike.asked, congrArg (· + 1) alike.holders⟩
      show other.catalog.register _ (.external other.holders _) =
        s.catalog.register _ (.external s.holders _)
      rw [alike.catalog, alike.holders]
  | create name =>
      exact ⟨congrArg (fun c => c.localOrCreate name) alike.catalog, alike.searches,
        alike.registry, alike.asked, alike.holders⟩
  | addDocument name uri title text =>
      exact ⟨congrArg (fun c => (c.addDocument name uri title text).1) alike.catalog,
        alike.searches, alike.registry, alike.asked, alike.holders⟩
  | removeDocument name uri =>
      exact ⟨congrArg (fun c => ((c.removeDocument name uri).map Prod.fst).getD c) alike.catalog,
        alike.searches, alike.registry, alike.asked, alike.holders⟩
  | resolve locator => exact (alike.resolve locator).1
  | start query locators => exact (alike.startSearch query locators).1
  | parse query locators => exact (alike.openSearch _ _).1
  | askTerm locator term => exact alike.askTerm locator term
  | askDocument locator uri =>
      rw [Service.act, Service.act, askDocument_fst, askDocument_fst]
      exact (alike.resolve locator).1
  | status ref => exact alike.status ref
  | result ref => exact alike.result orderly otherOrderly ref
  | remove ref => exact alike.remove ref
  | clear => exact ⟨alike.catalog, alike.searches, rfl, alike.asked, alike.holders⟩
  | complete | abort | drop | report | abandon => exact alike.onOpen _ _ _

theorem run (alike : s.Alike other) (orderly : s.Orderly) (otherOrderly : other.Orderly)
    (actions : List Action) : (s.run actions).Alike (other.run actions) := by
  induction actions generalizing s other with
  | nil => exact alike
  | cons action rest ih =>
      exact ih (alike.act orderly otherOrderly action) (orderly.act action)
        (otherOrderly.act action)

/-- **What is answered does not depend on who asked before.** -/
theorem result_answer (alike : s.Alike other) (tidy : s.Tidy) (otherTidy : other.Tidy)
    (ref : NodeRef) : (other.result ref).2 = (s.result ref).2 := by
  rcases alike.node?_cases ref with ⟨absent, gone⟩ | ⟨n, m, placed, otherPlaced, same⟩
  · rw [result_of_absent absent, result_of_absent gone]
  · have own := tidy.at? placed
    have othersOwn := otherTidy.at? otherPlaced
    rw [Service.result_answer placed, Service.result_answer otherPlaced,
      own.honest.take_answer own.sound, othersOwn.honest.take_answer othersOwn.sound,
      Node.verdict_of_unasked same]

end Alike

end Service

end Concordance
