/-
# Concordance.Proofs.Runs -- a service over time

An `Action` is anything that a caller or a holder of lookups can do to a service, and
a run is any list of them.  Whatever is done, a service only ever extends
(`run_extends`): every search that it opened stays where it is and becomes a later
state of itself, every locator that named an index goes on naming one, and what is
new is faithful.

So all that holds of a service from its start, and is kept by every extension,
holds in every run; `run_faithful` is the first of these.
-/
import Concordance.Proofs.Planting
import Concordance.Service

namespace Concordance

open Concordance.Data Concordance.Index Concordance.Query Concordance.Search

set_option autoImplicit false

/-! ## Catalogs -/

namespace Index.Catalog

/-- Every locator that names an index goes on naming one. -/
def Grows (c later : Catalog) : Prop :=
  ∀ locator, (∃ backend, c.backends.find? locator = some backend) →
    ∃ backend, later.backends.find? locator = some backend

theorem Grows.refl (c : Catalog) : c.Grows c := fun _ => id

theorem Grows.trans {c later last : Catalog} (first : c.Grows later) (second : later.Grows last) :
    c.Grows last := fun locator listed => second locator (first locator listed)

/-- Filing a backend hides none. -/
theorem grows_insert {c later : Catalog} {locator : String} {backend : Backend}
    (filed : later.backends = c.backends.insert locator backend) : c.Grows later := by
  rintro other ⟨known, found⟩
  rw [filed, SortedMap.find?_insert]
  split
  · exact ⟨backend, rfl⟩
  · exact ⟨known, found⟩

theorem register_grows (c : Catalog) (locator : String) (backend : Backend) :
    c.Grows (c.register locator backend) := grows_insert rfl

theorem localOrCreate_grows (c : Catalog) (name : String) : c.Grows (c.localOrCreate name) := by
  unfold localOrCreate
  split
  · exact .refl c
  · exact grows_insert rfl

theorem putLocal_grows (c : Catalog) (name : String) (index : Memory) :
    c.Grows (c.putLocal name index) := localOrCreate_grows c name

/-- Resolving a locator changes nothing that is listed. -/
theorem resolve_keeps {c later : Catalog} {locator other : String} {backend known : Backend}
    (resolved : c.resolve locator = .ok (later, backend))
    (listed : c.backends.find? other = some known) :
    later.backends.find? other = some known := by
  unfold resolve at resolved
  split at resolved
  · cases resolved
    exact listed
  · rename_i unlisted
    split at resolved
    · split at resolved
      · cases resolved
        refine (SortedMap.find?_insert ..).trans ?_
        rw [if_neg ?_]
        · exact listed
        · rintro rfl
          rw [unlisted] at listed
          cases listed
      · cases resolved
    · cases resolved

theorem resolve_grows {c later : Catalog} {locator : String} {backend : Backend}
    (resolved : c.resolve locator = .ok (later, backend)) : c.Grows later :=
  fun _ ⟨known, listed⟩ => ⟨known, resolve_keeps resolved listed⟩

/-- A locator that was resolved names an index. -/
theorem find?_of_resolve {c later : Catalog} {locator : String} {backend : Backend}
    (resolved : c.resolve locator = .ok (later, backend)) :
    later.backends.find? locator = some backend := by
  unfold resolve at resolved
  split at resolved
  · rename_i found
    cases resolved
    exact found
  · split at resolved
    · split at resolved
      · cases resolved
        exact (SortedMap.find?_insert ..).trans (if_pos rfl)
      · cases resolved
    · cases resolved

theorem resolveAll_keeps {c : Catalog} {other : String} {known : Backend} (locators : List String)
    (listed : c.backends.find? other = some known) :
    (c.resolveAll locators).1.backends.find? other = some known := by
  induction locators generalizing c with
  | nil => exact listed
  | cons locator rest ih =>
      rw [resolveAll]
      split
      · exact listed
      · rename_i later backend resolved
        exact ih (resolve_keeps resolved listed)

theorem resolveAll_grows (c : Catalog) (locators : List String) :
    c.Grows (c.resolveAll locators).1 :=
  fun _ ⟨known, listed⟩ => ⟨known, resolveAll_keeps locators listed⟩

/-- Locators that were resolved name the indexes that they were resolved to. -/
theorem find?_of_resolveAll {c later : Catalog} {locators : List String} {backends : List Backend}
    (resolved : c.resolveAll locators = (later, .ok backends)) :
    List.Forall₂ (fun locator backend => later.backends.find? locator = some backend)
      locators backends := by
  induction locators generalizing c backends with
  | nil =>
      cases resolved
      exact .nil
  | cons first rest ih =>
      rw [resolveAll] at resolved
      split at resolved
      · cases resolved
      · rename_i next backend one
        rcases more : next.resolveAll rest with ⟨last, (e | found)⟩
        · rw [more] at resolved
          cases resolved
        · rw [more] at resolved
          cases resolved
          have kept := resolveAll_keeps rest (find?_of_resolve one)
          rw [more] at kept
          exact .cons kept (ih more)

theorem resolve_of_find? {c : Catalog} {locator : String} {backend : Backend}
    (found : c.backends.find? locator = some backend) : c.resolve locator = .ok (c, backend) := by
  rw [resolve, found]

/-- Locators that name indexes are resolved as they are listed. -/
theorem resolveAll_of_find? {c : Catalog} {locators : List String}
    (listed : ∀ locator ∈ locators, ∃ backend, c.backends.find? locator = some backend) :
    ∃ backends, c.resolveAll locators = (c, .ok backends) := by
  induction locators with
  | nil => exact ⟨[], rfl⟩
  | cons locator rest ih =>
      obtain ⟨⟨backend, found⟩, others⟩ := List.forall_mem_cons.1 listed
      obtain ⟨backends, resolved⟩ := ih others
      refine ⟨backend :: backends, ?_⟩
      rw [resolveAll, resolve_of_find? found]
      show ((c.resolveAll rest).1, (c.resolveAll rest).2.map _) = _
      rw [resolved]
      rfl

end Index.Catalog

/-- Opening a search changes a catalog only by resolving the locators. -/
theorem openSearch_catalog_cases (catalog : Catalog) (query : String) (locators : List String) :
    (Search.openSearch catalog query locators).catalog = catalog ∨
      (Search.openSearch catalog query locators).catalog = (catalog.resolveAll locators).1 := by
  rcases Search.openSearch_cases catalog query locators with
    ⟨_, same⟩ | ⟨_, same⟩ | ⟨_, _, resolved, same⟩ | ⟨_, _, _, resolved, _, same⟩ |
    ⟨_, _, _, resolved, _, _, same⟩
  · exact Or.inl (congrArg Search.Opened.catalog same)
  · exact Or.inl (congrArg Search.Opened.catalog same)
  all_goals
    rw [same, resolved]
    exact Or.inr rfl

theorem openSearch_grows (catalog : Catalog) (query : String) (locators : List String) :
    catalog.Grows (Search.openSearch catalog query locators).catalog := by
  rcases openSearch_catalog_cases catalog query locators with same | resolved
  · rw [same]
    exact .refl catalog
  · rw [resolved]
    exact Catalog.resolveAll_grows catalog locators

namespace Service

/-! ## Extensions -/

/-- A later state of a service. -/
structure Extends (s later : Service) : Prop where
  /-- Every search becomes a later state of itself. -/
  searches : ∀ search root, s.node? (.root search) = some root →
    ∃ next, later.node? (.root search) = some next ∧ root.Becomes next
  /-- Every search that was opened since is faithful. -/
  opened : ∀ search root, s.node? (.root search) = none →
    later.node? (.root search) = some root → root.Faithful
  /-- Every locator that names an index goes on naming one. -/
  grows : s.catalog.Grows later.catalog

theorem node?_root (s : Service) (search : Nat) :
    s.node? (.root search) = s.searches[search]? := by
  show (s.searches[search]?).bind some = _
  cases s.searches[search]? <;> rfl

theorem Extends.trans {s later last : Service} (first : s.Extends later)
    (second : later.Extends last) : s.Extends last where
  searches search root found := by
    obtain ⟨next, foundNext, becomes⟩ := first.searches search root found
    obtain ⟨final, foundFinal, becomesFinal⟩ := second.searches search next foundNext
    exact ⟨final, foundFinal, becomes.trans becomesFinal⟩
  opened search root absent found := by
    cases between : later.node? (.root search) with
    | none => exact second.opened search root between found
    | some next =>
        obtain ⟨final, foundFinal, becomes⟩ := second.searches search next between
        rw [found] at foundFinal
        cases foundFinal
        exact becomes.faithful (first.opened search next absent between)
  grows := first.grows.trans second.grows

/-- Changes that leave the searches alone. -/
theorem extends_of_searches {s later : Service} (same : later.searches = s.searches)
    (grows : s.catalog.Grows later.catalog) : s.Extends later := by
  have unchanged (search : Nat) : later.node? (.root search) = s.node? (.root search) := by
    rw [node?_root, node?_root, same]
  refine ⟨fun search root found => ⟨root, (unchanged search).trans found, .refl root⟩, ?_, grows⟩
  intro search root absent found
  rw [unchanged, absent] at found
  cases found

theorem Extends.refl (s : Service) : s.Extends s := extends_of_searches rfl (.refl _)

/-- A new search stands behind the others, which stay in place. -/
theorem node?_of_push {s later : Service} {root old : Node} {search : Nat}
    (pushed : later.searches = s.searches.push root)
    (found : s.node? (.root search) = some old) : later.node? (.root search) = some old := by
  rw [node?_root] at found
  have small := (Array.getElem?_eq_some_iff.1 found).1
  rw [node?_root, pushed, Array.getElem?_push, if_neg (Nat.ne_of_lt small), found]

theorem extends_push {s later : Service} {root : Node} (pushed : later.searches = s.searches.push root)
    (faithful : root.Faithful) (grows : s.catalog.Grows later.catalog) : s.Extends later := by
  refine ⟨fun search old found => ⟨old, node?_of_push pushed found, .refl old⟩, ?_, grows⟩
  intro search new absent found
  rw [node?_root] at absent found
  rw [pushed, Array.getElem?_push] at found
  split at found
  · cases found
    exact faithful
  · rw [absent] at found
    cases found

theorem node?_modify (s : Service) (ref : NodeRef) (f : Node → Node) (search : Nat) :
    (s.modify ref f).node? (.root search) =
      if ref.search = search then (s.node? (.root search)).map (Node.modify f ref.path)
      else s.node? (.root search) := by
  rw [node?_root, node?_root]
  exact Array.getElem?_modify

/-- A node may become another in its place. -/
theorem modify_extends (s : Service) (ref : NodeRef) (f : Node → Node)
    (step : ∀ n, s.node? ref = some n → n.Becomes (f n)) : s.Extends (s.modify ref f) := by
  refine ⟨?_, ?_, .refl _⟩
  · intro search root found
    rw [node?_modify, found]
    split
    · rename_i here
      subst here
      refine ⟨_, rfl, Node.modify_becomes ref.path root fun n placed => step n ?_⟩
      rw [node?_root] at found
      rw [node?, found]
      exact placed
    · exact ⟨root, rfl, .refl root⟩
  · intro search root absent found
    rw [node?_modify, absent] at found
    split at found <;> cases found

theorem node?_onOpen (s : Service) (serial : Nat) (term : Option String)
    (f : Lookup (List Entry) → Lookup (List Entry)) (search : Nat) :
    (s.onOpen serial term f).1.node? (.root search) =
      (s.node? (.root search)).map (Node.onOpen serial term f) := by
  rw [node?_root, node?_root]
  exact Array.getElem?_map

/-- Lookups may be resolved everywhere. -/
theorem onOpen_extends (s : Service) (serial : Nat) (term : Option String)
    (f : Lookup (List Entry) → Lookup (List Entry)) : s.Extends (s.onOpen serial term f).1 := by
  refine ⟨?_, ?_, .refl _⟩
  · intro search root found
    rw [node?_onOpen, found]
    exact ⟨_, rfl, Node.onOpen_becomes serial term f root⟩
  · intro search root absent found
    rw [node?_onOpen, absent] at found
    cases found

/-! ## Starting a search -/

/-- A search that can be opened is opened behind the others. -/
theorem openSearch_of_opened {s : Service} {query : String} {locators : List String} {root : Node}
    (opened : (Search.openSearch s.catalog query locators).search = .ok root) :
    ∃ later, s.openSearch query locators = (later, .ok s.searches.size) ∧
      later.node? (.root s.searches.size) = some root ∧
      later.catalog = (Search.openSearch s.catalog query locators).catalog ∧
      later.registry = s.registry := by
  unfold Service.openSearch
  dsimp only
  rw [opened]
  refine ⟨_, rfl, ?_, rfl, rfl⟩
  rw [node?_root]
  exact Array.getElem?_push_size

/-- A search that is not live and can be opened is opened and made live. -/
theorem startSearch_of_opened {s : Service} {query locators : String} {root : Node}
    (fresh : s.find? query locators = none)
    (opened : (Search.openSearch s.catalog (normalize query) (splitLocators locators)).search =
      .ok root) :
    ∃ later, s.startSearch query locators = (later, .ok s.searches.size) ∧
      later.node? (.root s.searches.size) = some root ∧
      later.catalog =
        (Search.openSearch s.catalog (normalize query) (splitLocators locators)).catalog ∧
      ∀ subject, later.registry.find? subject =
        if subject = canonicalSubject query locators then some s.searches.size
        else s.registry.find? subject := by
  obtain ⟨later, opens, found, catalog, registry⟩ := openSearch_of_opened opened
  have unknown : s.registry.find? (canonicalSubject query locators) = none := fresh
  unfold Service.startSearch Service.parse
  dsimp only
  rw [unknown, opens]
  refine ⟨_, rfl, found, catalog, fun subject => ?_⟩
  rw [← registry]
  exact Registry.find?_file ..

/-! ## Actions -/

/-- What may be done to a service. -/
inductive Action
  | register (locator : String) (describe : String → Except String (Option Description))
  | create (name : String)
  | addDocument (name uri : String) (title : Option String) (text : String)
  | removeDocument (name uri : String)
  | resolve (locator : String)
  | start (query locators : String)
  | parse (query locators : String)
  | askTerm (locator term : String)
  | askDocument (locator uri : String)
  | status (ref : NodeRef)
  | result (ref : NodeRef)
  | remove (ref : NodeRef)
  | clear
  | complete (serial : Nat) (term : String) (entries : List Entry)
  | abort (serial : Nat) (term reason : String)
  | drop (serial : Nat) (term : String)
  | report (serial : Nat) (term : String) (parts : Parts)
  | abandon (serial : Nat)

/-- The service after an action. -/
def act (s : Service) : Action → Service
  | .register locator describe => (s.register locator describe).1
  | .create name => { s with catalog := s.catalog.localOrCreate name }
  | .addDocument name uri title text =>
      { s with catalog := (s.catalog.addDocument name uri title text).1 }
  | .removeDocument name uri =>
      { s with catalog := ((s.catalog.removeDocument name uri).map Prod.fst).getD s.catalog }
  | .resolve locator => (s.resolve locator).1
  | .start query locators => (s.startSearch query locators).1
  | .parse query locators => (s.parse query locators).1
  | .askTerm locator term => (s.askTerm locator term).1
  | .askDocument locator uri => (s.askDocument locator uri).1
  | .status ref => (s.status ref).1
  | .result ref => (s.result ref).1
  | .remove ref => s.remove ref
  | .clear => s.clear
  | .complete serial term entries => (s.complete serial term entries).1
  | .abort serial term reason => (s.abort serial term reason).1
  | .drop serial term => (s.drop serial term).1
  | .report serial term parts => (s.report serial term parts).1
  | .abandon serial => s.abandon serial

/-- The service after some actions. -/
def run (s : Service) (actions : List Action) : Service := actions.foldl act s

/-! ## What an action keeps -/

theorem resolve_registry (s : Service) (locator : String) :
    (s.resolve locator).1.registry = s.registry := by
  unfold Service.resolve
  split <;> rfl

theorem openSearch_catalog (s : Service) (query : String) (locators : List String) :
    (s.openSearch query locators).1.catalog =
      (Search.openSearch s.catalog query locators).catalog := by
  unfold Service.openSearch
  dsimp only
  split <;> rfl

theorem openSearch_registry (s : Service) (query : String) (locators : List String) :
    (s.openSearch query locators).1.registry = s.registry := by
  unfold Service.openSearch
  dsimp only
  split <;> rfl

/-- Starting a search is parsing it, but for what is live. -/
theorem startSearch_fst_cases (s : Service) (query locators : String) :
    (s.startSearch query locators).1 = s ∨
      ∃ registry, (s.startSearch query locators).1 = { (s.parse query locators).1 with registry } := by
  unfold Service.startSearch
  dsimp only
  split
  · exact Or.inl rfl
  · rcases s.parse query locators with ⟨later, (e | search)⟩
    · exact Or.inr ⟨later.registry, rfl⟩
    · exact Or.inr ⟨_, rfl⟩

/-- Asking for a word resolves its index, and opens a search for the word at most. -/
theorem askTerm_fst_cases (s : Service) (locator term : String) :
    (s.askTerm locator term).1 = (s.resolve locator).1 ∨
      ∃ backend asked, (s.askTerm locator term).1 =
        { (s.resolve locator).1 with
          searches := (s.resolve locator).1.searches.push
            (grow (s.resolve locator).1.catalog locator backend (.term term))
          asked } := by
  unfold Service.askTerm
  rcases s.resolve locator with ⟨later, (e | backend)⟩
  · exact Or.inl rfl
  · exact Or.inr ⟨backend, _, rfl⟩

theorem askTerm_catalog (s : Service) (locator term : String) :
    (s.askTerm locator term).1.catalog = (s.resolve locator).1.catalog := by
  rcases askTerm_fst_cases s locator term with same | ⟨backend, asked, same⟩ <;> rw [same]

theorem askTerm_registry (s : Service) (locator term : String) :
    (s.askTerm locator term).1.registry = s.registry := by
  rw [← resolve_registry s locator]
  rcases askTerm_fst_cases s locator term with same | ⟨backend, asked, same⟩ <;> rw [same]

/-- Asking for a document only resolves its index. -/
theorem askDocument_fst (s : Service) (locator uri : String) :
    (s.askDocument locator uri).1 = (s.resolve locator).1 := by
  unfold Service.askDocument
  rcases s.resolve locator with ⟨later, (e | backend)⟩ <;> rfl

theorem remove_catalog (s : Service) (ref : NodeRef) : (s.remove ref).catalog = s.catalog := by
  unfold Service.remove
  split <;> rfl

/-- Taking a node out of the registry leaves it in place. -/
theorem node?_remove (s : Service) (ref other : NodeRef) :
    (s.remove ref).node? other = s.node? other := by
  unfold Service.remove
  split <;> rfl

theorem result_catalog (s : Service) (ref : NodeRef) : (s.result ref).1.catalog = s.catalog := by
  unfold Service.result
  split
  · rfl
  · rename_i n _
    show (if n.isCollectable then s.remove ref else s).catalog = s.catalog
    split
    · exact remove_catalog s ref
    · rfl

/-! ## Actions extend -/

theorem resolve_extends (s : Service) (locator : String) : s.Extends (s.resolve locator).1 := by
  unfold Service.resolve
  split
  · rename_i catalog backend resolved
    exact extends_of_searches rfl (Catalog.resolve_grows resolved)
  · exact .refl s

theorem openSearch_extends (s : Service) (query : String) (locators : List String) :
    s.Extends (s.openSearch query locators).1 := by
  have grows := openSearch_grows s.catalog query locators
  unfold Service.openSearch
  dsimp only
  split
  · exact extends_of_searches rfl grows
  · rename_i root opened
    obtain ⟨p, later, backends, _, _, _, rfl⟩ := openSearch_eq_ok_iff.1 opened
    exact extends_push rfl (faithful_growSearch ..) grows

theorem parse_extends (s : Service) (query locators : String) :
    s.Extends (s.parse query locators).1 := by
  unfold Service.parse
  exact openSearch_extends s (normalize query) (splitLocators locators)

theorem startSearch_extends (s : Service) (query locators : String) :
    s.Extends (s.startSearch query locators).1 := by
  have parses := parse_extends s query locators
  rcases startSearch_fst_cases s query locators with same | ⟨registry, same⟩
  · rw [same]
    exact .refl s
  · rw [same]
    generalize (s.parse query locators).1 = later at parses ⊢
    exact parses.trans (extends_of_searches rfl (.refl later.catalog))

theorem askTerm_extends (s : Service) (locator term : String) :
    s.Extends (s.askTerm locator term).1 := by
  have resolves := resolve_extends s locator
  rcases askTerm_fst_cases s locator term with same | ⟨backend, asked, same⟩
  · rw [same]
    exact resolves
  · rw [same]
    exact resolves.trans (extends_push rfl (faithful_grow ..) (.refl _))

theorem askDocument_extends (s : Service) (locator uri : String) :
    s.Extends (s.askDocument locator uri).1 := by
  rw [askDocument_fst]
  exact resolve_extends s locator

theorem remove_extends (s : Service) (ref : NodeRef) : s.Extends (s.remove ref) := by
  unfold Service.remove
  split
  · exact extends_of_searches rfl (.refl _)
  · exact .refl s

theorem result_extends (s : Service) (ref : NodeRef) : s.Extends (s.result ref).1 := by
  unfold Service.result
  split
  · exact .refl s
  · rename_i n placed
    dsimp only
    -- The node is found again where it was: leaving the registry does not move it.
    have evicts : s.Extends (if n.isCollectable then s.remove ref else s) := by
      split
      · exact remove_extends s ref
      · exact .refl s
    refine evicts.trans (modify_extends _ ref _ fun m there => ?_)
    have same : m = n := by
      split at there
      · rw [node?_remove, placed] at there
        exact (Option.some.inj there).symm
      · rw [placed] at there
        exact (Option.some.inj there).symm
    rw [same]
    exact n.take_becomes

theorem act_extends (s : Service) (action : Action) : s.Extends (s.act action) := by
  cases action with
  | register locator describe => exact extends_of_searches rfl (Catalog.register_grows _ _ _)
  | create name => exact extends_of_searches rfl (Catalog.localOrCreate_grows _ _)
  | addDocument name uri title text => exact extends_of_searches rfl (Catalog.putLocal_grows _ _ _)
  | removeDocument name uri =>
      refine extends_of_searches rfl ?_
      show s.catalog.Grows (((s.catalog.removeDocument name uri).map Prod.fst).getD s.catalog)
      unfold Catalog.removeDocument
      cases s.catalog.local? name with
      | none => exact .refl _
      | some index => exact Catalog.putLocal_grows _ _ _
  | resolve locator => exact resolve_extends s locator
  | start query locators => exact startSearch_extends s query locators
  | parse query locators => exact parse_extends s query locators
  | askTerm locator term => exact askTerm_extends s locator term
  | askDocument locator uri => exact askDocument_extends s locator uri
  | status ref => exact modify_extends s ref _ fun n _ => n.refresh_becomes
  | result ref => exact result_extends s ref
  | remove ref => exact remove_extends s ref
  | clear => exact extends_of_searches rfl (.refl _)
  | complete serial term entries => exact onOpen_extends ..
  | abort serial term reason => exact onOpen_extends ..
  | drop serial term => exact onOpen_extends ..
  | report serial term parts => exact onOpen_extends ..
  | abandon serial => exact onOpen_extends ..

/-- **A run only extends a service.** -/
theorem run_extends (s : Service) (actions : List Action) : s.Extends (s.run actions) := by
  induction actions generalizing s with
  | nil => exact .refl s
  | cons action rest ih => exact (act_extends s action).trans (ih (s.act action))

/-- **Every search is faithful** in every run. -/
theorem run_faithful (link : Link) (actions : List Action) {search : Nat} {root : Node}
    (found : ((start link).run actions).node? (.root search) = some root) : root.Faithful :=
  (run_extends (start link) actions).opened search root rfl found

/-- What a search gives at some time it gives ever after. -/
theorem result_of_gives {s : Service} {search : Nat} {root : Node} {set : ResultSet}
    (found : s.node? (.root search) = some root) (given : root.Gives set) (actions : List Action) :
    ((s.run actions).result (.root search)).2 = .ok (some set) := by
  obtain ⟨later, foundLater, becomes⟩ := (run_extends s actions).searches search root found
  unfold Service.result
  rw [foundLater]
  exact becomes.gives set given

end Service

end Concordance
