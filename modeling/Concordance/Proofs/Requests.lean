/-
# Concordance.Proofs.Requests -- requests as actions

What a request asks for is settled by its text alone: a `Demand`, if it reads.  Serving
is meeting the demand (`serve_of_demand`), and a request that does not read does
nothing.  Meeting a demand is a run of actions: one that asks for a search starts it
and asks for its status, and no other starts any (`meet_reaches`) or registers a
backend.

So a service that answers requests while other things happen to it goes through the
states of a run (`through_reaches`), and keeps what runs keep (`through_tidy`,
`through_tabled`).
-/
import Concordance.Http.Serve
import Concordance.Proofs.Asking
import Concordance.Proofs.Tables

namespace Concordance

open Concordance.Data Concordance.Index Concordance.Query Concordance.Search Concordance.Wire

set_option autoImplicit false

namespace Service

/-! ## Actions of one kind -/

/-- A service comes to another by actions of some kind. -/
def Reaches (kind : Action → Prop) (s later : Service) : Prop :=
  ∃ actions, (∀ action ∈ actions, kind action) ∧ later = s.run actions

namespace Reaches

variable {kind : Action → Prop} {s later last : Service}

theorem refl (s : Service) : s.Reaches kind s := ⟨[], nofun, rfl⟩

theorem single {action : Action} (isKind : kind action) : s.Reaches kind (s.act action) :=
  ⟨[action], by simpa using isKind, rfl⟩

theorem trans (first : s.Reaches kind later) (second : later.Reaches kind last) :
    s.Reaches kind last := by
  obtain ⟨actions, areKind, rfl⟩ := first
  obtain ⟨more, moreKind, rfl⟩ := second
  refine ⟨actions ++ more, ?_, List.foldl_append.symm⟩
  rw [List.forall_mem_append]
  exact ⟨areKind, moreKind⟩

theorem mono {wider : Action → Prop} (first : s.Reaches kind later)
    (wide : ∀ action, kind action → wider action) : s.Reaches wider later := by
  obtain ⟨actions, areKind, rfl⟩ := first
  exact ⟨actions, fun action member => wide action (areKind action member), rfl⟩

/-- What is kept by every action of a kind is kept by all that they come to. -/
theorem keeps {P : Service → Prop} (reaches : s.Reaches kind later)
    (step : ∀ s action, kind action → P s → P (s.act action)) (holds : P s) : P later := by
  obtain ⟨actions, areKind, rfl⟩ := reaches
  induction actions generalizing s with
  | nil => exact holds
  | cons action rest ih =>
      obtain ⟨isKind, restKind⟩ := List.forall_mem_cons.1 areKind
      exact ih (step s action isKind holds) restKind

/-- What each of some steps does by actions of a kind, with something kept beside, they all do. -/
theorem foldl {α β : Type} {f : Service × β → α → Service × β} {items : List α}
    {acc : Service × β}
    (each : ∀ (acc : Service × β) item, acc.1.Reaches kind (f acc item).1) :
    acc.1.Reaches kind (items.foldl f acc).1 := by
  induction items generalizing acc with
  | nil => exact .refl acc.1
  | cons item rest ih => exact (each acc item).trans ih

theorem tidy (reaches : s.Reaches kind later) (tidy : s.Tidy) : later.Tidy :=
  reaches.keeps (fun _ action _ tidy => tidy.act action) tidy

end Reaches

/-- Only the status of a node is asked for. -/
def Action.IsStatus : Action → Prop
  | .status _ => True
  | _ => False

/-- The name under which an action registers a backend. -/
def Action.registeredName? : Action → Option String
  | .register locator _ => some locator
  | _ => none

/-- No search is started, and nobody is registered. -/
structure Action.IsQuiet (action : Action) : Prop where
  idle : action.startedName? = none
  alone : action.registeredName? = none

theorem Action.IsStatus.isQuiet {action : Action} (isStatus : action.IsStatus) :
    action.IsQuiet := by
  cases action with
  | status ref => exact ⟨rfl, rfl⟩
  | _ => exact isStatus.elim

/-- Asking for statuses changes memories alone. -/
theorem Reaches.alike {s later : Service} (reaches : s.Reaches Action.IsStatus later) :
    s.Alike later := by
  refine reaches.keeps (P := fun later => s.Alike later) ?_ (.refl s)
  intro now action isStatus alike
  cases action with
  | status ref => exact alike.trans (now.status_alike ref)
  | _ => exact isStatus.elim

end Service

namespace Http

/-! ## What requests ask for -/

/-- What a request asks for. -/
inductive Demand
  | start (m : StartRequest)
  | status (hash : UInt64)
  | result (hash : UInt64) (page : Page)
  | list
  | add (index : String) (m : AddRequest)
  | terms (index term : String)
  | document (index uri : String)

/-- Reads what a request asks for that goes to a route. -/
def readDemand (r : Request) (query : List Char) : Route → Except Rejection Demand
  | .startSearch => return .start (← readBody StartRequest.decode r)
  | .searchStatus hash => return .status (← pathWord hash)
  | .searchResult hash => return .result (← pathWord hash) (← readPage query)
  | .searches => return .list
  | .addDocument index => return .add (← pathText index) (← readBody AddRequest.decode r)
  | .terms index term => return .terms (← pathText index) (← pathText term)
  | .document index => return .document (← pathText index) (← readRequired query "uri")

/-- What a request asks for, if it goes to a route, by its method or for the head alone, and reads. -/
def Request.demand? (r : Request) : Option Demand :=
  match Route.ofPath? (splitTarget r.target).1 with
  | none => none
  | some route =>
      if r.method = route.method ∨ (r.method = "HEAD" ∧ route.method = "GET") then
        (readDemand r (splitTarget r.target).2 route).toOption
      else none

/-- A request that goes to a route by its method is read there. -/
theorem Request.demand?_of_route {r : Request} {path query : List Char} {route : Route}
    (target : splitTarget r.target = (path, query)) (routed : Route.ofPath? path = some route)
    (method : r.method = route.method) : r.demand? = (readDemand r query route).toOption := by
  rw [Request.demand?, target]
  dsimp only
  rw [routed]
  exact if_pos (Or.inl method)

/-- Does what is asked for, and answers. -/
def meet (s : Service) : Demand → Service × Except Fault Answer
  | .start m => ((startSearch s m).1, .ok (startSearch s m).2)
  | .status hash => searchStatus s hash
  | .result hash page => searchResult s hash page
  | .list => ((listSearches s).1, .ok (listSearches s).2)
  | .add index m => ((addDocument s index m).1, .ok (addDocument s index m).2)
  | .terms index term => (s, .ok (terms s index term))
  | .document index uri => (s, .ok (document s index uri))

theorem dispatch_eq (s : Service) (r : Request) (query : List Char) (route : Route) :
    dispatch s r query route = (readDemand r query route).map (meet s) := by
  cases route with
  | startSearch =>
      rw [dispatch, readDemand]
      cases readBody StartRequest.decode r <;> rfl
  | searchStatus hash =>
      rw [dispatch, readDemand]
      cases pathWord hash <;> rfl
  | searchResult hash =>
      rw [dispatch, readDemand]
      cases pathWord hash with
      | error rejection => rfl
      | ok word => cases readPage query <;> rfl
  | searches => rfl
  | addDocument index =>
      rw [dispatch, readDemand]
      cases pathText index with
      | error rejection => rfl
      | ok name =>
          cases readBody AddRequest.decode r with
          | error rejection => rfl
          | ok m => simp only [Except.map, bind, Except.bind, pure, Except.pure, meet]
  | terms index term =>
      rw [dispatch, readDemand]
      cases pathText index with
      | error rejection => rfl
      | ok name => cases pathText term <;> rfl
  | document index =>
      rw [dispatch, readDemand]
      cases pathText index with
      | error rejection => rfl
      | ok name => cases readRequired query "uri" <;> rfl

/-- A request that does not read is refused, and nothing is done. -/
theorem serve_of_unread {s : Service} {r : Request} (unread : r.demand? = none) :
    ∃ status explained, serve s r = (s, .ok (.refusal status explained)) := by
  unfold Request.demand? at unread
  unfold serve
  generalize splitTarget r.target = target at unread ⊢
  obtain ⟨path, query⟩ := target
  dsimp only at unread ⊢
  generalize Route.ofPath? path = routed at unread ⊢
  rcases routed with _ | route
  · exact ⟨_, _, rfl⟩
  · simp only [Bool.or_eq_true, Bool.and_eq_true, decide_eq_true_eq] at unread ⊢
    split
    · rename_i accepted
      rw [if_pos accepted] at unread
      rw [dispatch_eq]
      generalize readDemand r query route = read at unread ⊢
      rcases read with rejection | d
      · simp only [Except.map]
        split <;> exact ⟨_, _, rfl⟩
      · cases unread
    · exact ⟨_, _, rfl⟩

/-- **Serving a request is doing what it asks for.** -/
theorem serve_of_demand {s : Service} {r : Request} {d : Demand} (demanded : r.demand? = some d) :
    serve s r = ((meet s d).1,
      (meet s d).2.map fun answer => if r.method = "HEAD" then answer.head else answer) := by
  unfold Request.demand? at demanded
  unfold serve
  generalize splitTarget r.target = target at demanded ⊢
  obtain ⟨path, query⟩ := target
  dsimp only at demanded ⊢
  generalize Route.ofPath? path = routed at demanded ⊢
  rcases routed with _ | route
  · cases demanded
  · simp only [Bool.or_eq_true, Bool.and_eq_true, decide_eq_true_eq] at demanded ⊢
    split at demanded
    · rename_i accepted
      rw [if_pos accepted, dispatch_eq]
      generalize readDemand r query route = read at demanded ⊢
      rcases read with rejection | own
      · cases demanded
      · cases demanded
        -- Only a request for the head of an answer goes by another method than its route's.
        have head : (r.method = "HEAD" ∧ route.method = "GET") ↔ r.method = "HEAD" := by
          refine ⟨And.left, fun isHead => ⟨isHead, ?_⟩⟩
          rcases accepted with same | ⟨_, get⟩
          · rw [isHead] at same
            cases route <;> simp [Route.method] at same
          · exact get
        simp only [Except.map, head]
        rcases meet s d with ⟨later, (fault | answer)⟩ <;> rfl
    · cases demanded

/-! ## What requests do -/

theorem statusOf_reaches (s : Service) (ref : NodeRef) :
    s.Reaches Service.Action.IsStatus (statusOf s ref).1 := by
  unfold statusOf
  split
  · exact .refl s
  · exact (.single trivial : s.Reaches Service.Action.IsStatus (s.act (.status ref)))

theorem progressOf_reaches (s : Service) (search : Nat) (paths : List (List Nat)) :
    s.Reaches Service.Action.IsStatus (progressOf s search paths).1 := by
  induction paths generalizing s with
  | nil => exact .refl s
  | cons path rest ih =>
      have first := statusOf_reaches s ⟨search, path⟩
      rw [progressOf]
      generalize statusOf s ⟨search, path⟩ = told at first ⊢
      obtain ⟨later, status, error⟩ := told
      dsimp only
      split
      · exact first
      · exact first.trans (ih later)

theorem searchStatus_reaches (s : Service) (hash : UInt64) :
    s.Reaches Service.Action.IsStatus (searchStatus s hash).1 := by
  unfold searchStatus
  split
  · exact .refl s
  · rename_i search _
    have first := statusOf_reaches s (.root search)
    generalize statusOf s (.root search) = told at first ⊢
    obtain ⟨later, status, error⟩ := told
    exact first.trans (progressOf_reaches later search _)

/-- The searches are asked one after another, beside what was told of those before. -/
theorem listSearches_reaches (s : Service) :
    s.Reaches Service.Action.IsStatus (listSearches s).1 := by
  show s.Reaches _ (s.live.foldl _ (s, [])).1
  refine Service.Reaches.foldl ?_
  intro acc search
  exact statusOf_reaches acc.1 (.root search)

theorem knownBackends_reaches (s : Service) (locators : List String) :
    s.Reaches Service.Action.IsQuiet (knownBackends s locators).1 := by
  induction locators generalizing s with
  | nil => exact .refl s
  | cons locator rest ih =>
      have first : s.Reaches Service.Action.IsQuiet (s.act (.resolve locator)) :=
        .single ⟨rfl, rfl⟩
      rw [knownBackends]
      split <;> rename_i later _ resolved <;>
        have same : s.act (.resolve locator) = later := congrArg Prod.fst resolved <;>
        rw [same] at first <;> exact first.trans (ih later)

/-- The service after a result was collected, given what became of asking for it. -/
def collected (locators : List String) (ref : NodeRef) :
    Service × Except Failure (Option ResultSet) → Service
  | (s, .error _) => s
  | (s, .ok none) => (s.status ref).1
  | (s, .ok (some _)) => ((knownBackends s locators).1.status ref).1

theorem searchResult_fst {s : Service} {hash : UInt64} {search : Nat}
    (found : s.registry.findHash? hash = some search) (page : Page) :
    (searchResult s hash page).1 =
      collected (splitLocators ((s.node? (.root search)).getD default).locators) (.root search)
        (s.result (.root search)) := by
  unfold searchResult
  rw [found]
  dsimp only
  rcases s.result (.root search) with ⟨later, ((e | f) | (_ | set))⟩ <;> rfl

theorem searchResult_of_absent {s : Service} {hash : UInt64}
    (absent : s.registry.findHash? hash = none) (page : Page) :
    searchResult s hash page = (s, .ok (.message 404 .null)) := by
  unfold searchResult
  rw [absent]

theorem searchResult_reaches (s : Service) (hash : UInt64) (page : Page) :
    s.Reaches Service.Action.IsQuiet (searchResult s hash page).1 := by
  have told (s : Service) (ref : NodeRef) : s.Reaches Service.Action.IsQuiet (s.status ref).1 :=
    (.single ⟨rfl, rfl⟩ : s.Reaches Service.Action.IsQuiet (s.act (.status ref)))
  rcases found : s.registry.findHash? hash with _ | search
  · rw [searchResult_of_absent found]
    exact .refl s
  · rw [searchResult_fst found]
    have taken : s.Reaches Service.Action.IsQuiet (s.result (.root search)).1 :=
      (.single ⟨rfl, rfl⟩ : s.Reaches Service.Action.IsQuiet (s.act (.result (.root search))))
    generalize s.result (.root search) = answered at taken ⊢
    rcases answered with ⟨later, (e | (_ | set))⟩
    · exact taken
    · exact taken.trans (told later _)
    · exact taken.trans ((knownBackends_reaches later _).trans (told _ _))

/-- The search that is asked for, if one is to be started. -/
def Demand.start? : Demand → Option StartRequest
  | .start m => some m
  | _ => none

/-- A search that is asked for is started, and then its status is asked for. -/
theorem startSearch_reaches (s : Service) (m : StartRequest) :
    (s.startSearch m.query m.indexes).1.Reaches Service.Action.IsStatus (startSearch s m).1 := by
  unfold startSearch
  generalize s.startSearch m.query m.indexes = started
  rcases started with ⟨later, (e | search)⟩
  · exact .refl later
  · exact statusOf_reaches later (.root search)

/-- A document that is named is added. -/
theorem addDocument_fst (s : Service) (index : String) (m : AddRequest) :
    (addDocument s index m).1 = if (Text.trim m.uri).isEmpty then s
      else s.act (.addDocument index (Text.trim m.uri) m.title m.text) := by
  unfold addDocument
  dsimp only
  split <;> rfl

/-- Whoever asks for anything else starts no search. -/
theorem meet_reaches (s : Service) {d : Demand} (other : d.start? = none) :
    s.Reaches Service.Action.IsQuiet (meet s d).1 := by
  cases d with
  | start m => cases other
  | status hash => exact (searchStatus_reaches s hash).mono fun _ => Service.Action.IsStatus.isQuiet
  | result hash page => exact searchResult_reaches s hash page
  | list => exact (listSearches_reaches s).mono fun _ => Service.Action.IsStatus.isQuiet
  | add index m =>
      rw [meet]
      dsimp only
      rw [addDocument_fst]
      split
      · exact .refl s
      · exact .single ⟨rfl, rfl⟩
  | terms index term => exact .refl s
  | document index uri => exact .refl s

/-! ## Requests among other things -/

/-- What may happen to a service: somebody asks it, or somebody acts on it directly. -/
inductive Step
  | request (r : Request)
  | direct (action : Service.Action)

/-- The search that a request asks for, if it asks to start one. -/
def Request.started? (r : Request) : Option StartRequest := r.demand?.bind Demand.start?

/-- The name under which a step starts a search. -/
def Step.startedName? : Step → Option String
  | .request r => r.started?.map fun m => canonicalSubject m.query m.indexes
  | .direct action => action.startedName?

/-- The name under which a step registers a backend. -/
def Step.registeredName? : Step → Option String
  | .request _ => none
  | .direct action => action.registeredName?

/-- The names under which steps start searches. -/
def startedNames (steps : List Step) : List String := steps.filterMap Step.startedName?

/-- The service after a step. -/
def after (s : Service) : Step → Service
  | .request r => (serve s r).1
  | .direct action => s.act action

/-- The service after some steps. -/
def through (s : Service) (steps : List Step) : Service := steps.foldl after s

/-- **What a request does.**  It starts the search it asks for and asks for its status, or it starts
none. -/
theorem serve_reaches (s : Service) (r : Request) :
    (∃ m, r.started? = some m ∧
      (s.startSearch m.query m.indexes).1.Reaches Service.Action.IsStatus (serve s r).1) ∨
    (r.started? = none ∧ s.Reaches Service.Action.IsQuiet (serve s r).1) := by
  unfold Request.started?
  rcases demanded : r.demand? with _ | d
  · obtain ⟨status, explained, served⟩ := serve_of_unread (s := s) demanded
    rw [served]
    exact Or.inr ⟨rfl, .refl s⟩
  · rw [serve_of_demand demanded, Option.bind_some]
    rcases starts : d.start? with _ | m
    · exact Or.inr ⟨rfl, meet_reaches s starts⟩
    · cases d <;> cases starts
      exact Or.inl ⟨m, rfl, startSearch_reaches s m⟩

/-- An action starts no search and registers nobody, but under the names under which a step does. -/
structure Step.Allows (step : Step) (action : Service.Action) : Prop where
  starts : ∀ name, action.startedName? = some name → step.startedName? = some name
  registers : ∀ name, action.registeredName? = some name → step.registeredName? = some name

theorem Step.allows_of_isQuiet (step : Step) {action : Service.Action}
    (isQuiet : action.IsQuiet) : step.Allows action where
  starts name started := by
    rw [isQuiet.idle] at started
    cases started
  registers name registered := by
    rw [isQuiet.alone] at registered
    cases registered

/-- A step is a run of actions that it allows. -/
theorem after_reaches (s : Service) (step : Step) : s.Reaches step.Allows (after s step) := by
  cases step with
  | direct action => exact .single ⟨fun _ => id, fun _ => id⟩
  | request r =>
      have quiet {action : Service.Action} (isQuiet : action.IsQuiet) :
          (Step.request r).Allows action := Step.allows_of_isQuiet _ isQuiet
      rcases serve_reaches s r with ⟨m, asks, reaches⟩ | ⟨_, reaches⟩
      · have starts : s.Reaches (Step.request r).Allows (s.act (.start m.query m.indexes)) := by
          refine .single ⟨fun name started => ?_, nofun⟩
          rw [Step.startedName?, asks]
          exact started
        exact starts.trans (reaches.mono fun _ isStatus => quiet isStatus.isQuiet)
      · exact reaches.mono fun _ => quiet

theorem after_tidy {s : Service} (tidy : s.Tidy) (step : Step) : (after s step).Tidy :=
  (after_reaches s step).tidy tidy

/-- Steps are a run of actions, each of which one of them allows. -/
theorem through_reaches (s : Service) (steps : List Step) :
    s.Reaches (fun action => ∃ step ∈ steps, step.Allows action) (through s steps) := by
  induction steps generalizing s with
  | nil => exact .refl s
  | cons step rest ih =>
      have first := (after_reaches s step).mono fun action allowed =>
        (⟨step, List.mem_cons_self, allowed⟩ : ∃ other ∈ step :: rest, other.Allows action)
      refine first.trans ((ih (after s step)).mono ?_)
      rintro action ⟨other, member, allowed⟩
      exact ⟨other, List.mem_cons_of_mem _ member, allowed⟩

theorem through_tidy {s : Service} (tidy : s.Tidy) (steps : List Step) :
    (through s steps).Tidy := (through_reaches s steps).tidy tidy

theorem through_tabled {s : Service} {names : List String} (tabled : s.Tabled names)
    (free : CollisionFree subjectHash names) {steps : List Step}
    (started : ∀ name ∈ startedNames steps, name ∈ names) : (through s steps).Tabled names := by
  refine (through_reaches s steps).keeps (P := fun s => s.Tabled names) ?_ tabled
  rintro now action ⟨step, member, allowed⟩ tabled
  refine Service.act_tabled tabled free fun name named => started name ?_
  exact List.mem_filterMap.2 ⟨step, member, allowed.starts name named⟩

/-! ## Steps of services that are alike -/

section Alike

variable {s other : Service}

theorem knownBackends_alike (alike : s.Alike other) (locators : List String) :
    (knownBackends s locators).1.Alike (knownBackends other locators).1 := by
  induction locators generalizing s other with
  | nil => exact alike
  | cons locator rest ih =>
      have resolved := alike.resolve locator
      rw [knownBackends, knownBackends]
      generalize s.resolve locator = own at resolved ⊢
      generalize other.resolve locator = others at resolved ⊢
      obtain ⟨later, answer⟩ := own
      obtain ⟨next, same⟩ := others
      obtain ⟨alikeLater, rfl⟩ : later.Alike next ∧ same = answer := resolved
      rcases same with e | backend <;> exact ih alikeLater

/-- What is collected does not depend on what the nodes remember. -/
theorem searchResult_alike (alike : s.Alike other) (tidy : s.Tidy) (otherTidy : other.Tidy)
    (hash : UInt64) (page : Page) :
    (searchResult s hash page).1.Alike (searchResult other hash page).1 := by
  rcases found : s.registry.findHash? hash with _ | search
  · rw [searchResult_of_absent found,
      searchResult_of_absent (by rw [alike.registry]; exact found)]
    exact alike
  · have locators : ((other.node? (.root search)).getD default).locators =
        ((s.node? (.root search)).getD default).locators := by
      rcases alike.node?_cases (.root search) with
        ⟨absent, gone⟩ | ⟨n, m, placed, otherPlaced, same⟩
      · rw [absent, gone]
      · rw [placed, otherPlaced]
        show m.locators = n.locators
        rw [← m.locators_unasked, same, n.locators_unasked]
    rw [searchResult_fst found, searchResult_fst (by rw [alike.registry]; exact found), locators]
    have after := alike.result tidy.orderly otherTidy.orderly (.root search)
    have answer := alike.result_answer tidy otherTidy (.root search)
    generalize s.result (.root search) = own at after answer ⊢
    generalize other.result (.root search) = others at after answer ⊢
    obtain ⟨later, told⟩ := own
    obtain ⟨next, same⟩ := others
    obtain rfl : same = told := answer
    rcases same with e | (_ | set)
    · exact after
    · exact Service.Alike.status after _
    · exact (knownBackends_alike after _).status _

/-- Services that are alike stay alike when the same is asked of them. -/
theorem meet_alike (alike : s.Alike other) (tidy : s.Tidy) (otherTidy : other.Tidy) (d : Demand) :
    (meet s d).1.Alike (meet other d).1 := by
  -- Where only statuses are asked for, neither service changes but in what is remembered.
  have asked {s other later last : Service} (alike : s.Alike other)
      (first : s.Reaches Service.Action.IsStatus later)
      (second : other.Reaches Service.Action.IsStatus last) : later.Alike last :=
    first.alike.symm.trans (alike.trans second.alike)
  cases d with
  | start m =>
      exact asked (alike.startSearch m.query m.indexes).1 (startSearch_reaches s m)
        (startSearch_reaches other m)
  | status hash => exact asked alike (searchStatus_reaches s hash) (searchStatus_reaches other hash)
  | list => exact asked alike (listSearches_reaches s) (listSearches_reaches other)
  | result hash page => exact searchResult_alike alike tidy otherTidy hash page
  | add index m =>
      rw [meet, meet]
      dsimp only
      rw [addDocument_fst, addDocument_fst]
      split
      · exact alike
      · exact alike.act tidy.orderly otherTidy.orderly _
  | terms index term => exact alike
  | document index uri => exact alike

theorem after_alike (alike : s.Alike other) (tidy : s.Tidy) (otherTidy : other.Tidy)
    (step : Step) : (after s step).Alike (after other step) := by
  cases step with
  | direct action => exact alike.act tidy.orderly otherTidy.orderly action
  | request r =>
      show (serve s r).1.Alike (serve other r).1
      rcases demanded : r.demand? with _ | d
      · obtain ⟨_, _, served⟩ := serve_of_unread (s := s) demanded
        obtain ⟨_, _, otherServed⟩ := serve_of_unread (s := other) demanded
        rw [served, otherServed]
        exact alike
      · rw [serve_of_demand demanded, serve_of_demand demanded]
        exact meet_alike alike tidy otherTidy d

/-- **Services that are alike stay alike**, whatever they are asked. -/
theorem through_alike (alike : s.Alike other) (tidy : s.Tidy) (otherTidy : other.Tidy)
    (steps : List Step) : (through s steps).Alike (through other steps) := by
  induction steps generalizing s other with
  | nil => exact alike
  | cons step rest ih =>
      exact ih (after_alike alike tidy otherTidy step) (after_tidy tidy step)
        (after_tidy otherTidy step)

end Alike

end Http

end Concordance
