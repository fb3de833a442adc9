/-
# Concordance.Proofs.Collecting -- what is told of a result

Whoever asks for the result of a search by its digest is told one of four things: that
there is no such search, that it is busy, why it failed, or what it found.  Which one is
settled by what is live and by the lookups of the search, whatever was asked before
(`searchResult_answer`), and the status beside it is the one that a caller expects: a
node that waits is busy (`status_of_waiting`), and one that gave its set is done
(`status_of_gives`).

What is live and what is found by a digest is the same at a service that is `Sound`, so
`Sound.absent` and `Sound.told` say exactly when each of the four is told.
-/
import Concordance.Proofs.Requests

namespace Concordance.Http

open Concordance.Data Concordance.Index Concordance.Query Concordance.Search Concordance.Wire

set_option autoImplicit false

/-! ## Statuses of nodes -/

/-- An orderly node that waits for a lookup is busy. -/
theorem status_of_waiting {n : Node} (orderly : n.Orderly) (waits : n.isDone = .ok false) :
    n.status = .busy := by
  have same : n.refresh = n := by rw [Node.refresh, waits]
  have coherent := orderly.coherent.here
  have fresh := orderly.honest.outcome_of_unsettled
    ((Node.verdict_eq_none_iff orderly.sound).2 waits)
  rw [Node.status, same]
  rcases coherent.agrees.fresh.1 fresh with busy | ready
  · exact busy
  · have done := Node.isDone_eq_ok_true_iff.2 (coherent.complete (Or.inl ready))
    rw [waits] at done
    cases done

/-- A node that gave a set is done. -/
theorem status_of_gives {n : Node} (orderly : n.Orderly) {set : ResultSet} (given : n.Gives set) :
    n.take.1.status = .done := by
  have coherent := (n.take_keeps orderly).1.coherent.here
  have done := coherent.agrees.done.1 ⟨set, Node.outcome_of_gives given⟩
  refine Status.eq_done_of_le ?_
  rw [← done]
  exact n.take.1.memo_status_le_status

theorem root_search (search : Nat) : (NodeRef.root search).search = search := rfl

theorem status_answer {s : Service} {search : Nat} {root : Node}
    (found : s.node? (.root search) = some root) : (s.status (.root search)).2 = root.status := by
  show (((s.modify (.root search) Node.refresh).node? (.root search)).map
    fun n => n.memo.status).getD .unstarted = _
  rw [Service.node?_modify, if_pos (root_search search), found]
  rfl

/-! ## Answers -/

/-- The status of an answer. -/
def Answer.status : Answer → Nat
  | .message status _ => status
  | .refusal status _ => status

/-- The status that a request is answered with. -/
def answeredWith (s : Service) (r : Request) : Option Nat :=
  (serve s r).2.toOption.map Answer.status

/-- What whoever asks for the result of a search is told, by its verdict. -/
def resultAnswer (s : Service) (root : Node) (page : Page) : Answer :=
  let told (code : Nat) (status : String) (error : Option String) : Answer :=
    .message code (ResultAnswer.encode
      { subject := root.subject, status, totalCount := 0, count := 0, results := [], error })
  match root.verdict with
  | none => told 202 Status.busy.name none
  | some (.error e) => told 502 errorStatus (some e.message)
  | some (.ok set) =>
      let (s, backends) := knownBackends s (splitLocators root.locators)
      let results := resultItems s.catalog backends page set
      .message 200 (ResultAnswer.encode
        { subject := root.subject, status := Status.done.name, totalCount := set.size,
          count := results.length, results, error := none })

/-- Which backends are known, and what resolving them lists, depends on the catalog alone. -/
theorem knownBackends_of_catalog {s other : Service} (same : other.catalog = s.catalog)
    (locators : List String) :
    (knownBackends other locators).2 = (knownBackends s locators).2 ∧
      (knownBackends other locators).1.catalog = (knownBackends s locators).1.catalog := by
  induction locators generalizing s other with
  | nil => exact ⟨rfl, same⟩
  | cons locator rest ih =>
      rw [knownBackends, knownBackends, Service.resolve, Service.resolve, same]
      rcases s.catalog.resolve locator with e | ⟨catalog, backend⟩
      · exact ih same
      · have both := @ih { s with catalog } { other with catalog } rfl
        exact ⟨congrArg (backend :: ·) both.1, both.2⟩

theorem knownBackends_searches (s : Service) (locators : List String) :
    (knownBackends s locators).1.searches = s.searches := by
  induction locators generalizing s with
  | nil => rfl
  | cons locator rest ih =>
      have resolved := s.resolve_searches locator
      rw [knownBackends]
      generalize s.resolve locator = answered at resolved ⊢
      rcases answered with ⟨later, (e | backend)⟩ <;> exact (ih later).trans resolved

theorem resultAnswer_congr {s other : Service} {n m : Node} (catalog : other.catalog = s.catalog)
    (same : m.unasked = n.unasked) (page : Page) :
    resultAnswer other m page = resultAnswer s n page := by
  have subject : m.subject = n.subject := by
    rw [← m.subject_unasked, same, n.subject_unasked]
  have locators : m.locators = n.locators := by
    rw [← m.locators_unasked, same, n.locators_unasked]
  have known := knownBackends_of_catalog catalog (splitLocators n.locators)
  unfold resultAnswer
  rw [Node.verdict_of_unasked same, subject, locators]
  dsimp only
  rw [known.1, known.2]

/-- **What is told of a result.** -/
theorem searchResult_answer {s : Service} (tidy : s.Tidy) {hash : UInt64} {search : Nat}
    {root : Node} (found : s.registry.findHash? hash = some search)
    (placed : s.node? (.root search) = some root) (page : Page) :
    (searchResult s hash page).2 = .ok (resultAnswer s root page) := by
  have orderly := tidy.at? placed
  have answer : (s.result (.root search)).2 = Node.answered root.verdict := by
    rw [Service.result_answer placed, orderly.honest.take_answer orderly.sound]
  have after : (s.result (.root search)).1.node? (.root search) = some root.take.1 := by
    rw [Service.node?_result placed, if_pos (root_search search), placed]
    rfl
  have catalog := s.result_catalog (.root search)
  unfold searchResult resultAnswer
  rw [found]
  dsimp only
  rw [placed, Option.getD_some]
  generalize s.result (.root search) = collected at answer after catalog ⊢
  obtain ⟨later, told⟩ := collected
  obtain rfl : told = Node.answered root.verdict := answer
  rcases settled : root.verdict with _ | (e | set)
  · have waits := (Node.verdict_eq_none_iff orderly.sound).1 settled
    have busy : (later.status (.root search)).2 = .busy := by
      have kept := (root.take_keeps orderly).1
      rw [status_answer after]
      refine status_of_waiting kept ?_
      rw [← root.take.1.isDone_unasked, root.unasked_take, root.isDone_unasked, waits]
    show Except.ok (Answer.message 202 _) = _
    rw [busy]
  · rfl
  · have done : ((knownBackends later (splitLocators root.locators)).1.status
        (.root search)).2 = .done := by
      refine (status_answer ?_).trans (status_of_gives orderly
        (orderly.honest.gives_of_verdict settled))
      rw [Service.node?_root, knownBackends_searches, ← Service.node?_root, after]
    have known := knownBackends_of_catalog catalog (splitLocators root.locators)
    show Except.ok (Answer.message 200 _) = _
    rw [done]
    generalize knownBackends later (splitLocators root.locators) = own at known ⊢
    obtain ⟨last, backends⟩ := own
    dsimp only at known ⊢
    rw [← known.1, ← known.2]

/-! ## Requests about a search -/

/-- Asks for the result of a search by its digest, as far as it is there. -/
structure Request.AsksResult (r : Request) (hash : UInt64) : Prop where
  method : r.method = "GET"
  demand : ∃ page, r.demand? = some (.result hash page)
  /-- It does not ask to wait until the result is there. -/
  promptly : queryValue (Net.readForm (splitTarget r.target).2) "wait" readBool? ≠ .ok (some true)

/-- Asks how far a search is, by its digest. -/
structure Request.AsksStatus (r : Request) (hash : UInt64) : Prop where
  method : r.method = "GET"
  demand : r.demand? = some (.status hash)

/-- Asks which searches are live. -/
structure Request.AsksList (r : Request) : Prop where
  method : r.method = "GET"
  demand : r.demand? = some .list

/-- Only who asks for the head of an answer is not told all of it. -/
theorem serve_of_whole {s : Service} {r : Request} {d : Demand} (whole : r.method ≠ "HEAD")
    (demanded : r.demand? = some d) : serve s r = meet s d := by
  rw [serve_of_demand demanded]
  simp only [if_neg whole]
  rcases meet s d with ⟨later, (fault | answer)⟩ <;> rfl

theorem serve_of_get {s : Service} {r : Request} {d : Demand} (method : r.method = "GET")
    (demanded : r.demand? = some d) : serve s r = meet s d :=
  serve_of_whole (by rw [method]; decide) demanded

/-- A search is live, and its name has that digest. -/
structure LiveAs (s : Service) (hash : UInt64) (search : Nat) (root : Node) : Prop where
  live : search ∈ s.live
  found : s.node? (.root search) = some root
  hash : root.hash = hash

/-- A service in order whose tables of live searches are in step. -/
structure Sound (s : Service) (names : List String) : Prop where
  tidy : s.Tidy
  tabled : s.Tabled names
  free : CollisionFree subjectHash names

namespace Sound

variable {s : Service} {names : List String}

theorem agree (sound : Sound s names) : s.TablesAgree [] :=
  Service.tablesAgree_of_tabled sound.tidy.orderly sound.tabled sound.free nofun

/-- What is found by a digest is what is live under it. -/
theorem liveAs_iff (sound : Sound s names) {hash : UInt64} {search : Nat} {root : Node} :
    LiveAs s hash search root ↔
      s.registry.findHash? hash = some search ∧ s.node? (.root search) = some root := by
  constructor
  · rintro ⟨live, found, rfl⟩
    refine ⟨(sound.agree.hashed _ _).2 ⟨root, found, rfl, ?_⟩, found⟩
    obtain ⟨subject, filed⟩ := (sound.agree.listed search).1 live
    obtain ⟨other, same, rfl, _⟩ := sound.agree.named subject search filed
    rw [found] at same
    cases same
    exact filed
  · rintro ⟨known, found⟩
    obtain ⟨other, same, hashed, filed⟩ := (sound.agree.hashed hash search).1 known
    rw [found] at same
    cases same
    exact ⟨(sound.agree.listed search).2 ⟨_, filed⟩, found, hashed⟩

theorem exists_liveAs (sound : Sound s names) {hash : UInt64} {search : Nat}
    (known : s.registry.findHash? hash = some search) : ∃ root, LiveAs s hash search root := by
  obtain ⟨root, found, _⟩ := (sound.agree.hashed hash search).1 known
  exact ⟨root, sound.liveAs_iff.2 ⟨known, found⟩⟩

/-- Whoever asks for the result of a live search is told of its verdict. -/
theorem serve_result (sound : Sound s names) {r : Request} {hash : UInt64}
    (asks : r.AsksResult hash) {search : Nat} {root : Node} (live : LiveAs s hash search root) :
    ∃ page, (serve s r).2 = .ok (resultAnswer s root page) ∧
      (serve s r).1 = collected (splitLocators root.locators) (.root search)
        (s.result (.root search)) := by
  obtain ⟨page, demanded⟩ := asks.demand
  obtain ⟨known, found⟩ := sound.liveAs_iff.1 live
  refine ⟨page, ?_, ?_⟩
  · rw [serve_of_get asks.method demanded]
    exact searchResult_answer sound.tidy known found page
  · rw [serve_of_get asks.method demanded]
    refine (searchResult_fst known page).trans ?_
    rw [found, Option.getD_some]

end Sound

/-! ## What is told of a live search -/

/-- A request for a result is answered with a status of its own, the status of the search, and the
reason why it failed, if it did. -/
def Says (s : Service) (r : Request) (code : Nat) (status : String) (error : Option String) : Prop :=
  ∃ m : ResultAnswer, (serve s r).2 = .ok (.message code (ResultAnswer.encode m)) ∧
    m.status = status ∧ m.error = error

/-- What a request for the result of a live search is told. -/
structure ToldResult (s : Service) (r : Request) (root : Node) : Prop where
  /-- It is accepted, without a result, exactly while the search is not done; -/
  waits : answeredWith s r = some 202 ↔ root.isDone = .ok false
  /-- then the search is busy, and nothing changes. -/
  busy : root.isDone = .ok false → Says s r 202 Status.busy.name none ∧ (serve s r).1 = s
  /-- It fails exactly if the search has; -/
  fails : answeredWith s r = some 502 ↔ ∃ e, root.isDone = .error e
  /-- then it is told which lookup was aborted, and why. -/
  error : ∀ e, root.isDone = .error e → Says s r 502 errorStatus (some e.message) ∧
    ∃ subject reason, e = .abort subject reason
  /-- It gets the result exactly if all lookups have completed; -/
  gives : answeredWith s r = some 200 ↔ ∀ l ∈ root.leaves, l.IsComplete
  /-- then the search is done. -/
  done : (∀ l ∈ root.leaves, l.IsComplete) → Says s r 200 Status.done.name none

/-- A change that leaves the node at a place as it is leaves the service as it is. -/
theorem modify_of_fixed {s : Service} {search : Nat} {f : Node → Node} {root : Node}
    (found : s.node? (.root search) = some root) (fixed : f root = root) :
    s.modify (.root search) f = s := by
  have same : s.searches.modify search (Node.modify f []) = s.searches := by
    refine Array.ext_getElem? fun other => ?_
    rw [Array.getElem?_modify]
    split
    · rename_i here
      subst here
      rw [Service.node?_root] at found
      rw [found]
      exact congrArg some fixed
    · rfl
  show ({ s with searches := s.searches.modify search (Node.modify f []) } : Service) = s
  rw [same]

/-- A result that is asked for too early leaves the service as it is. -/
theorem collected_of_waiting {s : Service} {search : Nat} {root : Node} (orderly : root.Orderly)
    (found : s.node? (.root search) = some root) (waits : root.isDone = .ok false)
    (locators : List String) :
    collected locators (.root search) (s.result (.root search)) = s := by
  have fresh := orderly.honest.outcome_of_unsettled
    ((Node.verdict_eq_none_iff orderly.sound).2 waits)
  have asked : s.result (.root search) = (s, .ok none) := by
    have postponed : root.isCollectable = false := by
      rw [Node.isCollectable, waits, Bool.and_false]
    unfold Service.result
    rw [found]
    dsimp only
    rw [postponed, Node.take_of_not_isCollectable fresh postponed]
    exact Prod.ext (modify_of_fixed found rfl) rfl
  rw [asked]
  refine modify_of_fixed found ?_
  rw [Node.refresh, waits]

theorem exists_verdict_of_done {root : Node} (orderly : root.Orderly)
    (done : root.isDone = .ok true) : ∃ set, root.verdict = some (.ok set) := by
  obtain ⟨set, combined⟩ := Node.combination_of_done orderly.sound done
  exact ⟨set, Node.verdict_eq_ok_iff.2 ⟨Node.isDone_eq_ok_true_iff.1 done, combined⟩⟩

theorem Sound.told {s : Service} {names : List String} (sound : Sound s names) {r : Request}
    {hash : UInt64} (asks : r.AsksResult hash) {search : Nat} {root : Node}
    (live : LiveAs s hash search root) : ToldResult s r root := by
  obtain ⟨page, answer, after⟩ := sound.serve_result asks live
  have orderly := sound.tidy.at? live.found
  have code : answeredWith s r = some (resultAnswer s root page).status := by
    rw [answeredWith, answer]
    rfl
  have completes : (∀ l ∈ root.leaves, l.IsComplete) ↔ root.isDone = .ok true :=
    Node.isDone_eq_ok_true_iff.symm
  unfold resultAnswer at answer code
  rcases told : root.isDone with e | (_ | _)
  · rw [Node.verdict_eq_error_iff.2 told] at answer code
    obtain ⟨l, _, reason, _, rfl⟩ := Node.abort_of_isDone_eq_error told
    refine ⟨by simp [code, told, Answer.status], by simp [told], by simp [code, told, Answer.status],
      ?_, by simp [code, completes, told, Answer.status], by simp [completes, told]⟩
    intro e failed
    rw [told] at failed
    cases failed
    exact ⟨⟨_, answer, rfl, rfl⟩, _, _, rfl⟩
  · rw [(Node.verdict_eq_none_iff orderly.sound).2 told] at answer code
    refine ⟨by simp [code, told, Answer.status], fun _ => ⟨⟨_, answer, rfl, rfl⟩, ?_⟩,
      by simp [code, told, Answer.status], by simp [told],
      by simp [code, completes, told, Answer.status], by simp [completes, told]⟩
    rw [after]
    exact collected_of_waiting orderly live.found told _
  · obtain ⟨set, settled⟩ := exists_verdict_of_done orderly told
    rw [settled] at answer code
    exact ⟨by simp [code, told, Answer.status], by simp [told],
      by simp [code, told, Answer.status], by simp [told],
      by simp [code, completes, told, Answer.status], fun _ => ⟨_, answer, rfl, rfl⟩⟩

/-- A result is asked for in vain exactly if no live search has that digest. -/
theorem Sound.absent {s : Service} {names : List String} (sound : Sound s names) {r : Request}
    {hash : UInt64} (asks : r.AsksResult hash) :
    answeredWith s r = some 404 ↔ ¬ ∃ search root, LiveAs s hash search root := by
  rcases known : s.registry.findHash? hash with _ | search
  · obtain ⟨page, demanded⟩ := asks.demand
    refine iff_of_true ?_ ?_
    · rw [answeredWith, serve_of_get asks.method demanded]
      show (searchResult s hash page).2.toOption.map Answer.status = _
      rw [searchResult_of_absent known]
      rfl
    · rintro ⟨search, root, live⟩
      rw [(sound.liveAs_iff.1 live).1] at known
      cases known
  · obtain ⟨root, live⟩ := sound.exists_liveAs known
    refine iff_of_false ?_ (not_not_intro ⟨search, root, live⟩)
    obtain ⟨page, answer, _⟩ := sound.serve_result asks live
    rw [answeredWith, answer]
    unfold resultAnswer
    rcases root.verdict with _ | (e | set) <;> simp [Except.toOption, Answer.status]

end Concordance.Http
