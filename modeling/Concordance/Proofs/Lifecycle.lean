/-
# Concordance.Proofs.Lifecycle -- the life of a search, as requests see it

A search that was started by a request is found by its digest.  Whoever asks how far it
is changes nothing but what its nodes remember, and being told its result, or why there
is none, ends its life: only starting it again begins another (`free_through`).

`Lifecycle` is this contract, with what is told of a result in between.  It holds after
any requests, in any order with what the holders of the lookups do, as long as no two
names of searches have one digest (`through_lifecycle`).
-/
import Concordance.Proofs.Collecting

namespace Concordance.Http

open Concordance.Data Concordance.Index Concordance.Query Concordance.Search Concordance.Wire

set_option autoImplicit false

/-! ## Found or not -/

/-- Asks for a search by its digest: for its result or how far it is. -/
def Request.AsksFor (r : Request) (hash : UInt64) : Prop := r.AsksResult hash ∨ r.AsksStatus hash

theorem searchStatus_ne_absent {s : Service} {hash : UInt64} {search : Nat}
    (known : s.registry.findHash? hash = some search) :
    (searchStatus s hash).2.toOption.map Answer.status ≠ some 404 := by
  unfold searchStatus
  rw [known]
  dsimp only
  generalize statusOf s (.root search) = told
  obtain ⟨later, status, error⟩ := told
  dsimp only
  generalize progressOf later search _ = progress
  obtain ⟨last, (fault | items)⟩ := progress
  · simp [bind, Except.bind, Except.toOption]
  · rcases partsOf ((later.node? (.root search)).getD default) with fault | parts <;>
      simp [bind, Except.bind, pure, Except.pure, Except.toOption, Answer.status]

/-- A search is not found exactly if its digest is not. -/
theorem Sound.answeredWith_absent_iff {s : Service} {names : List String} (sound : Sound s names)
    {r : Request} {hash : UInt64} (asks : r.AsksFor hash) :
    answeredWith s r = some 404 ↔ s.registry.findHash? hash = none := by
  rcases asks with asks | asks
  · rw [sound.absent asks]
    rcases known : s.registry.findHash? hash with _ | search
    · refine iff_of_true ?_ rfl
      rintro ⟨search, root, live⟩
      rw [(sound.liveAs_iff.1 live).1] at known
      cases known
    · obtain ⟨root, live⟩ := sound.exists_liveAs known
      exact iff_of_false (not_not_intro ⟨search, root, live⟩) nofun
  · rw [answeredWith, serve_of_get asks.method asks.demand]
    show (searchStatus s hash).2.toOption.map Answer.status = _ ↔ _
    rcases known : s.registry.findHash? hash with _ | search
    · refine iff_of_true ?_ rfl
      unfold searchStatus
      rw [known]
      rfl
    · exact iff_of_false (searchStatus_ne_absent known) nofun

/-! ## Further steps -/

theorem Sound.later {s : Service} {names : List String} (sound : Sound s names)
    {steps : List Step} (free : CollisionFree subjectHash (names ++ startedNames steps)) :
    Sound (through s steps) (names ++ startedNames steps) where
  tidy := through_tidy sound.tidy steps
  tabled := through_tabled ⟨fun subject search live =>
    List.mem_append_left _ (sound.tabled.started subject search live), sound.tabled.inStep⟩ free
    fun _ => List.mem_append_right _
  free

/-- A step starts a search of that name. -/
def Starts (s : Service) (subject : String) : Step → Prop
  | .request r => answeredWith s r = some 200 ∧
      ∃ m, r.started? = some m ∧ canonicalSubject m.query m.indexes = subject
  | .direct (.start query locators) => canonicalSubject query locators = subject ∧
      ∃ search, (s.startSearch query locators).2 = .ok search
  | .direct _ => False

/-- One of the steps starts a search of that name. -/
def Restarted (s : Service) (subject : String) : List Step → Prop
  | [] => False
  | step :: rest => Starts s subject step ∨ Restarted (after s step) subject rest

theorem demand_of_started {r : Request} {m : StartRequest} (starts : r.started? = some m) :
    r.demand? = some (.start m) := by
  obtain ⟨d, demanded, started⟩ := Option.bind_eq_some_iff.1 starts
  cases d <;> cases started
  exact demanded

/-- A request that starts a search is answered so. -/
theorem answeredWith_of_started {s : Service} {r : Request} {m : StartRequest}
    (starts : r.started? = some m) {search : Nat}
    (granted : (s.startSearch m.query m.indexes).2 = .ok search) :
    answeredWith s r = some 200 := by
  rw [answeredWith, serve_of_demand (demand_of_started starts)]
  show ((Except.ok (startSearch s m).2).map _).toOption.map Answer.status = some 200
  unfold startSearch
  generalize s.startSearch m.query m.indexes = started at granted ⊢
  obtain ⟨later, answer⟩ := started
  obtain rfl : answer = .ok search := granted
  show some (Answer.status (if r.method = "HEAD" then _ else _)) = some 200
  split <;> rfl

/-- A name that is free stays free until a search of that name is started. -/
theorem free_after {s : Service} (orderly : s.Orderly) {subject : String}
    (free : s.registry.find? subject = none) {step : Step} (idle : ¬ Starts s subject step) :
    (after s step).registry.find? subject = none := by
  cases step with
  | direct action =>
      refine Service.find?_act_of_free orderly free fun query locators isStart same => ?_
      subst isStart
      rcases answer : (s.startSearch query locators).2 with e | search
      · exact ⟨e, rfl⟩
      · exact absurd ⟨same, search, answer⟩ idle
  | request r =>
      show (serve s r).1.registry.find? subject = none
      rcases serve_reaches s r with ⟨m, starts, reaches⟩ | ⟨_, reaches⟩
      · rw [reaches.alike.registry]
        show (s.act (.start m.query m.indexes)).registry.find? subject = none
        refine Service.find?_act_of_free orderly free fun query locators isStart same => ?_
        cases isStart
        rcases answer : (s.startSearch m.query m.indexes).2 with e | search
        · exact ⟨e, rfl⟩
        · exact absurd ⟨answeredWith_of_started starts answer, m, starts, same⟩ idle
      · refine (reaches.keeps (P := fun s => s.Orderly ∧ s.registry.find? subject = none)
          (fun now action isQuiet both => ⟨both.1.act action, ?_⟩) ⟨orderly, free⟩).2
        refine Service.find?_act_of_free both.1 both.2 fun query locators isStart _ => ?_
        subst isStart
        cases isQuiet.idle

theorem free_through {s : Service} (orderly : s.Orderly) {subject : String}
    (free : s.registry.find? subject = none) {steps : List Step}
    (idle : ¬ Restarted s subject steps) :
    (through s steps).registry.find? subject = none := by
  induction steps generalizing s with
  | nil => exact free
  | cons step rest ih =>
      obtain ⟨idleNow, idleLater⟩ := not_or.1 idle
      refine ih ?_ (free_after orderly free idleNow) idleLater
      exact (after_reaches s step).keeps (fun _ action _ orderly => orderly.act action) orderly

/-! ## The end of a search -/

theorem collected_registry (locators : List String) (ref : NodeRef)
    (answered : Service × Except Failure (Option ResultSet)) :
    (collected locators ref answered).registry = answered.1.registry := by
  have known (s : Service) : (knownBackends s locators).1.registry = s.registry := by
    induction locators generalizing s with
    | nil => rfl
    | cons locator rest ih =>
        have resolved := s.resolve_registry locator
        rw [knownBackends]
        generalize s.resolve locator = answered at resolved ⊢
        rcases answered with ⟨later, (e | backend)⟩ <;> exact (ih later).trans resolved
  rcases answered with ⟨later, (e | (_ | set))⟩
  · rfl
  · rfl
  · exact known later

theorem LiveAs.find? {s : Service} {names : List String} (sound : Sound s names) {hash : UInt64}
    {search : Nat} {root : Node} (live : LiveAs s hash search root) :
    s.registry.find? root.subject = some search := by
  obtain ⟨subject, filed⟩ := (sound.agree.listed search).1 live.live
  obtain ⟨other, same, rfl, _⟩ := sound.agree.named subject search filed
  rw [live.found] at same
  cases same
  exact filed

/-- Being told a result, or why there is none, ends the life of a search. -/
theorem Sound.find?_of_told {s : Service} {names : List String} (sound : Sound s names)
    {r : Request} {hash : UInt64} (asks : r.AsksResult hash)
    (told : answeredWith s r = some 200 ∨ answeredWith s r = some 502) {search : Nat} {root : Node}
    (live : LiveAs s hash search root) :
    (serve s r).1.registry.find? root.subject = none := by
  obtain ⟨page, _, after⟩ := sound.serve_result asks live
  have orderly := sound.tidy.at? live.found
  have tells := sound.told asks live
  have notWaiting : root.isDone ≠ .ok false := by
    intro waits
    have accepted := tells.waits.2 waits
    rcases told with told | told <;> rw [accepted] at told <;> cases told
  have ends : s.Ends search (.result (.root search)) := by
    refine ⟨rfl, ?_⟩
    rw [Service.result_answer live.found, orderly.honest.take_answer orderly.sound]
    exact fun none => notWaiting
      ((Node.verdict_eq_none_iff orderly.sound).1 (Node.answered_eq_pending_iff.1 none))
  rw [after, collected_registry]
  exact Service.find?_of_ends sound.tidy.orderly (live.find? sound) ends

theorem started?_of_asksFor {r : Request} {hash : UInt64} (asks : r.AsksFor hash) :
    r.started? = none := by
  rcases asks with asks | asks
  · obtain ⟨page, demanded⟩ := asks.demand
    rw [Request.started?, demanded]
    rfl
  · rw [Request.started?, asks.demand]
    rfl

theorem startedNames_cons_of_none {r : Request} (idle : r.started? = none) (more : List Step) :
    startedNames (.request r :: more) = startedNames more := by
  rw [startedNames, List.filterMap_cons_none]
  · rfl
  · rw [Step.startedName?, idle]
    rfl

/-- Whoever asks for a search whose name is free does not find it. -/
theorem Sound.answeredWith_of_free {s : Service} {names : List String} (sound : Sound s names)
    {subject : String} (member : subject ∈ names) (free : s.registry.find? subject = none)
    {r : Request} (asks : r.AsksFor (subjectHash subject)) : answeredWith s r = some 404 := by
  rw [sound.answeredWith_absent_iff asks,
    sound.tabled.inStep.findHash?_eq (sound.tabled.apart sound.free member), free]

/-! ## Starting -/

theorem hash_of_encode {m reply : StartAnswer} (same : m.encode = reply.encode) :
    m.hash = reply.hash := by
  unfold StartAnswer.encode at same
  have hashes : Json.option Json.nat m.hash = Json.option Json.nat reply.hash := by
    injection same with members
    simp only [List.cons.injEq, Prod.mk.injEq] at members
    exact members.2.1.2
  generalize m.hash = own at hashes ⊢
  generalize reply.hash = other at hashes ⊢
  rcases own with _ | first <;> rcases other with _ | second <;> cases hashes <;> rfl

/-- A search that is started is live under the name that was asked for, and its digest is told. -/
theorem startSearch_told {s : Service} (orderly : s.Orderly) {m : StartRequest}
    {reply : StartAnswer} (answered : (startSearch s m).2 = .message 200 (StartAnswer.encode reply)) :
    reply.hash = some (subjectHash (canonicalSubject m.query m.indexes)).toNat ∧
      ∃ search, (startSearch s m).1.registry.find? (canonicalSubject m.query m.indexes) =
        some search := by
  have laterOrderly : (s.startSearch m.query m.indexes).1.Orderly :=
    orderly.act (.start m.query m.indexes)
  rw [(startSearch_reaches s m).alike.registry]
  unfold startSearch at answered
  rcases started : s.startSearch m.query m.indexes with ⟨later, (e | search)⟩
  · rw [started] at answered
    cases answered
  · rw [started] at answered laterOrderly
    have live : later.registry.find? (canonicalSubject m.query m.indexes) = some search :=
      Service.find?_of_startSearch started
    refine ⟨?_, search, live⟩
    obtain ⟨root, found, subject⟩ := laterOrderly.wellFiled.subject live
    have same := (statusOf_reaches later (.root search)).alike.map_node? Node.hash_unasked
      (.root search)
    dsimp only at answered
    generalize statusOf later (.root search) = asked at answered same
    obtain ⟨last, status, error⟩ := asked
    rw [found] at same
    obtain ⟨node, placed, hash⟩ := Option.map_eq_some_iff.1 same
    dsimp only at answered placed
    rw [placed, Option.getD_some] at answered
    have hashes := hash_of_encode (Answer.message.inj answered).2
    rw [← hashes, hash, Node.hash, subject]

/-! ## The whole contract -/

/-- The life of searches as requests see it, at a service whose searches were started under some
names. What happens next is any `more` steps, as long as no two names have one digest. -/
structure Lifecycle (s : Service) (names : List String) : Prop where
  /-- A result is asked for in vain exactly if no live search has that digest. -/
  absent : ∀ r hash, r.AsksResult hash →
    (answeredWith s r = some 404 ↔ ¬ ∃ search root, LiveAs s hash search root)
  /-- Of a live search it is told what its lookups settle. -/
  told : ∀ r hash search root, r.AsksResult hash → LiveAs s hash search root → ToldResult s r root
  /-- A search whose result was told, or why there is none, is not found again until it is
  restarted. -/
  retired : ∀ r hash search root, r.AsksResult hash → LiveAs s hash search root →
    answeredWith s r = some 200 ∨ answeredWith s r = some 502 →
      ∀ more, CollisionFree subjectHash (names ++ startedNames more) →
        ¬ Restarted (serve s r).1 root.subject more →
          ∀ q, q.AsksFor hash → answeredWith (through (serve s r).1 more) q = some 404
  /-- A search whose digest is told to whoever starts it is found. -/
  found : ∀ r m reply hash, r.started? = some m →
    CollisionFree subjectHash (names ++ [canonicalSubject m.query m.indexes]) →
      (serve s r).2 = .ok (.message 200 (StartAnswer.encode reply)) →
        reply.hash = some hash.toNat →
          ∀ q, q.AsksFor hash → answeredWith (serve s r).1 q ≠ some 404
  /-- Asking how far searches are changes neither what is live nor any later result. -/
  unobserved : ∀ r, (∃ hash, r.AsksStatus hash) ∨ r.AsksList →
    ∀ more, CollisionFree subjectHash (names ++ startedNames more) →
      (through (serve s r).1 more).registry = (through s more).registry ∧
      (∀ ref, ((through (serve s r).1 more).result ref).2 = ((through s more).result ref).2) ∧
      ∀ q hash, q.AsksResult hash →
        (serve (through (serve s r).1 more) q).2 = (serve (through s more) q).2

/-- After a request that starts no search the names are what they were. -/
theorem Sound.served {s : Service} {names : List String} (sound : Sound s names) {r : Request}
    (idle : r.started? = none) {more : List Step}
    (free : CollisionFree subjectHash (names ++ startedNames more)) :
    Sound (through (serve s r).1 more) (names ++ startedNames more) := by
  have same := startedNames_cons_of_none idle more
  rw [← same] at free ⊢
  exact sound.later free

theorem Sound.retired {s : Service} {names : List String} (sound : Sound s names) {r : Request}
    {hash : UInt64} {search : Nat} {root : Node} (asks : r.AsksResult hash)
    (live : LiveAs s hash search root)
    (told : answeredWith s r = some 200 ∨ answeredWith s r = some 502) {more : List Step}
    (free : CollisionFree subjectHash (names ++ startedNames more))
    (idle : ¬ Restarted (serve s r).1 root.subject more) {q : Request} (asksFor : q.AsksFor hash) :
    answeredWith (through (serve s r).1 more) q = some 404 := by
  have gone : (through (serve s r).1 more).registry.find? root.subject = none :=
    free_through (after_tidy sound.tidy (.request r)).orderly (sound.find?_of_told asks told live)
      idle
  refine (sound.served (started?_of_asksFor (Or.inl asks)) free).answeredWith_of_free ?_ gone ?_
  · exact List.mem_append_left _ (sound.tabled.started _ search (live.find? sound))
  · rw [← live.hash] at asksFor
    exact asksFor

theorem Sound.found {s : Service} {names : List String} (sound : Sound s names) {r : Request}
    {m : StartRequest} {reply : StartAnswer} {hash : UInt64} (starts : r.started? = some m)
    (free : CollisionFree subjectHash (names ++ [canonicalSubject m.query m.indexes]))
    (answered : (serve s r).2 = .ok (.message 200 (StartAnswer.encode reply)))
    (told : reply.hash = some hash.toNat) {q : Request} (asksFor : q.AsksFor hash) :
    answeredWith (serve s r).1 q ≠ some 404 := by
  have name : startedNames [.request r] = [canonicalSubject m.query m.indexes] := by
    rw [startedNames, List.filterMap_cons_some]
    · rfl
    · rw [Step.startedName?, starts]
      rfl
  rw [← name] at free
  have later : Sound (serve s r).1 (names ++ startedNames [.request r]) := sound.later free
  have served := serve_of_demand (s := s) (demand_of_started starts)
  have started : (startSearch s m).2 = .message 200 (StartAnswer.encode reply) := by
    rw [served] at answered
    have same : (if r.method = "HEAD" then (startSearch s m).2.head else (startSearch s m).2) =
        .message 200 (StartAnswer.encode reply) := Except.ok.inj answered
    split at same
    · generalize (startSearch s m).2 = answer at same
      cases answer <;> cases same
    · exact same
  obtain ⟨digest, search, live⟩ := startSearch_told sound.tidy.orderly started
  have live : (serve s r).1.registry.find? (canonicalSubject m.query m.indexes) = some search := by
    rw [served]
    exact live
  obtain rfl : hash = subjectHash (canonicalSubject m.query m.indexes) := by
    rw [told] at digest
    exact UInt64.toNat_inj.1 (Option.some.inj digest)
  rw [Ne, later.answeredWith_absent_iff asksFor,
    later.tabled.inStep.findHash?_eq (later.tabled.apart later.free
      (later.tabled.started _ search live)), live]
  exact Option.some_ne_none search

/-- Whoever asks how far searches are asks for statuses alone. -/
theorem serve_alike {s : Service} {r : Request}
    (asks : (∃ hash, r.AsksStatus hash) ∨ r.AsksList) : s.Alike (serve s r).1 := by
  rcases asks with ⟨hash, asks⟩ | asks
  · rw [serve_of_get asks.method asks.demand]
    exact (searchStatus_reaches s hash).alike
  · rw [serve_of_get asks.method asks.demand]
    exact (listSearches_reaches s).alike

/-- Services that are alike answer the same to whoever asks for a result. -/
theorem Sound.serve_result_of_alike {s other : Service} {names : List String}
    (sound : Sound s names) (otherSound : Sound other names) (alike : s.Alike other) {q : Request}
    {hash : UInt64} (asks : q.AsksResult hash) : (serve other q).2 = (serve s q).2 := by
  obtain ⟨page, demanded⟩ := asks.demand
  rw [serve_of_get asks.method demanded, serve_of_get asks.method demanded]
  show (searchResult other hash page).2 = (searchResult s hash page).2
  rcases known : s.registry.findHash? hash with _ | search
  · rw [searchResult_of_absent known,
      searchResult_of_absent (by rw [alike.registry]; exact known)]
  · obtain ⟨root, live⟩ := sound.exists_liveAs known
    rcases alike.node?_cases (.root search) with ⟨absent, _⟩ | ⟨n, m, placed, otherPlaced, same⟩
    · rw [live.found] at absent
      cases absent
    · rw [searchResult_answer sound.tidy known placed,
        searchResult_answer otherSound.tidy (by rw [alike.registry]; exact known) otherPlaced,
        resultAnswer_congr alike.catalog same]

theorem Sound.unobserved {s : Service} {names : List String} (sound : Sound s names) {r : Request}
    (asks : (∃ hash, r.AsksStatus hash) ∨ r.AsksList) {more : List Step}
    (free : CollisionFree subjectHash (names ++ startedNames more)) :
    (through (serve s r).1 more).registry = (through s more).registry ∧
      (∀ ref, ((through (serve s r).1 more).result ref).2 =
        ((through s more).result ref).2) ∧
      ∀ q hash, q.AsksResult hash →
        (serve (through (serve s r).1 more) q).2 = (serve (through s more) q).2 := by
  have idle : r.started? = none := by
    rcases asks with ⟨hash, asks⟩ | asks
    · exact started?_of_asksFor (Or.inr asks)
    · rw [Request.started?, asks.demand]
      rfl
  have both := through_alike (serve_alike asks) sound.tidy (after_tidy sound.tidy (.request r)) more
  have own := sound.later free
  have others := sound.served idle free
  exact ⟨both.registry, both.result_answer own.tidy others.tidy,
    fun q hash asksResult => own.serve_result_of_alike others both asksResult⟩

/-- **The life of a search, as requests see it.**  It is so after any requests, in any order with
whatever else is done, as long as no two names of searches have one digest. -/
theorem through_lifecycle (link : Link) (steps : List Step)
    (free : CollisionFree subjectHash (startedNames steps)) :
    Lifecycle (through (Service.start link) steps) (startedNames steps) := by
  have fresh : (Service.start link).Tabled (startedNames steps) :=
    ⟨fun subject search live => (by cases live), Registry.empty_inStep⟩
  have sound : Sound (through (Service.start link) steps) (startedNames steps) :=
    ⟨through_tidy (Service.start_tidy link) steps, through_tabled fresh free fun _ => id, free⟩
  exact {
    absent := fun r hash asks => sound.absent asks
    told := fun r hash search root asks live => sound.told asks live
    retired := fun r hash search root asks live told more free idle q asksFor =>
      sound.retired asks live told free idle asksFor
    found := fun r m reply hash starts free answered told q asksFor =>
      sound.found starts free answered told asksFor
    unobserved := fun r asks more free => sound.unobserved asks free }

/-! ## A search that is posted -/

/-- A request to search an index for a word. -/
def postCat : Request :=
  ⟨"POST", "/search", some "application/json", "\x7b\"query\": \"cat\", \"indexes\": \"idx\"\x7d"⟩

/-- A request for what was found, by the digest of `cat@idx`. -/
def getCat : Request := ⟨"GET", "/search/11924573798509903710/result", none, ""⟩

/-- Somebody else answers the lookups of `idx`, and then a search in it is asked for. -/
def posted : List Step := [.direct (.register "idx" fun _ => .ok none), .request postCat]

/-- The search for a word. -/
def justCat : Node := .leaf "cat" "idx" (some 0) (.fresh "cat") Memo.fresh

theorem demand_postCat : postCat.demand? = some (.start ⟨"cat", "idx"⟩) := by
  have target : splitTarget postCat.target = ("/search".toList, []) := by cbv
  have route : Route.ofPath? "/search".toList = some .startSearch := by decide +kernel
  have body : readBody StartRequest.decode postCat = .ok ⟨"cat", "idx"⟩ := by
    unfold readBody
    cbv
  rw [Request.demand?_of_route target route rfl, readDemand, body]
  rfl

theorem startedNames_posted : startedNames posted = ["cat@idx"] := by
  have subject : canonicalSubject "cat" "idx" = "cat@idx" := by cbv
  have name : (Step.request postCat).startedName? = some "cat@idx" := by
    rw [Step.startedName?, Request.started?, demand_postCat, ← subject]
    rfl
  rw [startedNames, posted, List.filterMap_cons_none rfl, List.filterMap_cons_some name]
  rfl

theorem collisionFree_posted : CollisionFree subjectHash (startedNames posted) := by
  rw [startedNames_posted]
  simp [CollisionFree]

theorem getCat_asksResult : getCat.AsksResult (subjectHash "cat@idx") := by
  have target : splitTarget getCat.target =
      ("/search/11924573798509903710/result".toList, []) := by cbv
  have route : Route.ofPath? "/search/11924573798509903710/result".toList =
      some (.searchResult "11924573798509903710".toList) := by decide +kernel
  have hash : pathWord "11924573798509903710".toList = .ok (subjectHash "cat@idx") := by cbv
  have page : readPage [] = .ok ⟨10, 0⟩ := rfl
  have wait : queryValue (Net.readForm []) "wait" readBool? = .ok none := rfl
  refine ⟨rfl, ⟨⟨10, 0⟩, ?_⟩, by rw [target, wait]; decide⟩
  rw [Request.demand?_of_route target route rfl, readDemand, hash, page]
  rfl

theorem justCat_posted :
    LiveAs (through (Service.start ⟨.absent, 1⟩) posted) (subjectHash "cat@idx") 0 justCat := by
  have same : through (Service.start ⟨.absent, 1⟩) posted =
      (startSearch ((Service.start ⟨.absent, 1⟩).register "idx" fun _ => .ok none).1
        ⟨"cat", "idx"⟩).1 := by
    show (serve ((Service.start ⟨.absent, 1⟩).register "idx" fun _ => .ok none).1 postCat).1 = _
    rw [serve_of_demand demand_postCat]
    rfl
  rw [same]
  exact ⟨List.mem_of_mem_head? (by cbv), by rw [justCat]; cbv, by cbv⟩

theorem through_lifecycle_posted :
    CollisionFree subjectHash (startedNames posted) ∧
      Lifecycle (through (Service.start ⟨.absent, 1⟩) posted) (startedNames posted) ∧
      getCat.AsksResult (subjectHash "cat@idx") ∧
      LiveAs (through (Service.start ⟨.absent, 1⟩) posted) (subjectHash "cat@idx") 0 justCat ∧
      answeredWith (through (Service.start ⟨.absent, 1⟩) posted) getCat = some 202 := by
  have lifecycle := through_lifecycle ⟨.absent, 1⟩ posted collisionFree_posted
  have told := lifecycle.told _ _ _ _ getCat_asksResult justCat_posted
  exact ⟨collisionFree_posted, lifecycle, getCat_asksResult, justCat_posted, told.waits.2 rfl⟩

end Concordance.Http
