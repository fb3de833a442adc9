/-
# Concordance.Proofs.Locators -- what a list of locators comes to

However a list of locators is typed, a search keeps it in one form, and from this form the
list can be read again and told from every other (`splitLocators_canonical`).

Two things rest on it.  Whoever is handed a live search named it, so two callers that are
handed one search typed the same locators, if they typed the same query, or queries without
an at sign, or locators without one (`subject_of_handed`, `splitLocators_eq_iff_of_subject`,
`canonicalSubject_injective_of_locators`).  And whoever collects the result of a search has
its documents described by the backends that are listed under its locators.  A search keeps
no backends, so these are the backends that it ran against only until others are filed in
their place: `filings` are those that a run files under a locator, and the last of them is
who is asked (`find?_run`).
-/
import Concordance.Proofs.Dispatching
import Concordance.Proofs.Pages
import Concordance.Proofs.Windows

namespace Concordance

open Concordance.Data Concordance.Http Concordance.Index Concordance.Query Concordance.Search
open Concordance.Text Concordance.Wire

set_option autoImplicit false

/-! ## One form for every list -/

namespace Query

/-- A list of locators as it is typed, and the form in which a search keeps it. -/
structure Canonical (raw : String) : Prop where
  /-- Every locator is something, -/
  some : ∀ locator ∈ splitLocators raw, locator ≠ ""
  /-- has no blanks at its ends, -/
  trimmed : ∀ locator ∈ splitLocators raw, trim locator = locator
  /-- and holds nothing that ends a locator. -/
  unbroken : ∀ locator ∈ splitLocators raw, ' ' ∉ locator.toList ∧ ';' ∉ locator.toList
  /-- The locators can be read off the joined form again, -/
  again : splitLocators (joinLocators (splitLocators raw)) = splitLocators raw
  /-- which is that of no other locators. -/
  tells : ∀ more, joinLocators (splitLocators raw) = joinLocators (splitLocators more) ↔
    splitLocators raw = splitLocators more

theorem IsPiece.notMem_of_break {locator : String} (piece : IsPiece locator) {c : Char}
    (breaks : isLocatorBreak c = true) : c ∉ locator.toList := by
  intro inside
  rw [piece.unbroken c inside] at breaks
  exact Bool.false_ne_true breaks

/-- **Every list of locators has one form.** -/
theorem splitLocators_canonical (raw : String) : Canonical raw where
  some locator member := by
    rintro rfl
    exact (isPiece_of_splitLocators member).some rfl
  trimmed locator member := by
    have same := trimChars_eq_self_iff.2 (isLocator_of_splitLocators member).trimmed
    rw [trim, same, String.ofList_toList]
  unbroken locator member := by
    have piece := isPiece_of_splitLocators member
    exact ⟨piece.notMem_of_break rfl, piece.notMem_of_break rfl⟩
  again := splitLocators_joinLocators fun _ => isLocator_of_splitLocators
  tells more := by
    constructor
    · exact joinLocators_injective (fun _ => isPiece_of_splitLocators)
        (fun _ => isPiece_of_splitLocators)
    · intro same
      rw [same]

/-- Under one subject, the locators are the same just if the query is. -/
theorem splitLocators_eq_iff_of_subject {query again locators more : String}
    (same : canonicalSubject again more = canonicalSubject query locators) :
    splitLocators more = splitLocators locators ↔ normalize again = normalize query := by
  unfold canonicalSubject subject at same
  constructor
  · intro sameLocators
    rw [sameLocators, String.append_left_inj, String.append_left_inj] at same
    exact same
  · intro sameQuery
    rw [sameQuery, String.append_right_inj] at same
    exact ((splitLocators_canonical more).tells locators).1 same

end Query

namespace Service

/-! ## What is filed under a locator -/

/-- The backend that an action files under a locator that is listed. -/
def files? (s : Service) (locator : String) (action : Action) : Option Backend :=
  (action.call? s).bind (Catalog.Call.files? s.catalog locator)

/-- The backends that some actions file under a locator, from the first to the last. -/
def filings (s : Service) (locator : String) : List Action → List Backend
  | [] => []
  | action :: rest => (s.files? locator action).toList ++ (s.act action).filings locator rest

/-- **What a locator is listed as** changes only if an action files another backend under it. -/
theorem find?_act_of_listed {s : Service} {locator : String} {known : Backend}
    (listed : s.catalog.backends.find? locator = some known) (action : Action) :
    (s.act action).catalog.backends.find? locator =
      some ((s.files? locator action).getD known) := by
  rcases s.act_catalog_cases action with ⟨call, made, same⟩ | ⟨idle, locators, same⟩
  · rw [same, files?, made]
    exact Catalog.find?_step listed call
  · rw [same, files?, idle]
    exact Catalog.resolveAll_keeps locators listed

/-- After a run it is listed as what was filed last, or as before. -/
theorem find?_run {s : Service} {locator : String} {known : Backend}
    (listed : s.catalog.backends.find? locator = some known) (actions : List Action) :
    (s.run actions).catalog.backends.find? locator =
      some ((s.filings locator actions).getLastD known) := by
  induction actions generalizing s known with
  | nil => exact listed
  | cons action rest ih =>
      refine (ih (find?_act_of_listed listed action)).trans ?_
      rw [filings]
      rcases s.files? locator action with _ | backend
      · rfl
      · rw [Option.toList_some, List.singleton_append, List.getLastD_cons]
        rfl

/-- The backends under some locators after some actions, given those before. -/
def standing (s : Service) (locators : List String) (backends : List Backend)
    (actions : List Action) : List Backend :=
  List.zipWith (fun locator known => (s.filings locator actions).getLastD known) locators backends

theorem listed_standing {s : Service} {locators : List String} {backends : List Backend}
    (listed : List.Forall₂ (fun locator backend =>
      s.catalog.backends.find? locator = some backend) locators backends)
    (actions : List Action) :
    List.Forall₂ (fun locator backend =>
        (s.run actions).catalog.backends.find? locator = some backend)
      locators (s.standing locators backends actions) := by
  induction listed with
  | nil => exact .nil
  | cons first others ih => exact .cons (find?_run first actions) ih

/-- Where nothing is filed, the backends stay. -/
theorem standing_of_unfiled {s : Service} {locators : List String} {backends : List Backend}
    (paired : locators.length = backends.length) {actions : List Action}
    (unfiled : ∀ locator ∈ locators, s.filings locator actions = []) :
    s.standing locators backends actions = backends := by
  induction locators generalizing backends with
  | nil => exact (List.length_eq_zero_iff.1 paired.symm).symm
  | cons locator rest ih =>
      cases backends with
      | nil => cases paired
      | cons backend others =>
          obtain ⟨first, more⟩ := List.forall_mem_cons.1 unfiled
          show (s.filings locator actions).getLastD backend :: s.standing rest others actions = _
          rw [first, ih (Nat.succ.inj paired) more]
          rfl

/-! ## Who is handed one search -/

/-- Whoever is handed a search named it. -/
theorem Orderly.subject_of_handed {started later : Service} (orderly : started.Orderly)
    {query locators again more : String} {search : Nat}
    (live : started.find? query locators = some search) {between : List Action}
    (handed : (started.run between).startSearch again more = (later, .ok search)) :
    canonicalSubject again more = canonicalSubject query locators := by
  have after : started.run (between ++ [.start again more]) = later :=
    List.foldl_append.trans (congrArg Prod.fst handed)
  have found := find?_of_startSearch handed
  rw [← after] at found
  exact ((orderly.live_iff live _ _).1 found).1

/-! ## Who is asked -/

/-- Who describes the documents of a search of some locators, from when on it ran against some
backends. -/
structure Hydrates (started : Service) (search : Nat) (locators : List String)
    (backends : List Backend) : Prop where
  /-- Whoever collects its result has the documents described by the backend that is filed under
  each of its locators by then, and by nobody else. -/
  now : ∀ actions hash root set,
    (started.run actions).registry.findHash? hash = some search →
      (started.run actions).node? (.root search) = some root → root.verdict = some (.ok set) →
        ∀ page, ∃ answer : ResultAnswer,
          (searchResult (started.run actions) hash page).2 = .ok (.message 200 answer.encode) ∧
            answer.results = resultItems (started.run actions).catalog
              (started.standing locators backends actions) page set
  /-- These are the backends that it ran against, if nothing was filed under its locators since. -/
  same : ∀ actions, (∀ locator ∈ locators, started.filings locator actions = []) →
    started.standing locators backends actions = backends

theorem Tidy.hydrates {started : Service} (tidy : started.Tidy) {query locators : String}
    {search : Nat} (filed : started.Filed query locators search) {backends : List Backend}
    (listed : List.Forall₂ (fun locator backend =>
      started.catalog.backends.find? locator = some backend) (splitLocators locators) backends) :
    started.Hydrates search (splitLocators locators) backends where
  now actions hash root set found placed settled page := by
    obtain ⟨own, placedOwn, _, joined⟩ := (filed.extends (run_extends started actions)).root
    rw [placed] at placedOwn
    cases placedOwn
    have kept : splitLocators root.locators = splitLocators locators := by
      rw [joined]
      exact (splitLocators_canonical locators).again
    have known := knownBackends_of_forall₂ (listed_standing listed actions)
    rw [searchResult_answer (tidy.run actions) found placed, resultAnswer, settled, kept, known]
    exact ⟨_, rfl, rfl⟩
  same actions unfiled := standing_of_unfiled listed.length_eq unfiled

/-- What comes of the locators with which a search is started. -/
structure KeepsLocators (s : Service) (query locators : String) : Prop where
  /-- They have one form. -/
  canonical : Canonical locators
  /-- Whoever is handed the same search typed the same locators just if it was the same query, and
  so did everybody if neither query holds an at sign, or if no locator does. -/
  merged : ∀ started search, s.startSearch query locators = (started, .ok search) →
    ∀ between again more later,
      (started.run between).startSearch again more = (later, .ok search) →
        (splitLocators more = splitLocators locators ↔ normalize again = normalize query) ∧
          ('@' ∉ (normalize query).toList → '@' ∉ (normalize again).toList →
            splitLocators more = splitLocators locators) ∧
          ((∀ locator ∈ splitLocators locators, '@' ∉ locator.toList) →
            (∀ locator ∈ splitLocators more, '@' ∉ locator.toList) →
            splitLocators more = splitLocators locators)
  /-- A search that is opened asks one backend for each of the locators, and these describe its
  documents until others take their places. -/
  hydrated : s.find? query locators = none →
    ∀ started search, s.startSearch query locators = (started, .ok search) →
      ∃ root tokens backends asked, started.node? (.root search) = some root ∧
        tokenize (normalize query) = .ok tokens ∧ started.asked = s.asked ++ asked ∧
        List.Forall₂ (fun locator backend =>
          started.catalog.backends.find? locator = some backend)
          (splitLocators locators) backends ∧
        Dispatched started.catalog tokens ((splitLocators locators).zip backends) asked root ∧
        started.Hydrates search (splitLocators locators) backends

/-- Starting a search is one action. -/
theorem Tidy.of_startSearch {s started : Service} (tidy : s.Tidy) {query locators : String}
    {answer : Except SearchError Nat} (handed : s.startSearch query locators = (started, answer)) :
    started.Tidy := by
  have after : s.act (.start query locators) = started := congrArg Prod.fst handed
  rw [← after]
  exact tidy.act (.start query locators)

theorem Tidy.keepsLocators {s : Service} (tidy : s.Tidy) (query locators : String) :
    s.KeepsLocators query locators where
  canonical := splitLocators_canonical locators
  merged started search handed between again more later handedAgain := by
    have orderly := (tidy.of_startSearch handed).orderly
    have same := orderly.subject_of_handed (find?_of_startSearch handed) handedAgain
    refine ⟨splitLocators_eq_iff_of_subject same, fun plain plainAgain => ?_,
      fun plain plainMore => ?_⟩
    · exact (canonicalSubject_injective plainAgain plain same).2
    · exact (canonicalSubject_injective_of_locators plainMore plain same).2
  hydrated fresh started search handed := by
    have laterTidy := tidy.of_startSearch handed
    have dispatches := dispatches_startSearch fresh
    rw [handed] at dispatches
    obtain ⟨root, tokens, backends, asked, placed, lexed, listed, record, dispatched⟩ :=
      dispatches.opened search rfl
    exact ⟨root, tokens, backends, asked, placed, lexed, record, listed, dispatched,
      laterTidy.hydrates (filed_of_startSearch fresh handed) listed⟩

/-- **What comes of the locators of a search**, in every run. -/
theorem run_keepsLocators (link : Link) (actions : List Action) (query locators : String) :
    ((start link).run actions).KeepsLocators query locators :=
  ((start_tidy link).run actions).keepsLocators query locators

/-- Whoever answers so knows every document, and all of them by one title. -/
def titled (title uri : String) : Except String (Option Description) :=
  .ok (some ⟨uri, some title, 1, 1⟩)

/-- An index whose holder answers so. -/
def firstHolder : Service := (start ⟨.absent, 1⟩).run [.register "idx" (titled "First")]

theorem startSearch_firstHolder :
    firstHolder.startSearch "cat" "idx" = (firstHolder.act (.start "cat" "idx"), .ok 0) :=
  Prod.ext rfl (by cbv)

theorem run_keepsLocators_firstHolder :
    firstHolder.KeepsLocators "cat" "idx" ∧ firstHolder.find? "cat" "idx" = none ∧
      firstHolder.startSearch "cat" "idx" = (firstHolder.act (.start "cat" "idx"), .ok 0) ∧
      (firstHolder.act (.start "cat" "idx")).Hydrates 0 ["idx"] [.external 0 (titled "First")] := by
  have keeps : firstHolder.KeepsLocators "cat" "idx" :=
    run_keepsLocators ⟨.absent, 1⟩ [.register "idx" (titled "First")] "cat" "idx"
  have fresh : firstHolder.find? "cat" "idx" = none := Registry.find?_empty _
  obtain ⟨_, _, backends, _, _, _, _, listed, _, hydrates⟩ :=
    keeps.hydrated fresh _ _ startSearch_firstHolder
  have located : splitLocators "idx" = ["idx"] := by cbv
  have known : (firstHolder.act (.start "cat" "idx")).catalog.backends.find? "idx" =
      some (.external 0 (titled "First")) := find?_act_of_listed rfl _
  rw [located] at listed hydrates
  obtain ⟨backend, _, first, others, rfl⟩ := List.forall₂_cons_left_iff.1 listed
  rw [List.forall₂_nil_left_iff] at others
  rw [known] at first
  cases first
  cases others
  exact ⟨keeps, fresh, startSearch_firstHolder, hydrates⟩

/-- The holder finds a document, and somebody else takes the holder's place. -/
def replacement : List Action :=
  [.complete 0 "cat" [.ofOffsets "cat" "a" [0]], .register "idx" (titled "Second")]

theorem asked_firstHolder :
    (firstHolder.act (.start "cat" "idx")).asked = [⟨"idx", some 0, "cat"⟩] := by
  cbv

theorem knownBackends_replacement :
    (knownBackends ((firstHolder.act (.start "cat" "idx")).run replacement)
      (splitLocators "idx")).2.map Backend.holder? = [some 1] := by
  cbv

theorem searchResult_replacement :
    (searchResult ((firstHolder.act (.start "cat" "idx")).run replacement)
        (subjectHash "cat@idx") ⟨10, 0⟩).2 =
      .ok (.message 200 (ResultAnswer.encode ⟨"cat@idx", "Done", 1, 1,
        [⟨"a", some "Second", some 1, [0]⟩], none⟩)) := by
  cbv

theorem splitLocators_collider : splitLocators "c" ≠ splitLocators "b@c" := by
  have one : splitLocators "c" = ["c"] := by cbv
  have other : splitLocators "b@c" = ["b@c"] := by cbv
  rw [one, other]
  decide

/-- A query with an at sign is handed the search of other locators, and a document is described by
who was never asked for the search that found it. -/
theorem locators_of_another :
    ((start ⟨.absent, 1⟩).run twoSigns).startSearch "a" "b@c" = (collider, .ok 0) ∧
      collider.startSearch "a@b" "c" = (collider, .ok 0) ∧
      splitLocators "c" ≠ splitLocators "b@c" ∧
      firstHolder.startSearch "cat" "idx" = (firstHolder.act (.start "cat" "idx"), .ok 0) ∧
      (firstHolder.act (.start "cat" "idx")).asked = [⟨"idx", some 0, "cat"⟩] ∧
      (knownBackends ((firstHolder.act (.start "cat" "idx")).run replacement)
        (splitLocators "idx")).2.map Backend.holder? = [some 1] ∧
      (searchResult ((firstHolder.act (.start "cat" "idx")).run replacement)
          (subjectHash "cat@idx") ⟨10, 0⟩).2 =
        .ok (.message 200 (ResultAnswer.encode ⟨"cat@idx", "Done", 1, 1,
          [⟨"a", some "Second", some 1, [0]⟩], none⟩)) :=
  ⟨startSearch_collider, startSearch_of_live find?_collider, splitLocators_collider,
    startSearch_firstHolder, asked_firstHolder, knownBackends_replacement,
    searchResult_replacement⟩

end Service

end Concordance
