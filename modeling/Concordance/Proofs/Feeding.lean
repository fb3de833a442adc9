/-
# Concordance.Proofs.Feeding -- indexes that are fed, and indexes that are searched

Whoever posts a document names its index by a piece of a path, which may be any text,
and whoever starts a search names it in a list of locators, which ends at every space
and semicolon and is trimmed.  So not every index that can be fed can be searched, but
just those whose names are locators (`splitLocators_eq_singleton_iff`), as the names
are of all indexes that are created from a specification (`isLocator_of_ofString?`).

Whatever a service does to its catalog is a call or resolves locators
(`act_catalog_cases`), and so the tables agree: the name of an index that was fed is
resolved to this index as long as nobody else registers under it (`Fed`).
-/
import Concordance.Options.IndexSpec
import Concordance.Proofs.Collecting
import Concordance.Proofs.Listings

namespace Concordance

open Concordance.Data Concordance.Index Concordance.Net Concordance.Query Concordance.Search
open Concordance.Text Concordance.Wire

set_option autoImplicit false

/-! ## Names that are locators -/

theorem Text.trimChars_eq_self_iff {s : List Char} : trimChars s = s ↔ Trimmed s := by
  constructor
  · intro same
    rw [← same]
    exact trimChars_trimmed s
  · intro trimmed
    have front : s.dropWhile isBlank = s := by
      rw [List.dropWhile_eq_self_iff]
      intro some
      rw [trimmed.head _ (List.head?_eq_getElem? ▸ List.getElem?_eq_getElem some)]
      exact Bool.false_ne_true
    have back : s.rdropWhile isBlank = s := by
      rw [List.rdropWhile_eq_self_iff]
      intro some
      rw [trimmed.last _ (List.getLast?_eq_some_getLast some)]
      exact Bool.false_ne_true
    rw [trimChars_eq, front, back]

namespace Query

/-- A name that stands for itself in a list of locators. -/
structure IsLocator (name : String) : Prop extends IsPiece name where
  trimmed : Trimmed name.toList

/-- A name without breaks is trimmed, and that is all. -/
theorem splitLocators_of_unbroken {name : String}
    (unbroken : ∀ c ∈ name.toList, isLocatorBreak c = false) :
    splitLocators name = if trim name = "" then [] else [trim name] := by
  rw [splitLocators, List.splitOnP_eq_singleton unbroken, trim, List.map_singleton,
    List.filter_singleton]
  rcases trimChars name.toList with _ | ⟨c, rest⟩
  · rfl
  · rw [if_neg]
    · rfl
    · simp

theorem splitLocators_eq_singleton_iff {name : String} :
    splitLocators name = [name] ↔ IsLocator name := by
  constructor
  · intro alone
    have piece : IsPiece name := isPiece_of_splitLocators (alone ▸ List.mem_singleton_self name)
    rw [splitLocators_of_unbroken piece.unbroken] at alone
    split at alone
    · cases alone
    · refine ⟨piece, trimChars_eq_self_iff.1 (String.ofList_injective ?_)⟩
      rw [String.ofList_toList]
      exact (List.cons.inj alone).1
  · intro locator
    have same : trim name = name := by
      rw [trim, trimChars_eq_self_iff.2 locator.trimmed, String.ofList_toList]
    rw [splitLocators_of_unbroken locator.unbroken, same, if_neg]
    rintro rfl
    exact locator.some rfl

end Query

/-- The names of specifications are locators. -/
theorem IndexSpec.isLocator_of_ofString? {text : String} {spec : IndexSpec}
    (read : IndexSpec.ofString? text = .ok spec) : IsLocator spec.name := by
  unfold IndexSpec.ofString? at read
  generalize splitOnce '=' text.toList = cut at read
  obtain ⟨before, (_ | after)⟩ := cut
  · cases read
  · simp only at read
    split_ifs at read with misnamed
    cases read
    rw [Bool.not_eq_true', Bool.not_eq_false, isIndexName, Bool.and_eq_true,
      List.all_eq_true] at misnamed
    refine ⟨⟨?_, ?_⟩, ?_⟩ <;> rw [String.toList_ofList]
    · simpa using misnamed.1
    · intro c inside
      have allowed := misnamed.2 c inside
      rw [decide_eq_true_eq] at allowed
      simp [isLocatorBreak, allowed.1, allowed.2.1]
    · exact trimChars_trimmed before

/-! ## Names of indexes of one's own -/

/-- A document that is added is described as whoever adds it is told. -/
theorem Index.Memory.description?_add (index : Memory) (uri : String) (title : Option String)
    (text : String) :
    (index.add uri title text).1.description? uri = some (index.add uri title text).2 := by
  rw [Memory.add, Memory.description?]
  exact (SortedMap.find?_insert ..).trans (if_pos rfl)

namespace Index.Catalog

/-- An index of that name, if there is one, is what the name is listed as. -/
def ListsOwn (c : Catalog) (name : String) : Prop :=
  ∀ index, c.local? name = some index → c.backends.find? name = some (.held name)

variable {c : Catalog} {name : String}

/-- Only who registers under the name of an index changes what it is listed as. -/
theorem ListsOwn.step (own : c.ListsOwn name) (call : Call)
    (spared : call.registers? name = none) : (c.step call).ListsOwn name := by
  intro index held
  rcases before : c.local? name with _ | old
  · exact (step_of_missing before held).2
  · rw [find?_step_of_local? before (own old before) call, spared]
    rfl

theorem ListsOwn.resolveAll (own : c.ListsOwn name) (locators : List String) :
    (c.resolveAll locators).1.ListsOwn name := by
  induction locators generalizing c with
  | nil => exact own
  | cons locator rest ih =>
      have first := own.step (.resolve locator) rfl
      rw [Catalog.step] at first
      rw [Catalog.resolveAll]
      rcases resolved : c.resolve locator with e | ⟨later, backend⟩
      · exact own
      · rw [resolved] at first
        exact ih first

end Index.Catalog

namespace Service

variable {s : Service} {name : String}

theorem resolve_catalog (s : Service) (locator : String) :
    (s.resolve locator).1.catalog = (s.catalog.resolveAll [locator]).1 := by
  rw [Service.resolve, Catalog.resolveAll]
  rcases s.catalog.resolve locator with e | ⟨later, backend⟩ <;> rfl

theorem parse_catalog_cases (s : Service) (query locators : String) :
    (s.parse query locators).1.catalog = s.catalog ∨
      (s.parse query locators).1.catalog = (s.catalog.resolveAll (splitLocators locators)).1 := by
  rw [Service.parse, openSearch_catalog]
  exact openSearch_catalog_cases s.catalog (normalize query) (splitLocators locators)

/-- The call that an action makes to the catalog, but for the locators that it resolves. -/
def Action.call? (s : Service) : Action → Option Catalog.Call
  | .register locator describe => some (.register locator (.external s.holders describe))
  | .create name => some (.create name)
  | .addDocument name uri title text => some (.addDocument name uri title text)
  | .removeDocument name uri => some (.removeDocument name uri)
  | _ => none

/-- **What an action does to the catalog**: a single call, or it resolves some locators. -/
theorem act_catalog_cases (s : Service) (action : Action) :
    (∃ call, action.call? s = some call ∧ (s.act action).catalog = s.catalog.step call) ∨
      (action.call? s = none ∧
        ∃ locators, (s.act action).catalog = (s.catalog.resolveAll locators).1) := by
  have idle {later : Service} (same : later.catalog = s.catalog) :
      ∃ locators, later.catalog = (s.catalog.resolveAll locators).1 := ⟨[], same⟩
  have resolves {later : Service} (query locators : String)
      (same : later.catalog = (s.parse query locators).1.catalog) :
      ∃ locators, later.catalog = (s.catalog.resolveAll locators).1 := by
    rcases parse_catalog_cases s query locators with before | after
    · exact idle (same.trans before)
    · exact ⟨splitLocators locators, same.trans after⟩
  cases action with
  | register | create | addDocument | removeDocument => exact Or.inl ⟨_, rfl, rfl⟩
  | resolve locator => exact Or.inr ⟨rfl, [locator], by rw [act, resolve_catalog]⟩
  | askTerm locator term =>
      exact Or.inr ⟨rfl, [locator], by rw [act, askTerm_catalog, resolve_catalog]⟩
  | askDocument locator uri =>
      exact Or.inr ⟨rfl, [locator], by rw [act, askDocument_fst, resolve_catalog]⟩
  | parse query locators => exact Or.inr ⟨rfl, resolves query locators (by rw [act])⟩
  | start query locators =>
      refine Or.inr ⟨rfl, ?_⟩
      rcases startSearch_fst_cases s query locators with same | ⟨registry, same⟩
      · exact idle (by rw [act, same])
      · exact resolves query locators (by rw [act, same])
  | result ref => exact Or.inr ⟨rfl, idle (by rw [act, result_catalog])⟩
  | remove ref => exact Or.inr ⟨rfl, idle (by rw [act, remove_catalog])⟩
  | _ => exact Or.inr ⟨rfl, idle rfl⟩

/-- Only an action that registers under the name of an index changes what it is listed as. -/
theorem listsOwn_act (own : s.catalog.ListsOwn name) {action : Action}
    (spared : action.registeredName? ≠ some name) : (s.act action).catalog.ListsOwn name := by
  rcases s.act_catalog_cases action with ⟨call, made, same⟩ | ⟨_, locators, same⟩
  · rw [same]
    refine own.step call ?_
    cases action with
    | register locator describe =>
        cases made
        rw [Catalog.Call.registers?, if_neg]
        rintro rfl
        exact spared rfl
    | create | addDocument | removeDocument =>
        cases made
        rfl
    | _ => cases made
  · rw [same]
    exact own.resolveAll locators

end Service

namespace Http

/-! ## Documents that are posted -/

theorem listsOwn_through {s : Service} {name : String} (own : s.catalog.ListsOwn name)
    {steps : List Step} (spared : ∀ step ∈ steps, step.registeredName? ≠ some name) :
    (through s steps).catalog.ListsOwn name := by
  refine (through_reaches s steps).keeps (P := fun s => s.catalog.ListsOwn name) ?_ own
  rintro now action ⟨step, member, allowed⟩ own
  exact Service.listsOwn_act own fun registered =>
    spared step member (allowed.registers name registered)

/-- What comes of posting a document to an index: what is done and answered, and what the index
holds then. -/
structure Fed (served : Service × Except Fault Answer) (index : String) (m : AddRequest)
    (memory : Memory) : Prop where
  held : served.1.catalog.local? index = some memory
  /-- The answer describes the document as the index does. -/
  described : ∃ entry, memory.description? (trim m.uri) = some entry ∧
    served.2 = .ok (.message 201 (AddAnswer.encode ⟨index, entry, memory.documentCount⟩))
  /-- The document is one of those whose words the index holds. -/
  mirrors : ∃ documents, memory.Mirrors documents ∧
    documents (trim m.uri) = some ⟨m.title, m.text⟩
  /-- Its name is resolved to it. -/
  resolved : served.1.catalog.resolve index = .ok (served.1.catalog, .held index)
  /-- Its name stands for itself in a list of locators just if it is a locator. -/
  located : splitLocators index = [index] ↔ IsLocator index
  /-- Then the name addresses this index alone, -/
  addressed : IsLocator index → served.1.catalog.resolveAll (splitLocators index) =
    (served.1.catalog, .ok [.held index])
  /-- and a search of it finds the documents that satisfy it. -/
  searched : IsLocator index → ∀ documents, memory.Mirrors documents →
    (∀ uri d, documents uri = some d → (textWords d.text).length < UInt32.size) →
    ∀ raw tokens p, tokenize (normalize raw) = .ok tokens → plan (normalize raw) tokens = .ok p →
      served.1.find? raw index = none →
        ∃ started search set, served.1.startSearch raw index = (started, .ok search) ∧
          (∀ actions, ((started.run actions).result (.root search)).2 = .ok (some set)) ∧
          ∀ uri, set.contains uri = true ↔ ∃ d, documents uri = some d ∧
            Wanted id (fun t => t.HoldsIn (textWords d.text)) tokens

theorem addDocument_of_named {s : Service} {index : String} {m : AddRequest}
    (named : (trim m.uri).isEmpty = false) {memory : Memory} {entry : Description}
    (added : (s.catalog.localIndex index).add (trim m.uri) m.title m.text = (memory, entry)) :
    addDocument s index m = ({ s with catalog := s.catalog.putLocal index memory },
      .message 201 (AddAnswer.encode ⟨index, entry, memory.documentCount⟩)) := by
  have held : (s.catalog.putLocal index memory).localIndex index = memory := by
    rw [Catalog.localIndex, Catalog.local?_putLocal, if_pos rfl]
    rfl
  rw [addDocument, named, Catalog.addDocument, added]
  dsimp only
  rw [if_neg Bool.false_ne_true, held]

/-- A document is added to an index that mirrors some others, under a name of its own. -/
theorem fed_of_listsOwn {s : Service} {index : String} {m : AddRequest}
    {documents : String → Option Document} (own : s.catalog.ListsOwn index)
    (mirrors : (s.catalog.localIndex index).Mirrors documents)
    (named : (trim m.uri).isEmpty = false) :
    Fed ((addDocument s index m).1, .ok (addDocument s index m).2) index m
      ((s.catalog.localIndex index).add (trim m.uri) m.title m.text).1 := by
  have described := (s.catalog.localIndex index).description?_add (trim m.uri) m.title m.text
  have both := mirrors.add (trim m.uri) m.title m.text
  have later := own.step (.addDocument index (trim m.uri) m.title m.text) rfl
  rw [Catalog.step, Catalog.addDocument] at later
  rcases added : (s.catalog.localIndex index).add (trim m.uri) m.title m.text with ⟨memory, entry⟩
  rw [added] at described both later
  rw [addDocument_of_named named added]
  have held : (s.catalog.putLocal index memory).local? index = some memory :=
    (Catalog.local?_putLocal ..).trans (if_pos rfl)
  have listed := later memory held
  have resolved := Catalog.resolve_of_find? listed
  exact {
    held
    described := ⟨entry, described, rfl⟩
    mirrors := ⟨_, both, by rw [Change.onDocuments_add, if_pos rfl]⟩
    resolved
    located := splitLocators_eq_singleton_iff
    addressed := fun locator => by
      rw [splitLocators_eq_singleton_iff.2 locator, Catalog.resolveAll, resolved]
      rfl
    searched := fun locator documents mirrors short raw tokens p lexed planned fresh => by
      refine startSearch_of_mirrors ?_ listed short (splitLocators_eq_singleton_iff.2 locator)
        lexed planned fresh
      rw [Catalog.localIndex, held]
      exact mirrors }

/-- Posts a document to an index. -/
structure Request.Posts (r : Request) (index : String) (m : AddRequest) : Prop where
  method : r.method = "POST"
  demand : r.demand? = some (.add index m)

/-- Only a document with a name is accepted. -/
theorem named_of_accepted {s : Service} {index : String} {m : AddRequest}
    (accepted : (addDocument s index m).2.status = 201) : (trim m.uri).isEmpty = false := by
  rw [← Bool.not_eq_true]
  intro blank
  rw [addDocument, blank] at accepted
  cases accepted

/-- **What comes of posting a document.**  Whatever happened before, if the document is accepted and
nobody ever registered under the name of its index, the name is resolved to this index, and can be
used to search it just if it is a locator. -/
theorem through_fed {link : Link} {steps : List Step} {r : Request} {index : String}
    {m : AddRequest} (posts : r.Posts index m)
    (spared : ∀ step ∈ steps, step.registeredName? ≠ some index)
    (accepted : answeredWith (through (Service.start link) steps) r = some 201) :
    ∃ memory, Fed (serve (through (Service.start link) steps) r) index m memory := by
  obtain ⟨actions, _, same⟩ := through_reaches (Service.start link) steps
  have own : (through (Service.start link) steps).catalog.ListsOwn index :=
    listsOwn_through (fun _ held => by cases held) spared
  have mirrors : ((through (Service.start link) steps).catalog.localIndex index).Mirrors
      (stored (Service.history index actions)) := by
    rw [same, Service.localIndex_run]
    exact Memory.mirrors_after _
  have served := serve_of_whole (s := through (Service.start link) steps)
    (by rw [posts.method]; decide) posts.demand
  rw [answeredWith, served] at accepted
  rw [served]
  exact ⟨_, fed_of_listsOwn own mirrors (named_of_accepted (Option.some.inj accepted))⟩

/-- A request to add a document of one word to an index, whose name is written that way in a path. -/
def postWord (name : String) : Request :=
  ⟨"POST", "/index/" ++ name ++ "/documents", some "application/json",
    "\x7b\"uri\": \"x\", \"text\": \"cat\"\x7d"⟩

theorem demand_postWord {name : String} {path index : List Char}
    (target : splitTarget (postWord name).target = (path, []))
    (route : Route.ofPath? path = some (.addDocument index)) :
    (postWord name).demand? =
      ((pathText index).toOption.map fun index => .add index ⟨"x", none, "cat"⟩) := by
  have body : readBody AddRequest.decode (postWord name) = .ok ⟨"x", none, "cat"⟩ := by
    unfold readBody postWord
    cbv
  rw [Request.demand?_of_route target route rfl, readDemand, body]
  rcases pathText index with rejection | text <;> rfl

theorem posts_books : (postWord "books").Posts "books" ⟨"x", none, "cat"⟩ := by
  have target : splitTarget (postWord "books").target = ("/index/books/documents".toList, []) := by
    cbv
  have route : Route.ofPath? "/index/books/documents".toList =
      some (.addDocument "books".toList) := by decide +kernel
  refine ⟨rfl, ?_⟩
  rw [demand_postWord target route]
  cbv

theorem posts_spaced : (postWord "a%20b").Posts "a b" ⟨"x", none, "cat"⟩ := by
  have target : splitTarget (postWord "a%20b").target = ("/index/a%20b/documents".toList, []) := by
    cbv
  have route : Route.ofPath? "/index/a%20b/documents".toList =
      some (.addDocument "a%20b".toList) := by decide +kernel
  refine ⟨rfl, ?_⟩
  rw [demand_postWord target route]
  cbv

/-- Somebody else registers under another name. -/
def furnished : List Step := [.direct (.register "films" fun _ => .ok none)]

/-- A document that is named is accepted. -/
theorem accepted_of_named {s : Service} {r : Request} {index : String} {m : AddRequest}
    (posts : r.Posts index m) (named : (trim m.uri).isEmpty = false) :
    answeredWith s r = some 201 := by
  rw [answeredWith, serve_of_whole (by rw [posts.method]; decide) posts.demand]
  show some (addDocument s index m).2.status = some 201
  rw [addDocument, named]
  rfl

theorem through_fed_books :
    (postWord "books").Posts "books" ⟨"x", none, "cat"⟩ ∧
      (∀ step ∈ furnished, step.registeredName? ≠ some "books") ∧
      answeredWith (through (Service.start ⟨.absent, 1⟩) furnished) (postWord "books") = some 201 ∧
      IsLocator "books" ∧
      ∃ memory, Fed (serve (through (Service.start ⟨.absent, 1⟩) furnished) (postWord "books"))
        "books" ⟨"x", none, "cat"⟩ memory := by
  have spared : ∀ step ∈ furnished, step.registeredName? ≠ some "books" := by
    rw [furnished, List.forall_mem_singleton, Step.registeredName?,
      Service.Action.registeredName?]
    decide
  have accepted : answeredWith (through (Service.start ⟨.absent, 1⟩) furnished)
      (postWord "books") = some 201 := accepted_of_named posts_books (by cbv)
  exact ⟨posts_books, spared, accepted, splitLocators_eq_singleton_iff.1 (by cbv),
    through_fed posts_books spared accepted⟩

/-- Whoever searches in an index that is not listed is told so. -/
theorem startSearch_of_unlisted {s : Service} {query locators locator : String}
    {rest : List String} (fresh : s.find? query locators = none)
    (some : (normalize query).isEmpty = false) (located : splitLocators locators = locator :: rest)
    (unlisted : s.catalog.resolve locator = .error (.unlisted locator)) :
    (s.startSearch query locators).2 = .error (.unknownIndex (.unlisted locator)) := by
  rw [Service.startSearch_of_fresh fresh, Service.parse, located]
  refine Service.openSearch_of_refused ?_
  rw [openSearch, some, Catalog.resolveAll, unlisted]
  rfl

/-- The index `a b` is fed, but whoever searches it is told that there is no index `a`. -/
theorem fed_not_searched :
    (postWord "a%20b").Posts "a b" ⟨"x", none, "cat"⟩ ∧
      answeredWith (Service.start ⟨.absent, 1⟩) (postWord "a%20b") = some 201 ∧
      splitLocators "a b" = ["a", "b"] ∧
      ((serve (Service.start ⟨.absent, 1⟩) (postWord "a%20b")).1.startSearch "cat" "a b").2 =
        .error (.unknownIndex (.unlisted "a")) := by
  have served := serve_of_whole (s := Service.start ⟨.absent, 1⟩)
    (by rw [posts_spaced.method]; decide) posts_spaced.demand
  have located : splitLocators "a b" = ["a", "b"] := by cbv
  refine ⟨posts_spaced, accepted_of_named posts_spaced (by cbv), located, ?_⟩
  rw [served]
  refine startSearch_of_unlisted ?_ (by cbv) located ?_
  · rw [meet, addDocument_fst]
    rfl
  · rw [meet, addDocument_fst]
    rfl

end Http

end Concordance
