/-
# Concordance.Proofs.Pages -- results page by page

Whoever asks for a result is told one page of it: a slice of the entries of one set, in the
order of the documents' names (`resultItems_slice`), each with what the first index that knows
the document says of it (`describeFirst_spec`).  Pages of one length, one after another, are
the whole list (`flatMap_pages`).

The indexes are read off the joined locators of the search.  They are those of the list that
the search was started with, because joining and splitting again changes nothing
(`splitLocators_joinLocators`) and every search that a digest finds was started with such a
list (`Service.FoundFiled`), in every run (`Service.act_foundFiled`).
-/
import Concordance.Proofs.Feeding

namespace Concordance

open Concordance.Data Concordance.Http Concordance.Index Concordance.Query Concordance.Search
open Concordance.Text Concordance.Wire

set_option autoImplicit false

universe u

/-! ## Locators that are split again -/

namespace Query

theorem isLocator_of_splitLocators {raw locator : String} (member : locator ∈ splitLocators raw) :
    IsLocator locator := by
  refine ⟨isPiece_of_splitLocators member, ?_⟩
  obtain ⟨chars, kept, rfl⟩ := List.mem_map.1 member
  obtain ⟨piece, _, rfl⟩ := List.mem_map.1 (List.mem_filter.1 kept).1
  rw [String.toList_ofList]
  exact trimChars_trimmed piece

theorem splitLocators_append (front more : String) :
    splitLocators (front ++ " " ++ more) = splitLocators front ++ splitLocators more := by
  have chars : (front ++ " " ++ more).toList = front.toList ++ ' ' :: more.toList := by
    rw [String.toList_append, String.toList_append, List.append_assoc]
    rfl
  rw [splitLocators, chars, List.splitOnP_append_cons _ _ rfl, List.map_append, List.filter_append,
    List.map_append]
  rfl

/-- **Joined locators are split where they were joined.** -/
theorem splitLocators_joinLocators {locators : List String}
    (areLocators : ∀ l ∈ locators, IsLocator l) :
    splitLocators (joinLocators locators) = locators := by
  induction locators with
  | nil => rfl
  | cons first rest ih =>
      obtain ⟨isLocator, others⟩ := List.forall_mem_cons.1 areLocators
      have alone := splitLocators_eq_singleton_iff.2 isLocator
      by_cases last : rest = []
      · rw [last]
        exact alone
      · rw [joinLocators, String.intercalate_cons_of_ne_nil last, splitLocators_append, alone]
        exact congrArg (first :: ·) (ih others)

end Query

/-! ## Searches that are found by a digest -/

namespace Service

/-- What a digest finds is filed under a query and locators. -/
def FoundFiled (s : Service) : Prop :=
  ∀ hash search, s.registry.findHash? hash = some search →
    ∃ query locators, s.Filed query locators search

/-- An extension in which digests find nothing new finds what is filed. -/
theorem FoundFiled.extends {s later : Service} (filed : s.FoundFiled) (extended : s.Extends later)
    (older : ∀ hash search, later.registry.findHash? hash = some search →
      s.registry.findHash? hash = some search) : later.FoundFiled := by
  intro hash search found
  obtain ⟨query, locators, own⟩ := filed hash search (older hash search found)
  exact ⟨query, locators, own.extends extended⟩

theorem findHash?_of_remove {s : Service} {ref : NodeRef} {hash : UInt64} {search : Nat}
    (found : (s.remove ref).registry.findHash? hash = some search) :
    s.registry.findHash? hash = some search := by
  rcases s.remove_registry_cases ref with ⟨_, same⟩ | ⟨n, _, removed⟩
  · rwa [same] at found
  · rw [removed, Registry.findHash?_remove] at found
    split at found
    · cases found
    · exact found

theorem findHash?_of_result {s : Service} {ref : NodeRef} {hash : UInt64} {search : Nat}
    (found : (s.result ref).1.registry.findHash? hash = some search) :
    s.registry.findHash? hash = some search := by
  rw [result_registry] at found
  split at found
  · exact findHash?_of_remove found
  · exact found

/-- Whatever is started is filed before a digest finds it. -/
theorem startSearch_foundFiled {s : Service} (filed : s.FoundFiled) (query locators : String) :
    (s.startSearch query locators).1.FoundFiled := by
  have extended := startSearch_extends s query locators
  rcases s.startSearch_cases query locators with
    ⟨search, _, started⟩ | ⟨_, later, e, started, _, registry⟩ |
      ⟨fresh, later, root, started, _, registry, _, _⟩
  · rw [started]
    exact filed
  · rw [started] at extended ⊢
    refine filed.extends extended fun hash search found => ?_
    rw [← registry]
    exact found
  · have own := filed_of_startSearch fresh started
    rw [started] at extended ⊢
    intro hash other found
    rw [registry, Registry.findHash?_file] at found
    split at found
    · cases found
      exact ⟨query, locators, own⟩
    · obtain ⟨older, olderLocators, before⟩ := filed hash other found
      exact ⟨older, olderLocators, before.extends extended⟩

/-- **Digests find what is filed**, whatever is done. -/
theorem act_foundFiled {s : Service} (filed : s.FoundFiled) (action : Action) :
    (s.act action).FoundFiled := by
  have extended := act_extends s action
  rcases s.act_registry action with
    same | ⟨query, locators, rfl⟩ | ⟨ref, rfl⟩ | ⟨ref, rfl⟩ | rfl
  · refine filed.extends extended fun hash search found => ?_
    rw [← same]
    exact found
  · exact startSearch_foundFiled filed query locators
  · exact filed.extends extended fun _ _ => findHash?_of_result
  · exact filed.extends extended fun _ _ => findHash?_of_remove
  · intro hash search found
    cases found

theorem through_foundFiled (link : Link) (steps : List Step) :
    (through (start link) steps).FoundFiled := by
  refine (through_reaches (start link) steps).keeps (P := FoundFiled) ?_ ?_
  · exact fun _ action _ filed => act_foundFiled filed action
  · intro hash search found
    cases found

/-! ## What indexes know of a document -/

/-- The index that a locator names describes a document: asked for it, it completes with a
description. -/
def Describes (s : Service) (locator uri : String) (description : Description) : Prop :=
  ∃ lookup, (s.askDocument locator uri).2 = .ok lookup ∧
    lookup.result = .ok (some (some description))

/-- What the first of some locators that describes a document says of it, or nothing if none of them
describes it. -/
def FirstDescribed (s : Service) (locators : List String) (uri : String) :
    Option Description → Prop
  | some description => ∃ before locator after, locators = before ++ locator :: after ∧
      (∀ other ∈ before, ∀ d, ¬ s.Describes other uri d) ∧ s.Describes locator uri description
  | none => ∀ locator ∈ locators, ∀ d, ¬ s.Describes locator uri d

theorem describes_iff {s : Service} {locator : String} {backend : Backend}
    (listed : s.catalog.backends.find? locator = some backend) {uri : String} {d : Description} :
    s.Describes locator uri d ↔ (s.catalog.describe backend uri).result = .ok (some (some d)) := by
  have answer : (s.askDocument locator uri).2 = .ok (s.catalog.describe backend uri) := by
    rw [askDocument, resolve, Catalog.resolve_of_find? listed]
  rw [Describes, answer]
  simp

/-- What is told of a document is what the first index that describes it says. -/
theorem describeFirst_spec {s : Service} {locators : List String} {backends : List Backend}
    (listed : List.Forall₂ (fun locator backend =>
      s.catalog.backends.find? locator = some backend) locators backends) (uri : String) :
    s.FirstDescribed locators uri (describeFirst s.catalog uri backends) := by
  induction listed with
  | nil => exact fun _ member => absurd member List.not_mem_nil
  | @cons locator backend locators backends first others ih =>
      rw [describeFirst]
      split
      · rename_i description answer
        refine ⟨[], locator, locators, rfl, fun _ member => absurd member List.not_mem_nil, ?_⟩
        exact (describes_iff first).2 answer
      · rename_i silent
        have unknown : ∀ d, ¬ s.Describes locator uri d := fun d describes =>
          silent d ((describes_iff first).1 describes)
        generalize describeFirst s.catalog uri backends = found at ih ⊢
        cases found with
        | none => exact List.forall_mem_cons.2 ⟨unknown, ih⟩
        | some description =>
          obtain ⟨before, one, after, rfl, earlier, describes⟩ := ih
          exact ⟨locator :: before, one, after, rfl, List.forall_mem_cons.2 ⟨unknown, earlier⟩,
            describes⟩

/-- Locators that are listed are known as they are listed. -/
theorem knownBackends_of_forall₂ {s : Service} {locators : List String} {backends : List Backend}
    (listed : List.Forall₂ (fun locator backend =>
      s.catalog.backends.find? locator = some backend) locators backends) :
    knownBackends s locators = (s, backends) := by
  induction listed with
  | nil => rfl
  | cons first others ih =>
      rw [knownBackends, resolve, Catalog.resolve_of_find? first]
      dsimp only
      rw [ih]

theorem knownBackends_of_listed {s : Service} {locators : List String}
    (listed : ∀ locator ∈ locators, ∃ backend, s.catalog.backends.find? locator = some backend) :
    ∃ backends, knownBackends s locators = (s, backends) ∧
      List.Forall₂ (fun locator backend => s.catalog.backends.find? locator = some backend)
        locators backends := by
  obtain ⟨backends, resolved⟩ := Catalog.resolveAll_of_find? listed
  have each := Catalog.find?_of_resolveAll resolved
  exact ⟨backends, knownBackends_of_forall₂ each, each⟩

end Service

/-! ## Sets in order -/

namespace Search

namespace ResultSet

theorem uris_ordered (s : ResultSet) : s.uris.Pairwise (· < ·) :=
  List.pairwise_map.2 s.entries.sorted

/-- The entries are listed under their documents' names. -/
theorem map_uri_toList {s : ResultSet} (keyed : s.Keyed) : s.toList.map Entry.uri = s.uris := by
  rw [toList, SortedMap.values, List.map_map, uris, SortedMap.keys]
  refine List.map_congr_left fun pair member => ?_
  exact keyed pair.1 pair.2 ((SortedMap.find?_eq_some_iff _).2 member)

theorem length_toList (s : ResultSet) : s.toList.length = s.size := List.length_map _

end ResultSet

/-- What the lookups of a search combine to is filed under documents' names. -/
theorem Node.combination_keyed {n : Node} {set : ResultSet} (combined : n.combination = some set) :
    set.Keyed := by
  induction n generalizing set with
  | leaf query locator holder lookup memo =>
      obtain ⟨entries, _, rfl⟩ := combination_leaf_eq_some_iff.1 combined
      exact ResultSet.ofEntries_keyed _ entries
  | branch query locators op children memo ih =>
      obtain ⟨sets, each, joined⟩ := combination_branch_eq_some_iff.1 combined
      exact combineSets_keyed joined
        (forall_of_forall₂ each fun child member _ own => ih child member own)

end Search

/-! ## Pages -/

/-- Pages of one length, one after another, are a list up to where they end. -/
theorem flatMap_pages {α : Type u} (items : List α) (length count : Nat) :
    (List.range count).flatMap (fun i => (items.drop (i * length)).take length) =
      items.take (count * length) := by
  induction count with
  | zero => simp
  | succ count ih =>
      rw [List.range_succ, List.flatMap_append, ih, List.flatMap_singleton, Nat.succ_mul,
        List.take_add]

namespace Http

/-- What is told of an entry of a result, when some locators were searched. -/
structure Tells (s : Service) (locators : List String) (entry : Entry) (item : ResultItem) :
    Prop where
  uri : item.uri = entry.uri
  positions : item.positions = entry.positions.toList
  /-- The positions are in order. -/
  ordered : item.positions.Pairwise (· < ·)
  /-- Its title and its size are what the first index that describes the document says; without such
  an index it has neither. -/
  described : ∃ found, s.FirstDescribed locators entry.uri found ∧
    item.title = found.bind Description.title ∧ item.wordCount = found.map Description.wordCount

/-- What is told of a set of entries page by page, when some locators were searched. -/
structure Paged (s : Service) (locators : List String) (set : ResultSet)
    (answer : Page → ResultAnswer) : Prop where
  /-- The size of the whole set is told beside every page. -/
  total : ∀ page, (answer page).totalCount = set.size
  /-- A page tells of its own entries, one by one. -/
  items : ∀ page, List.Forall₂ (Tells s locators)
    ((set.toList.drop page.offset).take page.limit) (answer page).results
  /-- They are those of the documents from the offset on, as many as the limit allows. -/
  uris : ∀ page, (answer page).results.map ResultItem.uri =
    (set.uris.drop page.offset).take page.limit
  /-- The documents are in the order of their names. -/
  ordered : set.uris.Pairwise (· < ·)
  /-- It is as long as it may be, unless the set ends. -/
  length : ∀ page, (answer page).results.length = min page.limit (set.size - page.offset)
  /-- Its own length is told beside it. -/
  count : ∀ page, (answer page).count = (answer page).results.length
  /-- Pages of one length that reach the end are the whole set, one after another. -/
  whole : ∀ length count, set.size ≤ count * length →
    (List.range count).flatMap (fun i =>
      (answer ⟨length, i * length⟩).results.map ResultItem.uri) = set.uris

theorem tells_resultItems {s : Service} {locators : List String} {backends : List Backend}
    (listed : List.Forall₂ (fun locator backend =>
      s.catalog.backends.find? locator = some backend) locators backends)
    (page : Page) (set : ResultSet) :
    List.Forall₂ (Tells s locators) ((set.toList.drop page.offset).take page.limit)
      (resultItems s.catalog backends page set) := by
  rw [resultItems, List.forall₂_map_right_iff]
  refine List.forall₂_same.2 fun entry _ => ⟨rfl, rfl, entry.positions.sorted, ?_⟩
  exact ⟨_, Service.describeFirst_spec listed entry.uri, rfl, rfl⟩

theorem map_uri_resultItems {catalog : Catalog} {backends : List Backend} {set : ResultSet}
    (keyed : set.Keyed) (page : Page) :
    (resultItems catalog backends page set).map ResultItem.uri =
      (set.uris.drop page.offset).take page.limit := by
  rw [resultItems, List.map_map, ← ResultSet.map_uri_toList keyed, ← List.map_drop, ← List.map_take]
  rfl

theorem paged_of_keyed {s : Service} {locators : List String} {backends : List Backend}
    (listed : List.Forall₂ (fun locator backend =>
      s.catalog.backends.find? locator = some backend) locators backends)
    {set : ResultSet} (keyed : set.Keyed) (subject status : String) (error : Option String) :
    Paged s locators set fun page =>
      { subject, status, totalCount := set.size,
        count := (resultItems s.catalog backends page set).length,
        results := resultItems s.catalog backends page set, error } where
  total _ := rfl
  items page := tells_resultItems listed page set
  uris := map_uri_resultItems keyed
  ordered := set.uris_ordered
  length page := by
    rw [(tells_resultItems listed page set).length_eq.symm, List.length_take, List.length_drop,
      ResultSet.length_toList]
  count _ := rfl
  whole length count reaches := by
    simp only [map_uri_resultItems keyed]
    rw [flatMap_pages, List.take_of_length_le]
    rwa [← ResultSet.map_uri_toList keyed, List.length_map, ResultSet.length_toList]

/-- **A result is told page by page.**  Whatever a service has been through, a search that a digest
finds and that is done has one set; whoever asks for a page of it is told that page and nothing
else, with what the first index of the search says of each document. -/
theorem through_paged {link : Link} {steps : List Step} {hash : UInt64} {search : Nat} {root : Node}
    (found : (through (Service.start link) steps).registry.findHash? hash = some search)
    (placed : (through (Service.start link) steps).node? (.root search) = some root)
    (done : root.isDone = .ok true) :
    ∃ query indexes set answer,
      (through (Service.start link) steps).Filed query indexes search ∧
      ((through (Service.start link) steps).result (.root search)).2 = .ok (some set) ∧
      Paged (through (Service.start link) steps) (splitLocators indexes) set answer ∧
      ∀ (r : Request) page, r.method = "GET" → r.demand? = some (.result hash page) →
        (serve (through (Service.start link) steps) r).2 =
          .ok (.message 200 (answer page).encode) := by
  have tidy := through_tidy (Service.start_tidy link) steps
  have filed := Service.through_foundFiled link steps
  generalize through (Service.start link) steps = s at found placed tidy filed ⊢
  obtain ⟨query, indexes, own⟩ := filed hash search found
  have orderly := tidy.at? placed
  obtain ⟨set, settled⟩ := exists_verdict_of_done orderly done
  obtain ⟨backends, known, listed⟩ := Service.knownBackends_of_listed own.listed
  have keyed := Node.combination_keyed (Node.verdict_eq_ok_iff.1 settled).2
  refine ⟨query, indexes, set, _, own, ?_, paged_of_keyed listed keyed root.subject
    Status.done.name none, ?_⟩
  · rw [Service.result_answer placed, orderly.honest.take_answer orderly.sound, settled]
    rfl
  · intro r page method demanded
    have locators : splitLocators root.locators = splitLocators indexes := by
      obtain ⟨other, same, _, joined⟩ := own.root
      rw [placed] at same
      cases same
      rw [joined, splitLocators_joinLocators fun _ => isLocator_of_splitLocators]
    rw [serve_of_get method demanded]
    show (searchResult s hash page).2 = _
    rw [searchResult_answer tidy found placed page, resultAnswer, settled, locators, known]

/-! ## A page of three documents -/

/-- Nearby one document cannot be looked up, and the others are unknown; far away all are known. -/
def twoLibraries : List Step :=
  [.direct (.register "near" fun uri => if uri = "a.txt" then .error "gone" else .ok none),
    .direct (.register "far" fun uri => .ok (some ⟨uri, some "A title", 7, 5⟩)),
    .direct (.start "cat" "near; far"),
    .direct (.complete 0 "cat" [.ofOffsets "cat" "b.txt" [3], .ofOffsets "cat" "a.txt" [5, 1]]),
    .direct (.complete 1 "cat" [.ofOffsets "cat" "c.txt" [2]])]

/-- A request for the second and the third document, by the digest of `cat@near far`. -/
def getSecondPage : Request :=
  ⟨"GET", "/search/9134006564861991449/result?limit=2&offset=1", none, ""⟩

/-- The search for the word in both. -/
def catInBoth : Node :=
  .branch "cat" "near far" .merge
    [.leaf "cat" "near" (some 0) ((Lookup.fresh "cat").complete
        [.ofOffsets "cat" "b.txt" [3], .ofOffsets "cat" "a.txt" [5, 1]]) Memo.fresh,
      .leaf "cat" "far" (some 1) ((Lookup.fresh "cat").complete [.ofOffsets "cat" "c.txt" [2]])
        Memo.fresh] Memo.fresh

theorem demand_getSecondPage :
    getSecondPage.demand? = some (.result (subjectHash "cat@near far") ⟨2, 1⟩) := by
  have target : splitTarget getSecondPage.target =
      ("/search/9134006564861991449/result".toList, "limit=2&offset=1".toList) := by cbv
  have route : Route.ofPath? "/search/9134006564861991449/result".toList =
      some (.searchResult "9134006564861991449".toList) := by decide +kernel
  have hash : pathWord "9134006564861991449".toList = .ok (subjectHash "cat@near far") := by cbv
  have page : readPage "limit=2&offset=1".toList = .ok ⟨2, 1⟩ := by cbv
  rw [Request.demand?_of_route target route rfl, readDemand, hash, page]
  rfl

theorem found_twoLibraries :
    (through (Service.start ⟨.absent, 1⟩) twoLibraries).registry.findHash?
      (subjectHash "cat@near far") = some 0 := by
  cbv

theorem placed_twoLibraries :
    (through (Service.start ⟨.absent, 1⟩) twoLibraries).node? (.root 0) = some catInBoth := by
  rw [catInBoth]
  cbv

theorem result_twoLibraries :
    ((through (Service.start ⟨.absent, 1⟩) twoLibraries).result (.root 0)).2.map
        (Option.map ResultSet.uris) = .ok (some ["a.txt", "b.txt", "c.txt"]) := by
  cbv

theorem through_paged_twoLibraries :
    (through (Service.start ⟨.absent, 1⟩) twoLibraries).registry.findHash?
        (subjectHash "cat@near far") = some 0 ∧
      (through (Service.start ⟨.absent, 1⟩) twoLibraries).node? (.root 0) = some catInBoth ∧
      catInBoth.isDone = .ok true ∧
      ∃ query indexes set answer,
        (through (Service.start ⟨.absent, 1⟩) twoLibraries).Filed query indexes 0 ∧
        ((through (Service.start ⟨.absent, 1⟩) twoLibraries).result (.root 0)).2 =
          .ok (some set) ∧
        Paged (through (Service.start ⟨.absent, 1⟩) twoLibraries) (splitLocators indexes) set
          answer ∧
        (serve (through (Service.start ⟨.absent, 1⟩) twoLibraries) getSecondPage).2 =
          .ok (.message 200 (answer ⟨2, 1⟩).encode) ∧
        (answer ⟨2, 1⟩).results.map ResultItem.uri = ["b.txt", "c.txt"] := by
  refine ⟨found_twoLibraries, placed_twoLibraries, rfl, ?_⟩
  obtain ⟨query, indexes, set, answer, filed, result, paged, served⟩ :=
    through_paged found_twoLibraries placed_twoLibraries rfl
  have documents : set.uris = ["a.txt", "b.txt", "c.txt"] := by
    have known := result_twoLibraries
    rw [result] at known
    exact Option.some.inj (Except.ok.inj known)
  refine ⟨query, indexes, set, answer, filed, result, paged,
    served getSecondPage ⟨2, 1⟩ rfl demand_getSecondPage, ?_⟩
  rw [paged.uris, documents]
  rfl

end Http

end Concordance
