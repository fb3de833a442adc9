/-
# Concordance.Proofs.Identity -- which search a caller is handed

A live search is known by its subject alone, and the subject is only the query, an at
sign and the locators one after another.  No query with an at sign can be read, so of
two queries that can, the first at sign of the subject tells where the query ends
(`canonicalSubject_injective`).  A live search is `Filed` under a query that can be
planned and locators that name indexes, and it is a search for just these; every
action keeps this up (`act_wellFiled`), so every run does (`run_wellFiled`).

`HandsOut` is what follows.  A query without an at sign is handed its own search, and is
refused exactly when it would be refused without any live search.  A query with an at
sign can never be read, yet it is handed whatever search is filed under what it
concatenates to, which is another one: `a@b` in `c` is handed the search for `a` in
`b@c`.
-/
import Concordance.Proofs.Runs
import Concordance.Proofs.Words
import Mathlib

namespace Concordance

open Concordance.Data Concordance.Index Concordance.Query Concordance.Search Concordance.Text

set_option autoImplicit false

/-! ## Names -/

namespace Query

/-- A locator as it stands between two breaks. -/
structure IsPiece (locator : String) : Prop where
  some : locator.toList ≠ []
  unbroken : ∀ c ∈ locator.toList, isLocatorBreak c = false

theorem isPiece_of_splitLocators {raw locator : String} (member : locator ∈ splitLocators raw) :
    IsPiece locator := by
  obtain ⟨chars, kept, rfl⟩ := List.mem_map.1 member
  obtain ⟨trimmed, notEmpty⟩ := List.mem_filter.1 kept
  obtain ⟨piece, isPiece, rfl⟩ := List.mem_map.1 trimmed
  constructor
  · simpa using notEmpty
  · intro c inside
    rw [String.toList_ofList] at inside
    exact (cut_of_mem_splitOnP isPiece).1 c (trimChars_subset piece inside)

/-- Joined locators can be told apart again. -/
theorem splitOn_joinLocators {locators : List String} (pieces : ∀ l ∈ locators, IsPiece l)
    (some : locators ≠ []) :
    (joinLocators locators).toList.splitOn ' ' = locators.map String.toList := by
  rw [joinLocators, String.toList_intercalate]
  refine List.splitOn_intercalate ' ' ?_ (by simpa using some)
  intro chars member
  obtain ⟨locator, isOne, rfl⟩ := List.mem_map.1 member
  intro space
  have unbroken := (pieces locator isOne).unbroken ' ' space
  revert unbroken
  decide

theorem joinLocators_ne_empty {locators : List String} (pieces : ∀ l ∈ locators, IsPiece l)
    (some : locators ≠ []) : joinLocators locators ≠ joinLocators [] := by
  intro same
  have split := splitOn_joinLocators pieces some
  rw [same] at split
  have single : locators.map String.toList = [[]] := split.symm.trans rfl
  obtain ⟨first, rest, rfl⟩ := List.exists_cons_of_ne_nil some
  rw [List.map_cons, List.cons.injEq] at single
  exact (pieces first List.mem_cons_self).some single.1

theorem joinLocators_injective {first second : List String} (pieces : ∀ l ∈ first, IsPiece l)
    (more : ∀ l ∈ second, IsPiece l) (same : joinLocators first = joinLocators second) :
    first = second := by
  by_cases none : first = []
  · by_cases noMore : second = []
    · rw [none, noMore]
    · rw [none] at same
      exact absurd same.symm (joinLocators_ne_empty more noMore)
  · by_cases noMore : second = []
    · rw [noMore] at same
      exact absurd same (joinLocators_ne_empty pieces none)
    · have split := splitOn_joinLocators pieces none
      rw [same, splitOn_joinLocators more noMore] at split
      exact (List.map_injective_iff.2 (fun _ _ => String.toList_inj.1) split).symm

/-- A text is cut in one way at a separator before which it holds a given number of them. -/
theorem append_cons_inj_of_count {sep : Char} {front other rest more : List Char}
    (counts : front.count sep = other.count sep) (same : front ++ sep :: rest = other ++ sep :: more) :
    front = other ∧ rest = more := by
  rcases List.append_eq_append_iff.1 same with ⟨between, longer, behind⟩ | ⟨between, longer, behind⟩
  all_goals
    rcases between with _ | ⟨first, between⟩
    · simp_all
    · obtain ⟨rfl, -⟩ := List.cons.inj behind
      rw [longer, List.count_append, List.count_cons_self] at counts
      omega

/-- A subject tells both of its parts, if it is known how many at signs the query holds. -/
theorem subject_injective {query other locators more : String}
    (signs : query.toList.count '@' = other.toList.count '@')
    (same : subject query locators = subject other more) : query = other ∧ locators = more := by
  have chars := congrArg String.toList same
  unfold subject at chars
  simp only [String.toList_append, List.append_assoc] at chars
  obtain ⟨sameQuery, sameLocators⟩ := append_cons_inj_of_count signs chars
  exact ⟨String.toList_inj.1 sameQuery, String.toList_inj.1 sameLocators⟩

/-- Joined locators hold at signs only where a locator does. -/
theorem at_notMem_joinLocators {locators : List String} (plain : ∀ l ∈ locators, '@' ∉ l.toList) :
    '@' ∉ (joinLocators locators).toList := by
  rw [joinLocators, String.toList_intercalate]
  induction locators with
  | nil => simp
  | cons first rest ih =>
      obtain ⟨here, behind⟩ := List.forall_mem_cons.1 plain
      cases rest with
      | nil => simpa using here
      | cons next more =>
          rw [List.map_cons, List.map_cons, List.intercalate_cons_cons]
          simpa [here] using ih behind

/-- Queries with equally many at signs are told apart by the names of their searches, and so are
the locators. -/
theorem canonicalSubject_injective_of_count {query other locators more : String}
    (signs : (normalize query).toList.count '@' = (normalize other).toList.count '@')
    (same : canonicalSubject query locators = canonicalSubject other more) :
    normalize query = normalize other ∧ splitLocators locators = splitLocators more := by
  obtain ⟨sameQuery, sameLocators⟩ := subject_injective signs same
  refine ⟨sameQuery, joinLocators_injective ?_ ?_ sameLocators⟩
  · exact fun _ => isPiece_of_splitLocators
  · exact fun _ => isPiece_of_splitLocators

/-- **Plain queries have names of their own.** -/
theorem canonicalSubject_injective {query other locators more : String}
    (plain : '@' ∉ (normalize query).toList) (plainOther : '@' ∉ (normalize other).toList)
    (same : canonicalSubject query locators = canonicalSubject other more) :
    normalize query = normalize other ∧ splitLocators locators = splitLocators more :=
  canonicalSubject_injective_of_count
    ((List.count_eq_zero.2 plain).trans (List.count_eq_zero.2 plainOther).symm) same

/-- **Plain locators do not let two queries share a name**, whatever the queries hold. -/
theorem canonicalSubject_injective_of_locators {query other locators more : String}
    (plain : ∀ l ∈ splitLocators locators, '@' ∉ l.toList)
    (plainOther : ∀ l ∈ splitLocators more, '@' ∉ l.toList)
    (same : canonicalSubject query locators = canonicalSubject other more) :
    normalize query = normalize other ∧ splitLocators locators = splitLocators more := by
  have none := List.count_eq_zero.2 (at_notMem_joinLocators plain)
  have noneOther := List.count_eq_zero.2 (at_notMem_joinLocators plainOther)
  have signs := congrArg (fun name => name.toList.count '@') same
  simp only [canonicalSubject, subject, String.toList_append, List.count_append, none, noneOther]
    at signs
  exact canonicalSubject_injective_of_count (by omega) same
/-- What can be planned holds no at sign. -/
theorem at_notMem_of_planQuery {query : String} {p : Plan} (planned : planQuery query = .ok p) :
    '@' ∉ query.toList := by
  obtain ⟨tokens, lexed, _⟩ := planQuery_eq_ok_iff.1 planned
  exact at_notMem_of_tokenize lexed

end Query

namespace Service

/-! ## What is filed -/

/-- A live search is one for the query and the locators under which it is filed. -/
structure Filed (s : Service) (query locators : String) (search : Nat) : Prop where
  /-- It is a search for just these. -/
  root : ∃ root, s.node? (.root search) = some root ∧ root.query = normalize query ∧
    root.locators = joinLocators (splitLocators locators)
  /-- The query can be planned. -/
  planned : ∃ p, planQuery (normalize query) = .ok p
  /-- There are locators. -/
  named : splitLocators locators ≠ []
  /-- They name indexes. -/
  listed : ∀ locator ∈ splitLocators locators,
    ∃ backend, s.catalog.backends.find? locator = some backend

/-- Every live search is filed under its own name. -/
def WellFiled (s : Service) : Prop :=
  ∀ subject search, s.registry.find? subject = some search →
    ∃ query locators, subject = canonicalSubject query locators ∧ s.Filed query locators search

/-- What is filed stays filed. -/
theorem Filed.extends {s later : Service} {query locators : String} {search : Nat}
    (filed : s.Filed query locators search) (extended : s.Extends later) :
    later.Filed query locators search where
  root := by
    obtain ⟨root, found, sameQuery, sameLocators⟩ := filed.root
    obtain ⟨next, foundNext, becomes⟩ := extended.searches search root found
    refine ⟨next, foundNext, ?_, ?_⟩
    · rw [Node.query_eq_of_shape becomes.shape, sameQuery]
    · rw [becomes.locators, sameLocators]
  planned := filed.planned
  named := filed.named
  listed locator member := extended.grows locator (filed.listed locator member)

/-- An extension that files nothing new is as well filed as before. -/
theorem wellFiled_of_find? {s later : Service} (wellFiled : s.WellFiled)
    (extended : s.Extends later)
    (older : ∀ subject search, later.registry.find? subject = some search →
      s.registry.find? subject = some search) : later.WellFiled := by
  intro subject search live
  obtain ⟨query, locators, same, filed⟩ := wellFiled subject search (older subject search live)
  exact ⟨query, locators, same, filed.extends extended⟩

theorem parse_registry (s : Service) (query locators : String) :
    (s.parse query locators).1.registry = s.registry := by
  unfold Service.parse
  exact openSearch_registry s (normalize query) (splitLocators locators)

/-- Removing a node takes it out of the registry, if it is there. -/
theorem remove_registry_cases (s : Service) (ref : NodeRef) :
    (s.node? ref = none ∧ (s.remove ref).registry = s.registry) ∨
      ∃ n, s.node? ref = some n ∧
        (s.remove ref).registry = s.registry.remove n.subject n.hash ref := by
  unfold Service.remove
  cases s.node? ref with
  | none => exact Or.inl ⟨rfl, rfl⟩
  | some n => exact Or.inr ⟨n, rfl, rfl⟩

theorem result_registry (s : Service) (ref : NodeRef) :
    (s.result ref).1.registry =
      if (s.node? ref).any Node.isCollectable then (s.remove ref).registry else s.registry := by
  unfold Service.result
  rcases s.node? ref with _ | n
  · rfl
  · show (if n.isCollectable then s.remove ref else s).registry = _
    rw [Option.any_some]
    split <;> rfl

/-- Taking a node out files nothing. -/
theorem find?_of_remove {s : Service} {ref : NodeRef} {subject : String} {search : Nat}
    (live : (s.remove ref).registry.find? subject = some search) :
    s.registry.find? subject = some search := by
  rcases s.remove_registry_cases ref with ⟨_, same⟩ | ⟨n, _, removed⟩
  · rwa [same] at live
  · rw [removed, Registry.find?_remove] at live
    split at live
    · cases live
    · exact live

theorem find?_of_result {s : Service} {ref : NodeRef} {subject : String} {search : Nat}
    (live : (s.result ref).1.registry.find? subject = some search) :
    s.registry.find? subject = some search := by
  rw [result_registry] at live
  split at live
  · exact find?_of_remove live
  · exact live

/-! ## Starting -/

theorem openSearch_of_refused {s : Service} {query : String} {locators : List String}
    {e : SearchError} (refused : (Search.openSearch s.catalog query locators).search = .error e) :
    (s.openSearch query locators).2 = .error e := by
  unfold Service.openSearch
  dsimp only
  rw [refused]

/-- What is opened is for its query and its locators, and could be filed. -/
theorem filed_of_parse {s later : Service} {query locators : String} {search : Nat}
    (parsed : s.parse query locators = (later, .ok search)) :
    later.Filed query locators search := by
  unfold Service.parse at parsed
  cases opened : (Search.openSearch s.catalog (normalize query) (splitLocators locators)).search with
  | error e =>
      have refused := openSearch_of_refused opened
      rw [parsed] at refused
      cases refused
  | ok root =>
      obtain ⟨after, opens, found, catalog, _⟩ := openSearch_of_opened opened
      have same : (later, Except.ok search) = (after, .ok s.searches.size) := parsed.symm.trans opens
      cases same
      obtain ⟨p, resolvedTo, backends, planned, named, resolved, rfl⟩ :=
        openSearch_eq_ok_iff.1 opened
      have cut : ((splitLocators locators).zip backends).map Prod.fst = splitLocators locators :=
        List.map_fst_zip (resolveAll_length resolved).ge
      rw [openSearch_of_planned planned named resolved] at catalog
      refine ⟨⟨_, found, query_growSearch planned _, ?_⟩, ⟨p, planned⟩, named, ?_⟩
      · rw [locators_growSearch, cut]
      · rw [catalog]
        have listed := Catalog.find?_of_resolveAll resolved
        exact forall_of_forall₂ listed.flip fun backend _ locator found => ⟨backend, found⟩

/-- What is filed could be opened at any time. -/
theorem Filed.parse {s : Service} {query locators again more : String} {search : Nat}
    (filed : s.Filed query locators search) (sameQuery : normalize again = normalize query)
    (sameLocators : splitLocators more = splitLocators locators) :
    ∃ later, s.parse again more = (later, .ok s.searches.size) := by
  obtain ⟨p, planned⟩ := filed.planned
  obtain ⟨backends, resolved⟩ := Catalog.resolveAll_of_find? filed.listed
  have opened := congrArg Opened.search (openSearch_of_planned planned filed.named resolved)
  obtain ⟨later, opens, _⟩ := openSearch_of_opened opened
  refine ⟨later, ?_⟩
  unfold Service.parse
  rw [sameQuery, sameLocators]
  exact opens

theorem startSearch_of_live {s : Service} {query locators : String} {search : Nat}
    (live : s.find? query locators = some search) :
    s.startSearch query locators = (s, .ok search) := by
  have found : s.registry.find? (canonicalSubject query locators) = some search := live
  unfold Service.startSearch
  dsimp only
  rw [found]

/-- Without a live search under its name, a query is answered as it is parsed. -/
theorem startSearch_of_fresh {s : Service} {query locators : String}
    (fresh : s.find? query locators = none) :
    (s.startSearch query locators).2 = (s.parse query locators).2 := by
  have unknown : s.registry.find? (canonicalSubject query locators) = none := fresh
  unfold Service.startSearch
  dsimp only
  rw [unknown]
  rcases s.parse query locators with ⟨later, (e | search)⟩ <;> rfl

/-- What is handed out is live. -/
theorem find?_of_startSearch {s later : Service} {query locators : String} {search : Nat}
    (started : s.startSearch query locators = (later, .ok search)) :
    later.find? query locators = some search := by
  unfold Service.startSearch at started
  dsimp only at started
  split at started
  · rename_i known live
    cases started
    exact live
  · split at started
    · cases started
    · cases started
      exact (Registry.find?_file ..).trans (if_pos rfl)

theorem subject_of_opened {catalog : Catalog} {query locators : String} {root : Node}
    (opened : (Search.openSearch catalog (normalize query) (splitLocators locators)).search =
      .ok root) : root.subject = canonicalSubject query locators ∧ root.memo = Memo.fresh := by
  obtain ⟨p, later, backends, planned, named, resolved, rfl⟩ := openSearch_eq_ok_iff.1 opened
  have cut : ((splitLocators locators).zip backends).map Prod.fst = splitLocators locators :=
    List.map_fst_zip (resolveAll_length resolved).ge
  refine ⟨?_, memo_growSearch ..⟩
  rw [Node.subject, query_growSearch planned, locators_growSearch, cut]
  rfl

/-- **What starting a search does.**  It hands out the live search, or refuses and makes nothing
live, or files a new search under its own name. -/
theorem startSearch_cases (s : Service) (query locators : String) :
    (∃ search, s.find? query locators = some search ∧
      s.startSearch query locators = (s, .ok search)) ∨
    (s.find? query locators = none ∧ ∃ later e, s.startSearch query locators = (later, .error e) ∧
      later.searches = s.searches ∧ later.registry = s.registry) ∨
    (s.find? query locators = none ∧ ∃ later root,
      s.startSearch query locators = (later, .ok s.searches.size) ∧
      later.searches = s.searches.push root ∧
      later.registry = s.registry.file (canonicalSubject query locators)
        (subjectHash (canonicalSubject query locators)) s.searches.size ∧
      root.subject = canonicalSubject query locators ∧ root.memo = Memo.fresh) := by
  rcases known : s.find? query locators with _ | search
  · have unknown : s.registry.find? (canonicalSubject query locators) = none := known
    refine Or.inr ?_
    unfold Service.startSearch Service.parse Service.openSearch
    dsimp only
    rw [unknown]
    rcases opened : (Search.openSearch s.catalog (normalize query) (splitLocators locators)).search
      with e | root
    · exact Or.inl ⟨rfl, _, e, rfl, rfl, rfl⟩
    · obtain ⟨subject, memo⟩ := subject_of_opened opened
      refine Or.inr ⟨rfl, _, root, rfl, rfl, ?_, subject, memo⟩
      dsimp only
      rw [node?_root, Array.getElem?_push_size, ← subject]
      rfl
  · exact Or.inl ⟨search, rfl, startSearch_of_live known⟩

/-- What is started and was not live before is filed. -/
theorem filed_of_startSearch {s later : Service} {query locators : String} {search : Nat}
    (fresh : s.find? query locators = none)
    (started : s.startSearch query locators = (later, .ok search)) :
    later.Filed query locators search := by
  have unknown : s.registry.find? (canonicalSubject query locators) = none := fresh
  unfold Service.startSearch at started
  dsimp only at started
  rw [unknown] at started
  rcases parsed : s.parse query locators with ⟨after, (e | found)⟩
  · rw [parsed] at started
    cases started
  · rw [parsed] at started
    cases started
    exact (filed_of_parse parsed).extends (extends_of_searches rfl (.refl _))

/-- **Starting keeps every search filed**, and files what is new under its own name. -/
theorem startSearch_wellFiled {s : Service} (wellFiled : s.WellFiled) (query locators : String) :
    (s.startSearch query locators).1.WellFiled := by
  have extended := startSearch_extends s query locators
  rcases s.startSearch_cases query locators with
    ⟨search, _, started⟩ | ⟨_, later, e, started, _, registry⟩ |
      ⟨fresh, later, root, started, _, registry, _, _⟩
  · rw [started]
    exact wellFiled
  · rw [started] at extended ⊢
    refine wellFiled_of_find? wellFiled extended fun subject search live => ?_
    rw [← registry]
    exact live
  · have own := filed_of_startSearch fresh started
    rw [started] at extended ⊢
    intro subject other live
    rw [registry, Registry.find?_file] at live
    split at live
    · rename_i isNew
      cases live
      exact ⟨query, locators, isNew, own⟩
    · obtain ⟨older, olderLocators, same, filed⟩ := wellFiled subject other live
      exact ⟨older, olderLocators, same, filed.extends extended⟩

/-! ## Runs -/

/-- Only four actions touch the registry. -/
theorem act_registry (s : Service) (action : Action) :
    (s.act action).registry = s.registry ∨ (∃ query locators, action = .start query locators) ∨
      (∃ ref, action = .result ref) ∨ (∃ ref, action = .remove ref) ∨ action = .clear := by
  cases action with
  | resolve locator => exact Or.inl (by rw [act, resolve_registry])
  | start query locators => exact Or.inr (Or.inl ⟨query, locators, rfl⟩)
  | parse query locators => exact Or.inl (by rw [act, parse_registry])
  | askTerm locator term => exact Or.inl (by rw [act, askTerm_registry])
  | askDocument locator uri => exact Or.inl (by rw [act, askDocument_fst, resolve_registry])
  | result ref => exact Or.inr (Or.inr (Or.inl ⟨ref, rfl⟩))
  | remove ref => exact Or.inr (Or.inr (Or.inr (Or.inl ⟨ref, rfl⟩)))
  | clear => exact Or.inr (Or.inr (Or.inr (Or.inr rfl)))
  | register | create | addDocument | removeDocument | status | complete | abort | drop | report
  | abandon => exact Or.inl rfl

theorem act_wellFiled {s : Service} (wellFiled : s.WellFiled) (action : Action) :
    (s.act action).WellFiled := by
  have extended := act_extends s action
  rcases s.act_registry action with
    same | ⟨query, locators, rfl⟩ | ⟨ref, rfl⟩ | ⟨ref, rfl⟩ | rfl
  · refine wellFiled_of_find? wellFiled extended fun subject search live => ?_
    rw [← same]
    exact live
  · exact startSearch_wellFiled wellFiled query locators
  · exact wellFiled_of_find? wellFiled extended fun _ _ => find?_of_result
  · exact wellFiled_of_find? wellFiled extended fun _ _ => find?_of_remove
  · intro subject search live
    cases live

/-- **Every live search is filed under its own name** in every run. -/
theorem run_wellFiled (link : Link) (actions : List Action) :
    ((start link).run actions).WellFiled := by
  have kept (s : Service) (wellFiled : s.WellFiled) : (s.run actions).WellFiled := by
    induction actions generalizing s with
    | nil => exact wellFiled
    | cons action rest ih => exact ih (s.act action) (act_wellFiled wellFiled action)
  refine kept (start link) ?_
  intro subject search live
  cases live

/-! ## Whose search it is -/

/-- What a caller is handed who starts a search for a query in some locators. -/
structure HandsOut (s : Service) (query locators : String) : Prop where
  /-- It is a search for just these if and only if the query holds no at sign. -/
  own : ∀ later search, s.startSearch query locators = (later, .ok search) →
    ∃ root, later.node? (.root search) = some root ∧
      ((root.query = normalize query ∧ root.locators = joinLocators (splitLocators locators)) ↔
        '@' ∉ (normalize query).toList)
  /-- Without an at sign, a query is refused as if no search were live. -/
  refused : '@' ∉ (normalize query).toList → ∀ e,
    (s.startSearch query locators).2 = .error e ↔ (s.parse query locators).2 = .error e
  /-- With one it is always refused by itself, yet accepted if a search is live under its name. -/
  mistaken : '@' ∈ (normalize query).toList →
    (∃ e, (s.parse query locators).2 = .error e) ∧
      ∀ search, (s.startSearch query locators).2 = .ok search ↔
        s.find? query locators = some search

/-- What is live under the name of a plain query is filed under that query. -/
theorem WellFiled.filed {s : Service} (wellFiled : s.WellFiled) {query locators : String}
    {search : Nat} (plain : '@' ∉ (normalize query).toList)
    (live : s.find? query locators = some search) :
    ∃ own ownLocators, normalize query = normalize own ∧
      splitLocators locators = splitLocators ownLocators ∧ s.Filed own ownLocators search := by
  obtain ⟨own, ownLocators, same, filed⟩ := wellFiled _ search live
  obtain ⟨p, planned⟩ := filed.planned
  obtain ⟨sameQuery, sameLocators⟩ :=
    canonicalSubject_injective plain (at_notMem_of_planQuery planned) same
  exact ⟨own, ownLocators, sameQuery, sameLocators, filed⟩

/-- What cannot be read is refused. -/
theorem parse_of_at_mem (s : Service) {query : String} (locators : String)
    (sign : '@' ∈ (normalize query).toList) : ∃ e, (s.parse query locators).2 = .error e := by
  rcases parsed : s.parse query locators with ⟨later, (e | search)⟩
  · exact ⟨e, rfl⟩
  · obtain ⟨p, planned⟩ := (filed_of_parse parsed).planned
    exact absurd sign (at_notMem_of_planQuery planned)

/-- What is live under the name of a query is a search for it just if it holds no at sign. -/
theorem WellFiled.own {s : Service} (wellFiled : s.WellFiled) {query locators : String}
    {search : Nat} (live : s.find? query locators = some search) :
    ∃ root, s.node? (.root search) = some root ∧
      ((root.query = normalize query ∧ root.locators = joinLocators (splitLocators locators)) ↔
        '@' ∉ (normalize query).toList) := by
  by_cases plain : '@' ∉ (normalize query).toList
  · obtain ⟨own, ownLocators, sameQuery, sameLocators, filed⟩ := wellFiled.filed plain live
    obtain ⟨root, found, rootQuery, rootLocators⟩ := filed.root
    refine ⟨root, found, iff_of_true ⟨?_, ?_⟩ plain⟩
    · rw [rootQuery, sameQuery]
    · rw [rootLocators, sameLocators]
  · obtain ⟨own, ownLocators, _, filed⟩ := wellFiled _ search live
    obtain ⟨root, found, rootQuery, _⟩ := filed.root
    obtain ⟨p, planned⟩ := filed.planned
    refine ⟨root, found, iff_of_false ?_ plain⟩
    -- The live search could be planned, so its query is none with an at sign.
    rintro ⟨sameQuery, _⟩
    rw [← sameQuery, rootQuery] at plain
    exact plain (at_notMem_of_planQuery planned)

/-- **Whose search a caller is handed.**  In every run, a query is handed its own search and is
refused when it cannot be opened, unless it holds an at sign: then it is handed whatever is live
under its name, which is the search of another query. -/
theorem startSearch_identity (link : Link) (actions : List Action) (query locators : String) :
    ((start link).run actions).HandsOut query locators := by
  have wellFiled := run_wellFiled link actions
  generalize (start link).run actions = s at wellFiled
  constructor
  · intro later search started
    have laterFiled := startSearch_wellFiled wellFiled query locators
    rw [started] at laterFiled
    exact laterFiled.own (find?_of_startSearch started)
  · intro plain e
    cases known : s.find? query locators with
    | some search =>
        obtain ⟨own, ownLocators, sameQuery, sameLocators, filed⟩ := wellFiled.filed plain known
        obtain ⟨later, parsed⟩ := filed.parse sameQuery sameLocators
        rw [startSearch_of_live known, parsed]
        simp
    | none => rw [startSearch_of_fresh known]
  · intro sign
    obtain ⟨e, refusal⟩ := s.parse_of_at_mem locators sign
    refine ⟨⟨e, refusal⟩, fun search => ?_⟩
    cases known : s.find? query locators with
    | some live =>
        rw [startSearch_of_live known]
        simp
    | none =>
        rw [startSearch_of_fresh known, refusal]
        simp

/-! ## A collision -/

/-- One holder for the index `b@c`, one for `c`, and a search for `a` in the first. -/
def collider : Service :=
  (start ⟨.absent, 1⟩).run
    [.register "b@c" fun _ => .ok none, .register "c" fun _ => .ok none, .start "a" "b@c"]

theorem find?_collider : collider.find? "a@b" "c" = some 0 := by
  cbv

theorem node?_collider : (collider.node? (.root 0)).map Node.query = some "a" := by
  cbv

theorem normalize_collider : normalize "a@b" = "a@b" := by
  cbv

theorem parse_collider :
    (collider.parse "a@b" "c").2 = .error (.parse (.termWord "a@b")) := by
  cbv

/-- By itself `a@b` is refused; with that search live it is handed the search for `a`. -/
theorem startSearch_hands_out_another :
    (collider.parse "a@b" "c").2 = .error (.parse (.termWord "a@b")) ∧
      collider.startSearch "a@b" "c" = (collider, .ok 0) ∧
      (collider.node? (.root 0)).map Node.query = some "a" ∧ normalize "a@b" = "a@b" := by
  exact ⟨parse_collider, startSearch_of_live find?_collider, node?_collider, normalize_collider⟩

end Service

end Concordance
