/-
# Concordance.Proofs.Tables -- the two tables of the registry

A live search is filed twice, under its name and under the digest of its name.  As long
as no two names have one digest the tables stay `InStep`: whatever is found by a digest
is found by a name with that digest, and the other way round.  Starting and removing
keep this up, each with its own lemma (`file_inStep`, `remove_inStep`).

The digest is a parameter there.  In a service it is `subjectHash`, and the names are
those under which searches were started, so `run_tables` needs no more than that these,
and the names that are looked up, have digests of their own.
-/
import Concordance.Proofs.Evictions

namespace Concordance

open Concordance.Data Concordance.Index Concordance.Query Concordance.Search

set_option autoImplicit false

/-- No two of the names have one digest. -/
def CollisionFree (digest : String → UInt64) (names : List String) : Prop :=
  ∀ name ∈ names, ∀ other ∈ names, digest name = digest other → name = other

namespace Search.Registry

/-! ## Two tables -/

/-- Both tables hold the same searches, one under the names and one under their digests. -/
def InStep (digest : String → UInt64) (r : Registry) : Prop :=
  ∀ hash search, r.findHash? hash = some search ↔
    ∃ subject, r.find? subject = some search ∧ digest subject = hash

section Digests

variable {digest : String → UInt64} {r : Registry}

theorem empty_inStep : InStep digest empty := by
  intro hash search
  simp

/-- A name that shares its digest with no other live one is found by its digest. -/
theorem InStep.findHash?_eq (inStep : r.InStep digest) {subject : String}
    (apart : ∀ other search, r.find? other = some search → digest other = digest subject →
      other = subject) : r.findHash? (digest subject) = r.find? subject := by
  apply Option.ext
  intro search
  rw [inStep]
  constructor
  · rintro ⟨other, live, same⟩
    rw [← apart other search live same]
    exact live
  · intro live
    exact ⟨subject, live, rfl⟩

theorem file_inStep (inStep : r.InStep digest) {subject : String}
    (free : r.find? subject = none)
    (apart : ∀ other search, r.find? other = some search → digest other = digest subject →
      other = subject) (new : Nat) : (r.file subject (digest subject) new).InStep digest := by
  have unfiled : r.findHash? (digest subject) = none := (inStep.findHash?_eq apart).trans free
  intro hash search
  simp only [findHash?_file, find?_file, unfiled, and_true]
  by_cases here : hash = digest subject
  · rw [if_pos here]
    constructor
    · intro isNew
      exact ⟨subject, (if_pos rfl).trans isNew, here.symm⟩
    · rintro ⟨other, live, same⟩
      split at live
      · exact live
      · rename_i another
        exact absurd (apart other search live (same.trans here)) another
  · rw [if_neg here, inStep]
    refine exists_congr fun other => and_congr_left fun same => ?_
    have another : other ≠ subject := by
      rintro rfl
      exact here same.symm
    rw [if_neg another]

theorem remove_inStep (inStep : r.InStep digest)
    (apart : ∀ subject other first second, r.find? subject = some first →
      r.find? other = some second → digest other = digest subject → other = subject)
    (subject : String) (node : NodeRef) : (r.remove subject (digest subject) node).InStep digest := by
  intro hash search
  simp only [findHash?_remove, find?_remove]
  by_cases itself : (r.find? subject).map NodeRef.root = some node
  · obtain ⟨live, found, _⟩ := Option.map_eq_some_iff.1 itself
    have only : ∀ other second, r.find? other = some second → digest other = digest subject →
        other = subject := fun other second => apart subject other live second found
    simp only [inStep.findHash?_eq only, itself, and_true]
    by_cases here : hash = digest subject
    · rw [if_pos here]
      refine iff_of_false (by simp) ?_
      rintro ⟨other, kept, same⟩
      split at kept
      · cases kept
      · rename_i another
        exact another (only other search kept (same.trans here))
    · rw [if_neg here, inStep]
      refine exists_congr fun other => and_congr_left fun same => ?_
      have another : other ≠ subject := by
        rintro rfl
        exact here same.symm
      rw [if_neg another]
  · simp only [itself, false_and, and_false, if_false]
    exact inStep hash search

end Digests

end Search.Registry

namespace Service

/-! ## The tables of a service -/

/-- The name under which an action starts a search. -/
def Action.startedName? : Action → Option String
  | .start query locators => some (canonicalSubject query locators)
  | _ => none

/-- The names under which a run starts searches. -/
def startedNames (actions : List Action) : List String := actions.filterMap Action.startedName?

/-- Whatever is live was started under one of some names, and the tables are in step. -/
structure Tabled (s : Service) (names : List String) : Prop where
  started : ∀ subject search, s.registry.find? subject = some search → subject ∈ names
  inStep : s.registry.InStep subjectHash

theorem Tabled.apart {s : Service} {names : List String} (tabled : s.Tabled names)
    (free : CollisionFree subjectHash names) {subject : String} (member : subject ∈ names) :
    ∀ other search, s.registry.find? other = some search →
      subjectHash other = subjectHash subject → other = subject :=
  fun other search live => free other (tabled.started other search live) subject member

theorem tabled_of_registry {s later : Service} {names : List String} (tabled : s.Tabled names)
    (same : later.registry = s.registry) : later.Tabled names := by
  constructor
  · rw [same]
    exact tabled.started
  · rw [same]
    exact tabled.inStep

theorem startSearch_tabled {s : Service} {names : List String} (tabled : s.Tabled names)
    (free : CollisionFree subjectHash names) {query locators : String}
    (member : canonicalSubject query locators ∈ names) :
    (s.startSearch query locators).1.Tabled names := by
  rcases s.startSearch_cases query locators with
    ⟨search, _, started⟩ | ⟨_, later, e, started, _, registry⟩ |
      ⟨fresh, later, root, started, _, registry, _, _⟩
  · rw [started]
    exact tabled
  · rw [started]
    exact tabled_of_registry tabled registry
  · rw [started]
    constructor
    · intro subject search live
      rw [registry, Registry.find?_file] at live
      split at live
      · rename_i same
        rw [same]
        exact member
      · exact tabled.started subject search live
    · rw [registry]
      exact Registry.file_inStep tabled.inStep fresh (tabled.apart free member) _

theorem remove_tabled {s : Service} {names : List String} (tabled : s.Tabled names)
    (free : CollisionFree subjectHash names) (ref : NodeRef) : (s.remove ref).Tabled names := by
  refine ⟨fun subject search live => tabled.started subject search (find?_of_remove live), ?_⟩
  rcases s.remove_registry_cases ref with ⟨_, same⟩ | ⟨n, _, removed⟩
  · rw [same]
    exact tabled.inStep
  · rw [removed]
    refine Registry.remove_inStep tabled.inStep ?_ _ ref
    intro subject other first second live
    exact tabled.apart free (tabled.started subject first live) other second

theorem act_tabled {s : Service} {names : List String} (tabled : s.Tabled names)
    (free : CollisionFree subjectHash names) {action : Action}
    (started : ∀ name, action.startedName? = some name → name ∈ names) :
    (s.act action).Tabled names := by
  rcases s.act_registry action with
    same | ⟨query, locators, rfl⟩ | ⟨ref, rfl⟩ | ⟨ref, rfl⟩ | rfl
  · exact tabled_of_registry tabled same
  · exact startSearch_tabled tabled free (started _ rfl)
  · have registry := result_registry s ref
    split at registry
    · exact tabled_of_registry (remove_tabled tabled free ref) registry
    · exact tabled_of_registry tabled registry
  · exact remove_tabled tabled free ref
  · refine ⟨?_, Registry.empty_inStep⟩
    intro subject search live
    cases live

theorem run_tabled {s : Service} {names : List String} (tabled : s.Tabled names)
    (free : CollisionFree subjectHash names) {actions : List Action}
    (started : ∀ name ∈ startedNames actions, name ∈ names) : (s.run actions).Tabled names := by
  induction actions generalizing s with
  | nil => exact tabled
  | cons action rest ih =>
      refine ih (act_tabled tabled free fun name named => ?_) fun name member => ?_
      · exact started name (List.mem_filterMap.2 ⟨action, List.mem_cons_self, named⟩)
      · obtain ⟨other, isLater, named⟩ := List.mem_filterMap.1 member
        exact started name (List.mem_filterMap.2 ⟨other, List.mem_cons_of_mem _ isLater, named⟩)

/-! ## What the registry tells -/

/-- Whatever way the live searches are asked for, the answers agree. -/
structure TablesAgree (s : Service) (looked : List (String × String)) : Prop where
  /-- A search is found under its own name, and its result was not taken. -/
  named : ∀ subject search, s.registry.find? subject = some search →
    ∃ root, s.node? (.root search) = some root ∧ root.subject = subject ∧
      root.memo.outcome = none
  /-- The same searches, and no others, are found by their own digests. -/
  hashed : ∀ hash search, s.registry.findHash? hash = some search ↔
    ∃ root, s.node? (.root search) = some root ∧ root.hash = hash ∧
      s.registry.find? root.subject = some search
  /-- A query in some locators, its name and the digest of its name find the same. -/
  agree : ∀ query locators, (query, locators) ∈ looked →
    s.find? query locators = s.registry.find? (canonicalSubject query locators) ∧
      s.find? query locators = s.registry.findHash? (subjectHash (canonicalSubject query locators))
  /-- The list of the live searches holds these, -/
  listed : ∀ search, search ∈ s.live ↔ ∃ subject, s.registry.find? subject = some search
  /-- in the order of their names, -/
  ordered : s.live.Pairwise fun first second => ∀ root other,
    s.node? (.root first) = some root → s.node? (.root second) = some other →
      root.subject < other.subject
  /-- each of them once, -/
  once : s.live.Nodup
  /-- and they are as many as are counted. -/
  counted : s.registry.size = s.live.length

theorem Orderly.named {s : Service} (orderly : s.Orderly) {subject : String} {search : Nat}
    (live : s.registry.find? subject = some search) :
    ∃ root, s.node? (.root search) = some root ∧ root.subject = subject ∧
      root.memo.outcome = none := by
  obtain ⟨root, found, same⟩ := orderly.wellFiled.subject live
  exact ⟨root, found, same, orderly.untaken subject search root live found⟩

theorem Orderly.subject_eq {s : Service} (orderly : s.Orderly) {entry : String × Nat}
    (listed : entry ∈ s.registry.toList) {root : Node}
    (found : s.node? (.root entry.2) = some root) : root.subject = entry.1 := by
  have live := (SortedMap.find?_eq_some_iff s.registry.bySubject).2 listed
  obtain ⟨other, same, named, _⟩ := orderly.named live
  rw [found] at same
  cases same
  exact named

/-- The list of the live searches is in the order of their names. -/
theorem Orderly.ordered {s : Service} (orderly : s.Orderly) :
    s.live.Pairwise fun first second => ∀ root other,
      s.node? (.root first) = some root → s.node? (.root second) = some other →
        root.subject < other.subject := by
  refine List.pairwise_map.2 (s.registry.bySubject.sorted.imp_of_mem ?_)
  intro first second isFirst isSecond before root other found placed
  rw [orderly.subject_eq isFirst found, orderly.subject_eq isSecond placed]
  exact before

theorem mem_live_iff (s : Service) (search : Nat) :
    search ∈ s.live ↔ ∃ subject, s.registry.find? subject = some search := by
  refine List.mem_map.trans ⟨?_, ?_⟩
  · rintro ⟨⟨subject, _⟩, listed, rfl⟩
    exact ⟨subject, (SortedMap.find?_eq_some_iff s.registry.bySubject).2 listed⟩
  · rintro ⟨subject, live⟩
    exact ⟨(subject, search), (SortedMap.find?_eq_some_iff s.registry.bySubject).1 live, rfl⟩

/-- No search is live under two names. -/
theorem Orderly.once {s : Service} (orderly : s.Orderly) : s.live.Nodup := by
  refine orderly.ordered.imp_of_mem ?_
  rintro search _ member _ before rfl
  obtain ⟨subject, live⟩ := (s.mem_live_iff search).1 member
  obtain ⟨root, found, _⟩ := orderly.named live
  exact String.lt_irrefl _ (before root root found found)

theorem tablesAgree_of_tabled {s : Service} {names : List String}
    {looked : List (String × String)} (orderly : s.Orderly) (tabled : s.Tabled names)
    (free : CollisionFree subjectHash names)
    (among : ∀ query locators, (query, locators) ∈ looked →
      canonicalSubject query locators ∈ names) : s.TablesAgree looked where
  named _ _ := orderly.named
  hashed hash search := by
    refine (tabled.inStep hash search).trans ⟨?_, ?_⟩
    · rintro ⟨subject, live, same⟩
      obtain ⟨root, found, rfl, _⟩ := orderly.named live
      exact ⟨root, found, same, live⟩
    · rintro ⟨root, _, same, live⟩
      exact ⟨root.subject, live, same⟩
  agree query locators member :=
    ⟨rfl, (tabled.inStep.findHash?_eq (tabled.apart free (among query locators member))).symm⟩
  listed := s.mem_live_iff
  ordered := orderly.ordered
  once := orderly.once
  counted := (List.length_map _).symm

/-- **The tables agree in every run**, for whatever is looked up in them, unless the names of the
searches and of what is looked up collide. -/
theorem run_tables (link : Link) (actions : List Action) (looked : List (String × String))
    (free : CollisionFree subjectHash
      (startedNames actions ++ looked.map fun pair => canonicalSubject pair.1 pair.2)) :
    ((start link).run actions).TablesAgree looked := by
  have fresh : (start link).Tabled
      (startedNames actions ++ looked.map fun pair => canonicalSubject pair.1 pair.2) := by
    refine ⟨?_, Registry.empty_inStep⟩
    intro subject search live
    cases live
  refine tablesAgree_of_tabled (run_orderly link actions)
    (run_tabled fresh free fun name member => List.mem_append_left _ member) free ?_
  intro query locators member
  exact List.mem_append_right _ (List.mem_map.2 ⟨(query, locators), member, rfl⟩)

/-! ## A run -/

/-- Two searches are live, a third was taken, and a query was refused. -/
def startedAndTaken : List Action :=
  [.register "idx" fun _ => .ok none, .start "dog" "idx", .start "cat" "idx", .start "fish" "idx",
    .start "cat - " "idx", .complete 0 "fish" [], .result (.root 2), .remove (.root 2)]

theorem startedNames_startedAndTaken :
    startedNames startedAndTaken = ["dog@idx", "cat@idx", "fish@idx", "cat -@idx"] := by cbv

theorem canonicalSubject_cat : canonicalSubject "Cat " "idx;" = "cat@idx" := by cbv

theorem collisionFree_startedAndTaken :
    CollisionFree subjectHash (startedNames startedAndTaken ++
      [("Cat ", "idx;")].map fun pair => canonicalSubject pair.1 pair.2) := by
  rw [startedNames_startedAndTaken, List.map_singleton, canonicalSubject_cat]
  unfold CollisionFree
  decide +kernel

theorem run_tables_startedAndTaken :
    CollisionFree subjectHash (startedNames startedAndTaken ++
      [("Cat ", "idx;")].map fun pair => canonicalSubject pair.1 pair.2) ∧
      ((start ⟨.absent, 1⟩).run startedAndTaken).TablesAgree [("Cat ", "idx;")] :=
  ⟨collisionFree_startedAndTaken, run_tables _ _ _ collisionFree_startedAndTaken⟩

end Service

end Concordance
