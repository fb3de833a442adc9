/-
# Concordance.Proofs.Combinations -- result sets as an algebra

Sets that come from an index's answer, and sets that are combined from such sets, file
every entry under its own document (`ResultSet.Built.keyed`).  What such a set finds is a
table of documents and positions (`ResultSet.hits`); two sets find the same when the tables
are equal, whatever the sets are called.

A phrase finds the places where its words follow one another, and no others.  What is pooled
by a union, a merge or an intersection depends on which sets go in, and not on their order, on
how often they come, or on which of them are pooled first: nested groups pool what their sets
pool (`Combination.pools_sets`).  Taking documents out can be put off, and goes into an
intersection.
-/
import Concordance.Proofs.Results

namespace Concordance.Search

open Concordance.Data

set_option autoImplicit false

namespace ResultSet

/-! ## Sets that are made -/

/-- The set is that of an index's answer, or combined from such sets. -/
inductive Built : ResultSet → Prop
  | entries (subject : String) (entries : List Entry) : Built (ofEntries subject entries)
  | combined {op : Operation} {subject : String} {sets : List ResultSet} {set : ResultSet}
      (below : ∀ s ∈ sets, s.Built) (made : combine op subject (sets.map .ok) = .ok set) :
      Built set

/-- However a set is made, every entry is filed under its own document. -/
theorem Built.keyed {s : ResultSet} (built : s.Built) : s.Keyed := by
  induction built with
  | entries subject entries => exact ofEntries_keyed subject entries
  | combined _ made ih => exact combineSets_keyed (combine_sets_eq_ok_iff.1 made) ih

/-! ## What a set finds -/

/-- The documents of a set with the positions of the match, without any subject. -/
def hits (s : ResultSet) : SortedMap String Positions := s.entries.map Entry.positions

theorem find?_hits (s : ResultSet) (uri : String) :
    s.hits.find? uri = (s.get? uri).map Entry.positions :=
  SortedMap.find?_map ..

theorem contains_iff_hits {s : ResultSet} {uri : String} :
    s.contains uri = true ↔ ∃ positions, s.hits.find? uri = some positions := by
  rw [contains_iff, find?_hits]
  cases s.get? uri <;> simp

theorem marks_iff_hits {s : ResultSet} {uri : String} {position : UInt32} :
    s.Marks uri position ↔
      ∃ positions, s.hits.find? uri = some positions ∧ position ∈ positions := by
  rw [Marks, find?_hits]
  cases s.get? uri <;> simp

/-- **Sets find the same** when they hold the same documents and mark the same positions in them. -/
theorem hits_eq_iff {s t : ResultSet} :
    s.hits = t.hits ↔ ∀ uri, (s.contains uri = true ↔ t.contains uri = true) ∧
      ∀ position, s.Marks uri position ↔ t.Marks uri position := by
  simp only [contains_iff_hits, marks_iff_hits]
  constructor
  · intro same uri
    rw [same]
    exact ⟨Iff.rfl, fun _ => Iff.rfl⟩
  · intro agree
    apply SortedMap.ext_find?
    intro uri
    obtain ⟨held, marked⟩ := agree uri
    cases first : s.hits.find? uri with
    | none =>
        cases second : t.hits.find? uri with
        | none => rfl
        | some positions => simp [first, second] at held
    | some positions =>
        cases second : t.hits.find? uri with
        | none => simp [first, second] at held
        | some others =>
            have members : ∀ position, position ∈ positions ↔ position ∈ others := by
              simpa [first, second] using marked
            rw [SortedSet.ext_mem members]

end ResultSet

open ResultSet

/-! ## Phrases -/

theorem get?_phrase (subject : String) {first : ResultSet} (keyed : first.Keyed)
    (rest : List ResultSet) {uri : String} {entry : Entry}
    (found : (phrase subject first rest).get? uri = some entry) :
    entry.subject = subject ∧ entry.uri = uri := by
  rw [phrase, get?_select subject _ keyed, Option.map_eq_some_iff] at found
  obtain ⟨positions, _, rfl⟩ := found
  exact ⟨rfl, rfl⟩

/-- **A phrase is exact adjacency.**  Two or more sets combine into a phrase, which holds a document
exactly when its words run from some start there: the word number `i`, counting from 0, is marked
`i` positions behind the start, and the count does not wrap around.  The entry of the document lists
all such starts and nothing else, and there is at least one.  All sets that are made are keyed
(`Built.keyed`). -/
theorem combine_phrase (subject : String) {sets : List ResultSet} (several : 2 ≤ sets.length)
    (keyed : ∀ s ∈ sets, s.Keyed) :
    ∃ set, combine .phrase subject (sets.map .ok) = .ok set ∧ ∀ uri,
      (set.contains uri = true ↔ ∃ start : UInt32, RunsFrom sets uri start.toNat) ∧
      ∀ entry, set.get? uri = some entry → entry.subject = subject ∧ entry.uri = uri ∧
        (∀ start, start ∈ entry.positions ↔ RunsFrom sets uri start.toNat) ∧
        ∃ start, start ∈ entry.positions := by
  match sets, several with
  | first :: second :: rest, _ =>
      have firstKeyed := keyed first List.mem_cons_self
      refine ⟨phrase subject first (second :: rest), combine_sets_eq_ok_iff.2 rfl, fun uri => ?_⟩
      have held := phrase_contains subject firstKeyed (second :: rest) uri
      refine ⟨held, fun entry found => ?_⟩
      obtain ⟨named, placed⟩ := get?_phrase subject firstKeyed (second :: rest) found
      have starts : ∀ start, start ∈ entry.positions ↔
          RunsFrom (first :: second :: rest) uri start.toNat := by
        intro start
        rw [← phrase_marks subject firstKeyed]
        simp [Marks, found]
      obtain ⟨start, runs⟩ := held.1 (contains_iff.2 ⟨entry, found⟩)
      exact ⟨named, placed, starts, start, (starts start).2 runs⟩

/-- A word that stands early in a text, and again as the last that a 32-bit word can number. -/
def bigs : ResultSet := ofEntries "big" [.ofOffsets "big" "a.txt" [3, 4294967295]]

/-- A word that stands behind the other once, and once more only if numbers wrapped around. -/
def dogs : ResultSet := ofEntries "dog" [.ofOffsets "dog" "a.txt" [0, 4]]

theorem marks_bigs : bigs.Marks "a.txt" 3 := by
  simp [bigs, ofEntries_marks, Entry.ofOffsets, SortedSet.mem_ofList]

theorem marks_dogs : dogs.Marks "a.txt" 4 := by
  simp [dogs, ofEntries_marks, Entry.ofOffsets, SortedSet.mem_ofList]

theorem combine_phrase_bigDog :
    2 ≤ [bigs, dogs].length ∧ (∀ s ∈ [bigs, dogs], s.Keyed) ∧
      ∃ set entry, combine .phrase "big dog" ([bigs, dogs].map .ok) = .ok set ∧
        set.get? "a.txt" = some entry ∧ (3 ∈ entry.positions) ∧ 4294967295 ∉ entry.positions := by
  have several : 2 ≤ [bigs, dogs].length := Nat.le_refl 2
  have keyed : ∀ s ∈ [bigs, dogs], s.Keyed := by
    intro s member
    simp only [List.mem_cons, List.not_mem_nil, or_false] at member
    rcases member with rfl | rfl <;> exact ofEntries_keyed _ _
  obtain ⟨set, made, finds⟩ := combine_phrase "big dog" several keyed
  obtain ⟨held, lists⟩ := finds "a.txt"
  have runs : RunsFrom [bigs, dogs] "a.txt" (3 : UInt32).toNat := by
    rw [runsFrom_cons, runsFrom_cons]
    exact ⟨⟨3, marks_bigs, rfl⟩, ⟨4, marks_dogs, rfl⟩, runsFrom_nil _ _⟩
  obtain ⟨entry, found⟩ := contains_iff.1 (held.2 ⟨3, runs⟩)
  obtain ⟨_, _, starts, _⟩ := lists entry found
  refine ⟨several, keyed, set, entry, made, found, (starts 3).2 runs, ?_⟩
  intro wraps
  -- No word has a number beyond the last 32-bit one.
  obtain ⟨position, _, behind⟩ := (starts 4294967295).1 wraps 1 _ rfl
  have fits := position.toNat_lt
  have last : (4294967295 : UInt32).toNat = 4294967295 := rfl
  omega

/-! ## Pooled sets -/

/-- Whether a document is found when some sets are pooled: it is in all of them for an intersection,
and in any of them otherwise. -/
def Admits (op : Operation) (sets : List ResultSet) (uri : String) : Prop :=
  if op = .intersection then ∀ s ∈ sets, s.contains uri = true
  else ∃ s ∈ sets, s.contains uri = true

/-- The set is what some sets are pooled into: the documents that are admitted, with the positions
that any of the sets marks in them. -/
structure Pools (op : Operation) (sets : List ResultSet) (set : ResultSet) : Prop where
  keyed : set.Keyed
  contains : ∀ uri, set.contains uri = true ↔ Admits op sets uri
  marks : ∀ uri position, set.Marks uri position ↔
    Admits op sets uri ∧ ∃ s ∈ sets, s.Marks uri position

/-- The operations that treat all of their sets alike. -/
def poolingOperations : List Operation := [.union, .merge, .intersection]

theorem admits_singleton (op : Operation) (s : ResultSet) (uri : String) :
    Admits op [s] uri ↔ s.contains uri = true := by
  unfold Admits
  split <;> simp

/-- A set by itself is pooled into itself. -/
theorem pools_singleton (op : Operation) {s : ResultSet} (keyed : s.Keyed) : Pools op [s] s where
  keyed := keyed
  contains uri := (admits_singleton op s uri).symm
  marks uri position := by
    rw [admits_singleton]
    simpa using contains_of_marks

/-- What is admitted with more sets is admitted by some of them, if one of these holds it. -/
theorem Admits.part {op : Operation} {sets part : List ResultSet} {uri : String}
    (admitted : Admits op sets uri) (within : part ⊆ sets) {s : ResultSet} (member : s ∈ part)
    (held : s.contains uri = true) : Admits op part uri := by
  unfold Admits at admitted ⊢
  split
  · rename_i all
    rw [if_pos all] at admitted
    exact fun other inPart => admitted other (within inPart)
  · exact ⟨s, member, held⟩

/-- The operations that treat their sets alike pool them, if there are two at least. -/
theorem combine_pools {op : Operation} (pooling : op ∈ poolingOperations) (subject : String)
    {sets : List ResultSet} (several : 2 ≤ sets.length) (keyed : ∀ s ∈ sets, s.Keyed) :
    ∃ set, combine op subject (sets.map .ok) = .ok set ∧ Pools op sets set := by
  have joined (joins : op = .union ∨ op = .merge) :
      ∃ set, combine op subject (sets.map .ok) = .ok set ∧ Pools op sets set := by
    have notIntersection : op ≠ .intersection := by rcases joins with rfl | rfl <;> simp
    refine ⟨union subject sets,
      combine_sets_eq_ok_iff.2 (combineSets_union joins subject several),
      union_keyed _ keyed, ?_, ?_⟩
    · intro uri
      rw [union_contains _ keyed, Admits, if_neg notIntersection]
    · intro uri position
      rw [union_marks _ keyed]
      constructor
      · rintro ⟨s, member, marked⟩
        rw [Admits, if_neg notIntersection]
        exact ⟨⟨s, member, contains_of_marks marked⟩, s, member, marked⟩
      · exact And.right
  simp only [poolingOperations, List.mem_cons, List.not_mem_nil, or_false] at pooling
  rcases pooling with rfl | rfl | rfl
  · exact joined (Or.inl rfl)
  · exact joined (Or.inr rfl)
  · obtain ⟨first, rest, rfl⟩ :=
      List.exists_cons_of_length_pos (Nat.lt_of_lt_of_le Nat.two_pos several)
    have firstKeyed := keyed first List.mem_cons_self
    refine ⟨intersection subject first rest,
      combine_sets_eq_ok_iff.2 (combineSets_intersection subject several),
      select_keyed _ _ firstKeyed, ?_, ?_⟩
    · intro uri
      rw [intersection_contains subject firstKeyed, Admits, if_pos rfl]
    · intro uri position
      rw [intersection_marks subject firstKeyed, Admits, if_pos rfl]

theorem admits_flatMap {α : Type} {op : Operation} {groups : List α} {setsOf : α → List ResultSet}
    {results : List ResultSet}
    (each : List.Forall₂ (fun group set => Pools op (setsOf group) set) groups results)
    (uri : String) : Admits op (groups.flatMap setsOf) uri ↔ Admits op results uri := by
  unfold Admits
  by_cases all : op = .intersection
  · subst all
    simp only [if_true, List.mem_flatMap]
    have perGroup := Query.forall_iff_of_forall₂ each fun group set pools =>
      ((pools.contains uri).trans (by rw [Admits, if_pos rfl])).symm
    rw [← perGroup]
    constructor
    · intro holds group member s inGroup
      exact holds s ⟨group, member, inGroup⟩
    · rintro holds s ⟨group, member, inGroup⟩
      exact holds group member s inGroup
  · simp only [if_neg all, List.mem_flatMap]
    have perGroup := Query.exists_iff_of_forall₂ each fun group set pools =>
      ((pools.contains uri).trans (by rw [Admits, if_neg all])).symm
    rw [← perGroup]
    constructor
    · rintro ⟨s, ⟨group, member, inGroup⟩, held⟩
      exact ⟨group, member, s, inGroup, held⟩
    · rintro ⟨group, member, s, inGroup, held⟩
      exact ⟨s, ⟨group, member, inGroup⟩, held⟩

/-- **Pooling what was pooled** is pooling everything at once. -/
theorem Pools.flatMap {α : Type} {op : Operation} {groups : List α} {setsOf : α → List ResultSet}
    {results : List ResultSet} {set : ResultSet} (pools : Pools op results set)
    (each : List.Forall₂ (fun group set => Pools op (setsOf group) set) groups results) :
    Pools op (groups.flatMap setsOf) set where
  keyed := pools.keyed
  contains uri := (pools.contains uri).trans (admits_flatMap each uri).symm
  marks uri position := by
    rw [pools.marks, ← admits_flatMap each]
    refine and_congr_right fun admitted => ?_
    rw [← Query.exists_iff_of_forall₂ each fun group set pools => (pools.marks uri position).symm]
    simp only [List.mem_flatMap]
    constructor
    · rintro ⟨group, member, _, s, inGroup, marked⟩
      exact ⟨s, ⟨group, member, inGroup⟩, marked⟩
    · rintro ⟨s, ⟨group, member, inGroup⟩, marked⟩
      -- In a document that is admitted, a group marks whatever one of its sets marks.
      have within : setsOf group ⊆ groups.flatMap setsOf :=
        fun other isOther => List.mem_flatMap.2 ⟨group, member, isOther⟩
      exact ⟨group, member, admitted.part within inGroup (contains_of_marks marked), s, inGroup,
        marked⟩

/-- Whether some set is so depends on what the sets find, if sets that find the same are alike. -/
theorem exists_congr_hits {sets others : List ResultSet}
    (same : ∀ found, found ∈ sets.map hits ↔ found ∈ others.map hits) {P : ResultSet → Prop}
    (alike : ∀ s t : ResultSet, s.hits = t.hits → P s → P t) :
    (∃ s ∈ sets, P s) ↔ ∃ s ∈ others, P s := by
  constructor
  · rintro ⟨s, member, holds⟩
    obtain ⟨t, isOther, equal⟩ := List.mem_map.1 ((same _).1 (List.mem_map_of_mem member))
    exact ⟨t, isOther, alike s t equal.symm holds⟩
  · rintro ⟨t, member, holds⟩
    obtain ⟨s, isOne, equal⟩ := List.mem_map.1 ((same _).2 (List.mem_map_of_mem member))
    exact ⟨s, isOne, alike t s equal.symm holds⟩

theorem admits_congr_hits {op : Operation} {sets others : List ResultSet}
    (same : ∀ found, found ∈ sets.map hits ↔ found ∈ others.map hits) (uri : String) :
    Admits op sets uri ↔ Admits op others uri := by
  unfold Admits
  split
  · have lacking : (∃ s ∈ sets, ¬ s.contains uri = true) ↔ ∃ s ∈ others, ¬ s.contains uri = true :=
      exists_congr_hits same fun s t equal => mt (hits_eq_iff.1 equal uri).1.2
    have all (list : List ResultSet) :
        (∀ s ∈ list, s.contains uri = true) ↔ ¬ ∃ s ∈ list, ¬ s.contains uri = true := by
      simp
    rw [all, all, lacking]
  · exact exists_congr_hits same fun s t equal => (hits_eq_iff.1 equal uri).1.1

/-- What is pooled depends only on what the pooled sets find, and not on how often or in which order
they come. -/
theorem Pools.hits_eq {op : Operation} {sets others : List ResultSet} {set other : ResultSet}
    (pools : Pools op sets set) (otherPools : Pools op others other)
    (same : ∀ found, found ∈ sets.map hits ↔ found ∈ others.map hits) : set.hits = other.hits := by
  refine hits_eq_iff.2 fun uri => ⟨?_, fun position => ?_⟩
  · rw [pools.contains, otherPools.contains]
    exact admits_congr_hits same uri
  · rw [pools.marks, otherPools.marks]
    exact and_congr (admits_congr_hits same uri)
      (exists_congr_hits same fun s t equal => ((hits_eq_iff.1 equal uri).2 position).1)

/-! ## Groups within groups -/

/-- Sets that are combined in groups: a set as it is, or an operation on groups. -/
inductive Combination
  | given (set : ResultSet)
  | combined (op : Operation) (subject : String) (parts : List Combination)

namespace Combination

mutual

/-- The set that a combination comes to. -/
def result : Combination → Except Failure ResultSet
  | .given set => .ok set
  | .combined op subject parts => do combine op subject ((← results parts).map .ok)

/-- The sets that some combinations come to. -/
def results : List Combination → Except Failure (List ResultSet)
  | [] => .ok []
  | part :: rest => do return (← part.result) :: (← results rest)

end

mutual

/-- The sets that are given in a combination, from the left. -/
def sets : Combination → List ResultSet
  | .given set => [set]
  | .combined _ _ parts => setsOf parts

/-- The sets that are given in some combinations, from the left. -/
def setsOf : List Combination → List ResultSet
  | [] => []
  | part :: rest => part.sets ++ setsOf rest

end

/-- What a combination finds, whatever it and its parts are called. -/
def hits (c : Combination) : Except Failure (SortedMap String Positions) :=
  c.result.map ResultSet.hits

/-- The combination consists of one operation only, on two parts or more at a time. -/
inductive Groups (op : Operation) : Combination → Prop
  | given (set : ResultSet) : Groups op (.given set)
  | combined (subject : String) (parts : List Combination) (several : 2 ≤ parts.length)
      (below : ∀ part ∈ parts, part.Groups op) : Groups op (.combined op subject parts)

theorem setsOf_eq_flatMap (parts : List Combination) : setsOf parts = parts.flatMap sets := by
  induction parts with
  | nil => rfl
  | cons part rest ih => rw [setsOf, List.flatMap_cons, ih]

theorem results_of_forall₂ {parts : List Combination} {found : List ResultSet}
    (each : List.Forall₂ (fun part set => part.result = .ok set) parts found) :
    results parts = .ok found := by
  induction each with
  | nil => rfl
  | cons first _ ih =>
      rw [results, first, ih]
      rfl

/-- A combination of parts that come to sets combines these sets. -/
theorem result_combined {op : Operation} {subject : String} {parts : List Combination}
    {found : List ResultSet}
    (each : List.Forall₂ (fun part set => part.result = .ok set) parts found) :
    (combined op subject parts).result = combine op subject (found.map .ok) := by
  rw [result, results_of_forall₂ each]
  rfl

/-- **Nested groups pool what is in them.** -/
theorem pools_sets {op : Operation} (pooling : op ∈ poolingOperations) {c : Combination}
    (groups : c.Groups op) (keyed : ∀ s ∈ c.sets, s.Keyed) :
    ∃ set, c.result = .ok set ∧ Pools op c.sets set := by
  induction groups with
  | given set => exact ⟨set, rfl, pools_singleton op (keyed set List.mem_cons_self)⟩
  | combined subject parts several below ih =>
      rw [sets, setsOf_eq_flatMap] at keyed ⊢
      have partPools : ∀ part ∈ parts, ∃ set, part.result = .ok set ∧ Pools op part.sets set :=
        fun part member => ih part member fun s inPart =>
          keyed s (List.mem_flatMap.2 ⟨part, member, inPart⟩)
      obtain ⟨found, each⟩ := Query.exists_forall₂ partPools
      have foundKeyed : ∀ s ∈ found, s.Keyed :=
        Query.forall_of_forall₂ each fun _ _ _ made => made.2.keyed
      have foundSeveral : 2 ≤ found.length := by
        rw [← each.length_eq]
        exact several
      obtain ⟨set, made, pools⟩ := combine_pools pooling subject foundSeveral foundKeyed
      refine ⟨set, ?_, pools.flatMap (each.imp fun _ _ made => made.2)⟩
      rw [result_combined (each.imp fun _ _ made => made.1), made]

theorem hits_of_result {c : Combination} {set : ResultSet} (comes : c.result = .ok set) :
    c.hits = .ok set.hits := by
  rw [hits, comes]
  rfl

/-! ## Documents that are taken out -/

/-- The combination comes to a set that holds these documents and marks these positions. -/
def ComesTo (c : Combination) (holds : String → Prop) (marks : String → UInt32 → Prop) : Prop :=
  ∃ set, c.result = .ok set ∧ set.Keyed ∧ ∀ uri, (set.contains uri = true ↔ holds uri) ∧
    ∀ position, set.Marks uri position ↔ marks uri position

/-- A combination without the documents of another. -/
def minus (subject : String) (kept excluded : Combination) : Combination :=
  .combined .difference subject [kept, excluded]

variable {c d : Combination} {holds others : String → Prop} {marks more : String → UInt32 → Prop}

theorem comesTo_given {s : ResultSet} (keyed : s.Keyed) :
    (Combination.given s).ComesTo (fun uri => s.contains uri = true) s.Marks :=
  ⟨s, rfl, keyed, fun _ => ⟨Iff.rfl, fun _ => Iff.rfl⟩⟩

/-- Combinations find the same if they come to the same documents and positions. -/
theorem ComesTo.hits_eq (one : c.ComesTo holds marks) (other : d.ComesTo others more)
    (sameDocuments : ∀ uri, holds uri ↔ others uri)
    (samePositions : ∀ uri position, marks uri position ↔ more uri position) :
    ∃ found, c.hits = .ok found ∧ d.hits = .ok found := by
  obtain ⟨s, comes, _, finds⟩ := one
  obtain ⟨t, otherComes, _, otherFinds⟩ := other
  refine ⟨s.hits, hits_of_result comes, ?_⟩
  rw [hits_of_result otherComes]
  congr 1
  refine hits_eq_iff.2 fun uri => ⟨?_, fun position => ?_⟩
  · rw [(finds uri).1, (otherFinds uri).1, sameDocuments]
  · rw [(finds uri).2, (otherFinds uri).2, samePositions]

theorem ComesTo.minus (one : c.ComesTo holds marks) (other : d.ComesTo others more)
    (subject : String) :
    (minus subject c d).ComesTo (fun uri => holds uri ∧ ¬ others uri)
      (fun uri position => marks uri position ∧ ¬ others uri) := by
  obtain ⟨s, comes, keyed, finds⟩ := one
  obtain ⟨t, otherComes, _, otherFinds⟩ := other
  refine ⟨difference subject s t, ?_, select_keyed _ _ keyed, fun uri => ⟨?_, fun position => ?_⟩⟩
  · rw [Combination.minus, result_combined (.cons comes (.cons otherComes .nil))]
    exact combine_sets_eq_ok_iff.2 rfl
  · rw [difference_contains subject keyed, (finds uri).1, (otherFinds uri).1]
  · rw [difference_marks subject keyed, (finds uri).2, (otherFinds uri).1]

theorem ComesTo.union (one : c.ComesTo holds marks) (other : d.ComesTo others more)
    (subject : String) :
    (combined .union subject [c, d]).ComesTo (fun uri => holds uri ∨ others uri)
      (fun uri position => marks uri position ∨ more uri position) := by
  obtain ⟨s, comes, keyed, finds⟩ := one
  obtain ⟨t, otherComes, otherKeyed, otherFinds⟩ := other
  have bothKeyed : ∀ set ∈ [s, t], set.Keyed := by simp [keyed, otherKeyed]
  refine ⟨Search.union subject [s, t], ?_, union_keyed _ bothKeyed,
    fun uri => ⟨?_, fun position => ?_⟩⟩
  · rw [result_combined (.cons comes (.cons otherComes .nil))]
    exact combine_sets_eq_ok_iff.2 rfl
  · rw [union_contains subject bothKeyed]
    simp [(finds uri).1, (otherFinds uri).1]
  · rw [union_marks subject bothKeyed]
    simp [(finds uri).2, (otherFinds uri).2]

theorem ComesTo.intersection (one : c.ComesTo holds marks) (other : d.ComesTo others more)
    (subject : String) :
    (combined .intersection subject [c, d]).ComesTo (fun uri => holds uri ∧ others uri)
      (fun uri position =>
        (holds uri ∧ others uri) ∧ (marks uri position ∨ more uri position)) := by
  obtain ⟨s, comes, keyed, finds⟩ := one
  obtain ⟨t, otherComes, otherKeyed, otherFinds⟩ := other
  refine ⟨Search.intersection subject s [t], ?_, select_keyed _ _ keyed,
    fun uri => ⟨?_, fun position => ?_⟩⟩
  · rw [result_combined (.cons comes (.cons otherComes .nil))]
    exact combine_sets_eq_ok_iff.2 rfl
  · rw [intersection_contains subject keyed]
    simp [(finds uri).1, (otherFinds uri).1]
  · rw [intersection_marks subject keyed]
    simp [(finds uri).1, (otherFinds uri).1, (finds uri).2, (otherFinds uri).2]

/-- **The laws of combining.**  Take sets however they are made, and call the combinations whatever
you like.  A union, a merge or an intersection of nested groups finds the same as any other one in
which the same sets occur, in any order, any number of times and grouped in any way.  Taking out the
documents of two sets one after another, in either order, is taking out those of their union.
Documents are taken out of an intersection by taking them out of both sets. -/
theorem combine_laws :
    (∀ op ∈ poolingOperations, ∀ c d : Combination, c.Groups op → d.Groups op →
      (∀ s ∈ c.sets ++ d.sets, s.Built) →
      (∀ found, found ∈ c.sets.map ResultSet.hits ↔ found ∈ d.sets.map ResultSet.hits) →
      ∃ found, c.hits = .ok found ∧ d.hits = .ok found) ∧
    (∀ r x y : ResultSet, r.Built → x.Built → y.Built → ∀ l₁ l₂ l₃ l₄ l₅ l₆ : String, ∃ found,
      (minus l₁ (minus l₂ (.given r) (.given x)) (.given y)).hits = .ok found ∧
      (minus l₃ (minus l₄ (.given r) (.given y)) (.given x)).hits = .ok found ∧
      (minus l₅ (.given r) (.combined .union l₆ [.given x, .given y])).hits = .ok found) ∧
    ∀ a b x : ResultSet, a.Built → b.Built → x.Built → ∀ l₁ l₂ l₃ l₄ l₅ : String, ∃ found,
      (minus l₁ (.combined .intersection l₂ [.given a, .given b]) (.given x)).hits = .ok found ∧
      (Combination.combined .intersection l₃
        [minus l₄ (.given a) (.given x), minus l₅ (.given b) (.given x)]).hits = .ok found := by
  refine ⟨?_, ?_, ?_⟩
  · intro op pooling c d groups otherGroups built same
    rw [List.forall_mem_append] at built
    obtain ⟨set, comes, pools⟩ :=
      pools_sets pooling groups fun s member => (built.1 s member).keyed
    obtain ⟨other, otherComes, otherPools⟩ :=
      pools_sets pooling otherGroups fun s member => (built.2 s member).keyed
    refine ⟨set.hits, hits_of_result comes, ?_⟩
    rw [hits_of_result otherComes, pools.hits_eq otherPools same]
  · intro r x y rBuilt xBuilt yBuilt l₁ l₂ l₃ l₄ l₅ l₆
    have fromR := comesTo_given rBuilt.keyed
    have fromX := comesTo_given xBuilt.keyed
    have fromY := comesTo_given yBuilt.keyed
    have inTurn := (fromR.minus fromX l₂).minus fromY l₁
    have swapped := (fromR.minus fromY l₄).minus fromX l₃
    have atOnce := fromR.minus (fromX.union fromY l₆) l₅
    obtain ⟨found, here, there⟩ := inTurn.hits_eq swapped (fun _ => by tauto) (fun _ _ => by tauto)
    obtain ⟨again, first, last⟩ := inTurn.hits_eq atOnce (fun _ => by tauto) (fun _ _ => by tauto)
    have once : again = found := Except.ok.inj (first.symm.trans here)
    rw [once] at last
    exact ⟨found, here, there, last⟩
  · intro a b x aBuilt bBuilt xBuilt l₁ l₂ l₃ l₄ l₅
    have fromA := comesTo_given aBuilt.keyed
    have fromB := comesTo_given bBuilt.keyed
    have fromX := comesTo_given xBuilt.keyed
    have whole := (fromA.intersection fromB l₂).minus fromX l₁
    have parts := (fromA.minus fromX l₄).intersection (fromB.minus fromX l₅) l₃
    exact whole.hits_eq parts (fun _ => by tauto) (fun _ _ => by tauto)

/-- Either word, with the first asked for twice and grouped with the second. -/
def bigOrDogOrBig : Combination :=
  .combined .union "big or dog or big" [.combined .union "big or dog" [.given bigs, .given dogs],
    .given bigs]

/-- Either word, the other way round. -/
def dogOrBig : Combination := .combined .union "dog or big" [.given dogs, .given bigs]

theorem combine_laws_bigOrDog :
    Operation.union ∈ poolingOperations ∧ bigOrDogOrBig.Groups .union ∧ dogOrBig.Groups .union ∧
      bigs.Built ∧ dogs.Built ∧
      (∃ found, bigOrDogOrBig.hits = .ok found ∧ dogOrBig.hits = .ok found) ∧
      (∃ found,
        (minus "l" (minus "m" (.given bigs) (.given dogs)) (.given bigs)).hits = .ok found ∧
          (minus "n" (.given bigs) (.combined .union "o" [.given dogs, .given bigs])).hits =
            .ok found) ∧
      ∃ found,
        (minus "l" (.combined .intersection "m" [.given bigs, .given dogs]) (.given dogs)).hits =
            .ok found ∧
          (Combination.combined .intersection "n" [minus "o" (.given bigs) (.given dogs),
            minus "p" (.given dogs) (.given dogs)]).hits = .ok found := by
  have pooling : Operation.union ∈ poolingOperations := by decide
  have bigsBuilt : bigs.Built := .entries ..
  have dogsBuilt : dogs.Built := .entries ..
  have groups : bigOrDogOrBig.Groups .union := by
    refine .combined _ _ (Nat.le_refl 2) (List.forall_mem_cons.2 ⟨?_, ?_⟩)
    · exact .combined _ _ (Nat.le_refl 2) (by simp [Groups.given])
    · simp [Groups.given]
  have otherGroups : dogOrBig.Groups .union :=
    .combined _ _ (Nat.le_refl 2) (by simp [Groups.given])
  have built : ∀ s ∈ bigOrDogOrBig.sets ++ dogOrBig.sets, s.Built := by
    simp [bigOrDogOrBig, dogOrBig, sets, setsOf, bigsBuilt, dogsBuilt]
  have same : ∀ found, found ∈ bigOrDogOrBig.sets.map ResultSet.hits ↔
      found ∈ dogOrBig.sets.map ResultSet.hits := by
    intro found
    simp only [bigOrDogOrBig, dogOrBig, sets, setsOf, List.append_nil, List.map_append,
      List.map_cons, List.map_nil, List.mem_append, List.mem_singleton]
    tauto
  obtain ⟨pooled, takenOut, fromBoth⟩ := combine_laws
  obtain ⟨found, inTurn, _, atOnce⟩ :=
    takenOut bigs dogs bigs bigsBuilt dogsBuilt bigsBuilt "l" "m" "" "" "n" "o"
  exact ⟨pooling, groups, otherGroups, bigsBuilt, dogsBuilt,
    pooled .union pooling _ _ groups otherGroups built same, ⟨found, inTurn, atOnce⟩,
    fromBoth bigs dogs dogs bigsBuilt dogsBuilt dogsBuilt "l" "m" "n" "o" "p"⟩

end Combination

end Concordance.Search
