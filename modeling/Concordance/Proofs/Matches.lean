/-
# Concordance.Proofs.Matches -- result sets as documents and positions

A result set answers two questions about a document: is it matched
(`ResultSet.contains`), and at which positions (`ResultSet.Marks`).  The
operations on result sets are loops over entries; this module says what each of
them does to the two answers.

The loops read the name of a document off its entry, the answers read it off the
key.  The two agree in every set that an index's answer or a combination gives
(`ofEntries_keyed`, `combineSets_keyed`), so the statements are about such sets.
-/
import Concordance.Search.Combine
import Mathlib.Tactic.Push

namespace Concordance.Search

open Concordance.Data

set_option autoImplicit false

namespace ResultSet

/-- Every entry is filed under the name of its own document. -/
def Keyed (s : ResultSet) : Prop :=
  ∀ uri entry, s.get? uri = some entry → entry.uri = uri

/-- A position at which a document is matched. -/
def Marks (s : ResultSet) (uri : String) (position : UInt32) : Prop :=
  ∃ entry, s.get? uri = some entry ∧ position ∈ entry.positions

/-! ## Reading a set -/

theorem contains_iff {s : ResultSet} {uri : String} :
    s.contains uri = true ↔ ∃ entry, s.get? uri = some entry := by
  simp only [contains, SortedMap.contains, get?, Option.isSome_iff_exists]

theorem contains_of_marks {s : ResultSet} {uri : String} {position : UInt32}
    (marked : s.Marks uri position) : s.contains uri = true := by
  obtain ⟨entry, found, _⟩ := marked
  exact contains_iff.2 ⟨entry, found⟩

theorem get?_empty (subject uri : String) : (empty subject).get? uri = none := rfl

theorem empty_keyed (subject : String) : (empty subject).Keyed := by
  intro uri entry found
  rw [get?_empty] at found
  cases found

theorem mem_toList_iff {s : ResultSet} (keyed : s.Keyed) {entry : Entry} :
    entry ∈ s.toList ↔ s.get? entry.uri = some entry := by
  simp only [toList, SortedMap.values, List.mem_map, Prod.exists, exists_eq_right]
  constructor
  · rintro ⟨uri, member⟩
    have found : s.get? uri = some entry := (SortedMap.find?_eq_some_iff _).2 member
    rw [keyed uri entry found]
    exact found
  · intro found
    exact ⟨entry.uri, (SortedMap.find?_eq_some_iff _).1 found⟩

theorem exists_mem_toList_iff {s : ResultSet} (keyed : s.Keyed) (uri : String) (P : Entry → Prop) :
    (∃ entry ∈ s.toList, entry.uri = uri ∧ P entry) ↔ ∃ entry, s.get? uri = some entry ∧ P entry := by
  constructor
  · rintro ⟨entry, member, rfl, holds⟩
    exact ⟨entry, (mem_toList_iff keyed).1 member, holds⟩
  · rintro ⟨entry, found, holds⟩
    have same := keyed uri entry found
    subst same
    exact ⟨entry, (mem_toList_iff keyed).2 found, rfl, holds⟩

/-! ## Adding one entry -/

theorem get?_put (s : ResultSet) (uri other : String) (positions : Positions) :
    (s.put uri positions).get? other =
      if other = uri then some ⟨s.subject, uri, positions⟩ else s.get? other :=
  SortedMap.find?_insert ..

theorem put_keyed {s : ResultSet} (keyed : s.Keyed) (uri : String) (positions : Positions) :
    (s.put uri positions).Keyed := by
  intro other entry found
  rw [get?_put] at found
  split at found
  · rename_i same
    cases found
    exact same.symm
  · exact keyed other entry found

theorem get?_merge (s : ResultSet) (entry : Entry) (uri : String) :
    (s.merge entry).get? uri =
      if uri = entry.uri then
        some (match s.get? entry.uri with
          | some old => { old with positions := old.positions.union entry.positions }
          | none => entry)
      else s.get? uri :=
  SortedMap.find?_insert ..

/-! ## Adding documents one after another -/

/-- The set `joined` is `acc` with more documents in it: those that `names` tells, at the positions
that `places` tells. -/
def Adds (acc joined : ResultSet) (names : String → Prop) (places : String → UInt32 → Prop) : Prop :=
  joined.Keyed ∧ ∀ uri,
    (joined.contains uri = true ↔ acc.contains uri = true ∨ names uri) ∧
      ∀ position, joined.Marks uri position ↔ acc.Marks uri position ∨ places uri position

/-- What every step of a loop adds, the loop adds. -/
theorem foldl_adds {β : Type} {step : ResultSet → β → ResultSet} (names : β → String → Prop)
    {places : β → String → UInt32 → Prop} (items : List β)
    (each : ∀ acc, acc.Keyed → ∀ item ∈ items, Adds acc (step acc item) (names item) (places item))
    (acc : ResultSet) (keyed : acc.Keyed) :
    Adds acc (items.foldl step acc) (fun uri => ∃ item ∈ items, names item uri)
      (fun uri position => ∃ item ∈ items, places item uri position) := by
  induction items generalizing acc with
  | nil =>
      refine ⟨keyed, fun uri => ⟨?_, fun position => ?_⟩⟩
      · simp
      · simp
  | cons item rest ih =>
      have first := each acc keyed item List.mem_cons_self
      have more := ih (fun acc keyed other member => each acc keyed other
        (List.mem_cons_of_mem _ member)) (step acc item) first.1
      refine ⟨more.1, fun uri => ⟨?_, fun position => ?_⟩⟩
      · rw [List.foldl_cons, (more.2 uri).1, (first.2 uri).1, or_assoc]
        simp only [List.mem_cons, exists_eq_or_imp]
      · rw [List.foldl_cons, (more.2 uri).2, (first.2 uri).2, or_assoc]
        simp only [List.mem_cons, exists_eq_or_imp]

theorem merge_adds {s : ResultSet} (keyed : s.Keyed) (entry : Entry) :
    Adds s (s.merge entry) (fun uri => entry.uri = uri)
      (fun uri position => entry.uri = uri ∧ position ∈ entry.positions) := by
  refine ⟨fun uri found eq => ?_, fun uri => ⟨?_, fun position => ?_⟩⟩
  · rw [get?_merge] at eq
    split at eq
    · rename_i same
      subst same
      cases old : s.get? entry.uri with
      | none =>
          simp only [old, Option.some.injEq] at eq
          rw [← eq]
      | some before =>
          simp only [old, Option.some.injEq] at eq
          rw [← eq]
          exact keyed entry.uri before old
    · exact keyed uri found eq
  · rw [contains_iff, contains_iff, get?_merge]
    by_cases same : uri = entry.uri
    · simp [same]
    · simp [same, Ne.symm same]
  · simp only [Marks, get?_merge]
    by_cases same : uri = entry.uri
    · subst same
      cases old : s.get? entry.uri with
      | none => simp
      | some before => simp [SortedSet.mem_union]
    · simp [same, Ne.symm same]

/-- A set that holds what its entries hold, whatever the order in which they come. -/
theorem ofEntries_adds (subject : String) (entries : List Entry) :
    Adds (empty subject) (ofEntries subject entries)
      (fun uri => ∃ entry ∈ entries, entry.uri = uri)
      (fun uri position => ∃ entry ∈ entries, entry.uri = uri ∧ position ∈ entry.positions) :=
  foldl_adds _ entries (fun _ keyed entry _ => merge_adds keyed entry) _ (empty_keyed subject)

theorem ofEntries_keyed (subject : String) (entries : List Entry) :
    (ofEntries subject entries).Keyed :=
  (ofEntries_adds subject entries).1

theorem foldl_merge_subject (entries : List Entry) (acc : ResultSet) :
    (entries.foldl merge acc).subject = acc.subject := by
  induction entries generalizing acc with
  | nil => rfl
  | cons entry rest ih => rw [List.foldl_cons, ih, merge]

/-- A set of an index's answer has its subject already. -/
theorem ofEntries_renamed (subject : String) (entries : List Entry) :
    { ofEntries subject entries with subject } = ofEntries subject entries := by
  have renamed {s : ResultSet} (same : s.subject = subject) : { s with subject } = s := by
    rw [← same]
  exact renamed (foldl_merge_subject entries (empty subject))

theorem empty_contains (subject uri : String) : (empty subject).contains uri = false := rfl

theorem not_empty_marks (subject uri : String) (position : UInt32) :
    ¬ (empty subject).Marks uri position := by
  rintro ⟨entry, found, _⟩
  rw [get?_empty] at found
  cases found

theorem ofEntries_contains (subject : String) (entries : List Entry) (uri : String) :
    (ofEntries subject entries).contains uri = true ↔ ∃ entry ∈ entries, entry.uri = uri := by
  rw [((ofEntries_adds subject entries).2 uri).1, empty_contains]
  simp

theorem ofEntries_marks (subject : String) (entries : List Entry) (uri : String)
    (position : UInt32) :
    (ofEntries subject entries).Marks uri position ↔
      ∃ entry ∈ entries, entry.uri = uri ∧ position ∈ entry.positions := by
  rw [((ofEntries_adds subject entries).2 uri).2]
  simp [not_empty_marks]

end ResultSet

/-! ## Unions -/

open ResultSet

theorem unionStep_adds {acc child : ResultSet} (accKeyed : acc.Keyed) (keyed : child.Keyed) :
    Adds acc (unionStep acc child) (fun uri => child.contains uri = true) child.Marks := by
  have loop : Adds acc (unionStep acc child)
      (fun uri => ∃ entry ∈ child.toList, entry.uri = uri)
      (fun uri position => ∃ entry ∈ child.toList, entry.uri = uri ∧ position ∈ entry.positions) := by
    refine foldl_adds _ child.toList (fun acc accKeyed entry _ => ?_) acc accKeyed
    refine ⟨put_keyed accKeyed _ _, fun uri => ⟨?_, fun position => ?_⟩⟩
    · rw [contains_iff, contains_iff, get?_put]
      by_cases same : uri = entry.uri
      · simp [same]
      · simp [same, Ne.symm same]
    · simp only [Marks, get?_put]
      by_cases same : uri = entry.uri
      · subst same
        cases old : acc.get? entry.uri with
        | none => simp
        | some before => simp [SortedSet.mem_union, or_comm]
      · simp [same, Ne.symm same]
  refine ⟨loop.1, fun uri => ⟨?_, fun position => ?_⟩⟩
  · have names := exists_mem_toList_iff keyed uri (fun _ => True)
    simp only [and_true, ← contains_iff] at names
    exact (loop.2 uri).1.trans (or_congr_right names)
  · exact ((loop.2 uri).2 position).trans (or_congr_right (exists_mem_toList_iff keyed uri _))

theorem union_adds (subject : String) {sets : List ResultSet} (keyed : ∀ s ∈ sets, s.Keyed) :
    Adds (empty subject) (union subject sets) (fun uri => ∃ s ∈ sets, s.contains uri = true)
      (fun uri position => ∃ s ∈ sets, s.Marks uri position) := by
  apply foldl_adds (fun s uri => s.contains uri = true) sets
  · intro acc accKeyed s member
    exact unionStep_adds accKeyed (keyed s member)
  · exact empty_keyed subject

theorem union_keyed (subject : String) {sets : List ResultSet} (keyed : ∀ s ∈ sets, s.Keyed) :
    (union subject sets).Keyed :=
  (union_adds subject keyed).1

/-- A union holds what any of its sets holds. -/
theorem union_contains (subject : String) {sets : List ResultSet} (keyed : ∀ s ∈ sets, s.Keyed)
    (uri : String) :
    (union subject sets).contains uri = true ↔ ∃ s ∈ sets, s.contains uri = true := by
  rw [((union_adds subject keyed).2 uri).1, empty_contains]
  simp

/-- A union marks what any of its sets marks. -/
theorem union_marks (subject : String) {sets : List ResultSet} (keyed : ∀ s ∈ sets, s.Keyed)
    (uri : String) (position : UInt32) :
    (union subject sets).Marks uri position ↔ ∃ s ∈ sets, s.Marks uri position := by
  rw [((union_adds subject keyed).2 uri).2]
  simp [not_empty_marks]

/-! ## Selections -/

/-- Puts one entry into a set if `choose` gives positions for it. -/
def pick (choose : Entry → Option Positions) (s : ResultSet) (entry : Entry) : ResultSet :=
  match choose entry with
  | some positions => s.put entry.uri positions
  | none => s

theorem select_eq_foldl (subject : String) (choose : Entry → Option Positions)
    (entries : List Entry) :
    select subject choose entries = entries.foldl (pick choose) (empty subject) := rfl

theorem pick_subject (choose : Entry → Option Positions) (s : ResultSet) (entry : Entry) :
    (pick choose s entry).subject = s.subject := by
  unfold pick
  split <;> rfl

theorem foldl_pick_of_none {choose : Entry → Option Positions} {entries : List Entry}
    (acc : ResultSet) {uri : String}
    (passed : ∀ entry ∈ entries, entry.uri = uri → choose entry = none) :
    (entries.foldl (pick choose) acc).get? uri = acc.get? uri := by
  induction entries generalizing acc with
  | nil => rfl
  | cons entry rest ih =>
      rw [List.foldl_cons, ih _ (fun e member => passed e (List.mem_cons_of_mem _ member))]
      unfold pick
      split
      · rename_i positions chosen
        rw [get?_put, if_neg]
        intro same
        rw [passed entry List.mem_cons_self same.symm] at chosen
        cases chosen
      · rfl

theorem foldl_pick_of_some {choose : Entry → Option Positions} {entries : List Entry}
    (acc : ResultSet) {entry : Entry} {positions : Positions} (member : entry ∈ entries)
    (only : ∀ other ∈ entries, other.uri = entry.uri → other = entry)
    (chosen : choose entry = some positions) :
    (entries.foldl (pick choose) acc).get? entry.uri =
      some ⟨acc.subject, entry.uri, positions⟩ := by
  induction entries generalizing acc with
  | nil => cases member
  | cons first rest ih =>
      have onlyRest : ∀ other ∈ rest, other.uri = entry.uri → other = entry :=
        fun other inRest => only other (List.mem_cons_of_mem _ inRest)
      rw [List.foldl_cons]
      by_cases inRest : entry ∈ rest
      · rw [ih _ inRest onlyRest, pick_subject]
      · have same : entry = first := by
          rcases List.mem_cons.1 member with same | later
          · exact same
          · exact absurd later inRest
        subst same
        have passed : ∀ other ∈ rest, other.uri = entry.uri → choose other = none :=
          fun other later sameUri => absurd (onlyRest other later sameUri ▸ later) inRest
        rw [foldl_pick_of_none _ passed]
        simp [pick, chosen, get?_put]

/-- A selection from a set gives each of its documents the positions that were chosen for it. -/
theorem get?_select (subject : String) (choose : Entry → Option Positions) {s : ResultSet}
    (keyed : s.Keyed) (uri : String) :
    (select subject choose s.toList).get? uri =
      ((s.get? uri).bind choose).map (fun positions => ⟨subject, uri, positions⟩) := by
  rw [select_eq_foldl]
  cases found : s.get? uri with
  | none =>
      rw [foldl_pick_of_none]
      · rfl
      · intro entry member same
        rw [mem_toList_iff keyed, same, found] at member
        cases member
  | some entry =>
      have same := keyed uri entry found
      subst same
      have only : ∀ other ∈ s.toList, other.uri = entry.uri → other = entry := by
        intro other member same
        rw [mem_toList_iff keyed, same, found] at member
        exact (Option.some.inj member).symm
      cases chosen : choose entry with
      | none =>
          rw [foldl_pick_of_none]
          · simp [chosen, get?_empty]
          · intro other member same
            rw [only other member same]
            exact chosen
      | some positions =>
          rw [foldl_pick_of_some _ ((mem_toList_iff keyed).2 found) only chosen]
          simp [chosen, empty]

theorem select_keyed (subject : String) (choose : Entry → Option Positions) {s : ResultSet}
    (keyed : s.Keyed) : (select subject choose s.toList).Keyed := by
  intro uri entry found
  rw [get?_select subject choose keyed, Option.map_eq_some_iff] at found
  obtain ⟨positions, _, rfl⟩ := found
  rfl

theorem select_contains (subject : String) (choose : Entry → Option Positions) {s : ResultSet}
    (keyed : s.Keyed) (uri : String) :
    (select subject choose s.toList).contains uri = true ↔
      ∃ entry positions, s.get? uri = some entry ∧ choose entry = some positions := by
  simp only [contains_iff, get?_select subject choose keyed, Option.map_eq_some_iff,
    Option.bind_eq_some_iff]
  constructor
  · rintro ⟨_, positions, ⟨entry, found, chosen⟩, _⟩
    exact ⟨entry, positions, found, chosen⟩
  · rintro ⟨entry, positions, found, chosen⟩
    exact ⟨_, positions, ⟨entry, found, chosen⟩, rfl⟩

theorem select_marks (subject : String) (choose : Entry → Option Positions) {s : ResultSet}
    (keyed : s.Keyed) (uri : String) (position : UInt32) :
    (select subject choose s.toList).Marks uri position ↔
      ∃ entry positions, s.get? uri = some entry ∧ choose entry = some positions ∧
        position ∈ positions := by
  simp only [Marks, get?_select subject choose keyed, Option.map_eq_some_iff,
    Option.bind_eq_some_iff]
  constructor
  · rintro ⟨_, ⟨positions, ⟨entry, found, chosen⟩, rfl⟩, member⟩
    exact ⟨entry, positions, found, chosen, member⟩
  · rintro ⟨entry, positions, found, chosen, member⟩
    exact ⟨_, ⟨positions, ⟨entry, found, chosen⟩, rfl⟩, member⟩

/-! ## Intersections and differences -/

theorem commonPositions_eq_some {entry : Entry} {rest : List ResultSet} :
    (∃ positions, commonPositions entry rest = some positions) ↔
      ∀ s ∈ rest, s.contains entry.uri = true := by
  induction rest with
  | nil => simp [commonPositions]
  | cons child rest ih =>
      rw [List.forall_mem_cons, ← ih, contains_iff, commonPositions]
      cases child.get? entry.uri with
      | none => simp
      | some other =>
          cases commonPositions entry rest with
          | none => simp
          | some positions => simp

theorem mem_commonPositions {entry : Entry} {rest : List ResultSet} {positions : Positions}
    (common : commonPositions entry rest = some positions) (position : UInt32) :
    position ∈ positions ↔ position ∈ entry.positions ∨ ∃ s ∈ rest, s.Marks entry.uri position := by
  induction rest generalizing positions with
  | nil =>
      cases common
      simp
  | cons child rest ih =>
      simp only [commonPositions] at common
      split at common
      · rename_i other more found restCommon
        cases common
        have here : child.Marks entry.uri position ↔ position ∈ other.positions := by
          simp [Marks, found]
        simp only [SortedSet.mem_union, ih restCommon, List.mem_cons, exists_eq_or_imp, here]
        rw [or_assoc, or_comm (b := position ∈ other.positions)]
      · cases common

/-- An intersection holds what all of its sets hold. -/
theorem intersection_contains (subject : String) {first : ResultSet} (keyed : first.Keyed)
    (rest : List ResultSet) (uri : String) :
    (intersection subject first rest).contains uri = true ↔
      ∀ s ∈ first :: rest, s.contains uri = true := by
  rw [intersection, select_contains subject _ keyed]
  simp only [List.mem_cons, forall_eq_or_imp, contains_iff (s := first)]
  constructor
  · rintro ⟨entry, positions, found, common⟩
    have inRest := commonPositions_eq_some.1 ⟨positions, common⟩
    rw [keyed uri entry found] at inRest
    exact ⟨⟨entry, found⟩, inRest⟩
  · rintro ⟨⟨entry, found⟩, inRest⟩
    rw [← keyed uri entry found] at inRest
    obtain ⟨positions, common⟩ := commonPositions_eq_some.2 inRest
    exact ⟨entry, positions, found, common⟩

/-- An intersection marks what any of its sets marks, in the documents that all of them hold. -/
theorem intersection_marks (subject : String) {first : ResultSet} (keyed : first.Keyed)
    (rest : List ResultSet) (uri : String) (position : UInt32) :
    (intersection subject first rest).Marks uri position ↔
      (∀ s ∈ first :: rest, s.contains uri = true) ∧ ∃ s ∈ first :: rest, s.Marks uri position := by
  rw [← intersection_contains subject keyed rest uri, intersection,
    select_marks subject _ keyed, select_contains subject _ keyed]
  constructor
  · rintro ⟨entry, positions, found, common, member⟩
    refine ⟨⟨entry, positions, found, common⟩, ?_⟩
    rw [mem_commonPositions common, keyed uri entry found] at member
    rcases member with here | ⟨s, inRest, marked⟩
    · exact ⟨first, List.mem_cons_self, entry, found, here⟩
    · exact ⟨s, List.mem_cons_of_mem _ inRest, marked⟩
  · rintro ⟨⟨entry, positions, found, common⟩, s, member, marked⟩
    refine ⟨entry, positions, found, common, ?_⟩
    rw [mem_commonPositions common, keyed uri entry found]
    rcases List.mem_cons.1 member with rfl | inRest
    · obtain ⟨other, foundOther, here⟩ := marked
      rw [found] at foundOther
      cases foundOther
      exact Or.inl here
    · exact Or.inr ⟨s, inRest, marked⟩

/-- A difference holds what its first set holds and its second does not. -/
theorem difference_contains (subject : String) {minuend : ResultSet} (keyed : minuend.Keyed)
    (subtrahend : ResultSet) (uri : String) :
    (difference subject minuend subtrahend).contains uri = true ↔
      minuend.contains uri = true ∧ ¬ subtrahend.contains uri = true := by
  rw [difference, select_contains subject _ keyed, contains_iff (s := minuend)]
  constructor
  · rintro ⟨entry, positions, found, chosen⟩
    rw [keyed uri entry found] at chosen
    split at chosen
    · cases chosen
    · rename_i absent
      exact ⟨⟨entry, found⟩, absent⟩
  · rintro ⟨⟨entry, found⟩, absent⟩
    refine ⟨entry, entry.positions, found, ?_⟩
    rw [keyed uri entry found, if_neg absent]

/-- A difference marks what its first set marks, in the documents that its second does not hold. -/
theorem difference_marks (subject : String) {minuend : ResultSet} (keyed : minuend.Keyed)
    (subtrahend : ResultSet) (uri : String) (position : UInt32) :
    (difference subject minuend subtrahend).Marks uri position ↔
      minuend.Marks uri position ∧ ¬ subtrahend.contains uri = true := by
  rw [difference, select_marks subject _ keyed]
  constructor
  · rintro ⟨entry, positions, found, chosen, member⟩
    rw [keyed uri entry found] at chosen
    split at chosen
    · cases chosen
    · rename_i absent
      cases chosen
      exact ⟨⟨entry, found, member⟩, absent⟩
  · rintro ⟨⟨entry, found, member⟩, absent⟩
    refine ⟨entry, entry.positions, found, ?_, member⟩
    rw [keyed uri entry found, if_neg absent]

/-! ## Phrases -/

/-- The sets mark positions of a document that follow one another from `start` on, each one further
than the one before; the numbers are counted on beyond 32 bits. -/
def RunsFrom (sets : List ResultSet) (uri : String) (start : Nat) : Prop :=
  ∀ i s, sets[i]? = some s → ∃ position, s.Marks uri position ∧ position.toNat = start + i

theorem runsFrom_nil (uri : String) (start : Nat) : RunsFrom [] uri start := by
  intro i s found
  cases found

theorem runsFrom_cons {s : ResultSet} {rest : List ResultSet} {uri : String} {start : Nat} :
    RunsFrom (s :: rest) uri start ↔
      (∃ position, s.Marks uri position ∧ position.toNat = start) ∧
        RunsFrom rest uri (start + 1) := by
  constructor
  · intro runs
    refine ⟨runs 0 s rfl, fun i t found => ?_⟩
    obtain ⟨position, marked, eq⟩ := runs (i + 1) t found
    exact ⟨position, marked, by omega⟩
  · rintro ⟨here, runs⟩ i t found
    cases i with
    | zero =>
        cases found
        exact here
    | succ i =>
        obtain ⟨position, marked, eq⟩ := runs i t found
        exact ⟨position, marked, by omega⟩

/-- The followers of a word are found, and stand where they should, exactly when their sets mark a
run. -/
theorem followedFrom_iff (uri : String) (rest : List ResultSet) (start : Nat) :
    (∃ followers, rest.mapM (fun child => child.get? uri) = some followers ∧
        followedFrom start (followers.map Entry.positions) = true) ↔
      RunsFrom rest uri (start + 1) := by
  induction rest generalizing start with
  | nil => simp [followedFrom, runsFrom_nil]
  | cons child rest ih =>
      rw [runsFrom_cons, ← ih]
      have inWord : ∀ positions : Positions,
          (start + 1 < UInt32.size ∧ UInt32.ofNat (start + 1) ∈ positions) ↔
            ∃ position ∈ positions, position.toNat = start + 1 := by
        intro positions
        constructor
        · rintro ⟨small, member⟩
          exact ⟨_, member, UInt32.toNat_ofNat_of_lt' small⟩
        · rintro ⟨position, member, eq⟩
          refine ⟨by rw [← eq]; exact position.toNat_lt, ?_⟩
          rw [← eq, UInt32.ofNat_toNat]
          exact member
      cases found : child.get? uri with
      | none => simp [List.mapM_cons, found, Marks]
      | some entry =>
          have here : (∃ position, child.Marks uri position ∧ position.toNat = start + 1) ↔
              start + 1 < UInt32.size ∧ UInt32.ofNat (start + 1) ∈ entry.positions := by
            rw [inWord]
            simp [Marks, found]
          rw [here]
          cases more : rest.mapM (fun child => child.get? uri) with
          | none => simp [List.mapM_cons, found, more]
          | some followers =>
              simp [List.mapM_cons, found, more, followedFrom, SortedSet.contains_iff, and_assoc]

theorem mem_phraseStarts {entry : Entry} {rest : List ResultSet} {start : UInt32} :
    (∃ starts, phraseStarts entry rest = some starts ∧ start ∈ starts) ↔
      start ∈ entry.positions ∧ RunsFrom rest entry.uri (start.toNat + 1) := by
  rw [← followedFrom_iff, phraseStarts]
  cases rest.mapM (fun child => child.get? entry.uri) with
  | none => simp
  | some followers =>
      simp only [Option.some.injEq, exists_eq_left']
      have filtered : start ∈ entry.positions.filter (fun start : UInt32 =>
            followedFrom start.toNat (followers.map Entry.positions)) ↔
          start ∈ entry.positions ∧
            followedFrom start.toNat (followers.map Entry.positions) = true :=
        SortedSet.mem_filter
      rw [← filtered]
      constructor
      · rintro ⟨starts, chosen, member⟩
        split at chosen
        · cases chosen
        · cases chosen
          exact member
      · intro member
        refine ⟨_, if_neg ?_, member⟩
        rw [SortedSet.isEmpty_iff]
        exact fun none => none start member

theorem phraseStarts_nonempty {entry : Entry} {rest : List ResultSet} {starts : Positions}
    (chosen : phraseStarts entry rest = some starts) : ∃ start, start ∈ starts := by
  unfold phraseStarts at chosen
  split at chosen
  · cases chosen
  · dsimp only at chosen
    split at chosen
    · cases chosen
    · rename_i some
      cases chosen
      rw [SortedSet.isEmpty_iff] at some
      push Not at some
      exact some

/-- A phrase marks the positions from which its words run. -/
theorem phrase_marks (subject : String) {first : ResultSet} (keyed : first.Keyed)
    (rest : List ResultSet) (uri : String) (start : UInt32) :
    (phrase subject first rest).Marks uri start ↔ RunsFrom (first :: rest) uri start.toNat := by
  rw [phrase, select_marks subject _ keyed, runsFrom_cons]
  constructor
  · rintro ⟨entry, starts, found, chosen, member⟩
    obtain ⟨here, runs⟩ := mem_phraseStarts.1 ⟨starts, chosen, member⟩
    rw [keyed uri entry found] at runs
    exact ⟨⟨start, ⟨entry, found, here⟩, rfl⟩, runs⟩
  · rintro ⟨⟨position, ⟨entry, found, here⟩, same⟩, runs⟩
    have eq : position = start := UInt32.toNat.inj same
    subst eq
    rw [← keyed uri entry found] at runs
    obtain ⟨starts, chosen, member⟩ := mem_phraseStarts.2 ⟨here, runs⟩
    exact ⟨entry, starts, found, chosen, member⟩

/-- A phrase holds the documents in which its words run from somewhere. -/
theorem phrase_contains (subject : String) {first : ResultSet} (keyed : first.Keyed)
    (rest : List ResultSet) (uri : String) :
    (phrase subject first rest).contains uri = true ↔
      ∃ start : UInt32, RunsFrom (first :: rest) uri start.toNat := by
  constructor
  · intro held
    rw [phrase, select_contains subject _ keyed] at held
    obtain ⟨entry, starts, found, chosen⟩ := held
    obtain ⟨start, member⟩ := phraseStarts_nonempty chosen
    refine ⟨start, (phrase_marks subject keyed rest uri start).1 ?_⟩
    rw [phrase, select_marks subject _ keyed]
    exact ⟨entry, starts, found, chosen, member⟩
  · rintro ⟨start, runs⟩
    exact contains_of_marks ((phrase_marks subject keyed rest uri start).2 runs)

/-! ## Combining -/

theorem combineSets_union {op : Operation} (joins : op = .union ∨ op = .merge) (subject : String)
    {sets : List ResultSet} (enough : 2 ≤ sets.length) :
    combineSets op subject sets = .ok (union subject sets) := by
  match sets, enough with
  | first :: second :: rest, _ => rcases joins with rfl | rfl <;> rfl

theorem combineSets_intersection (subject : String) {first : ResultSet} {rest : List ResultSet}
    (enough : 2 ≤ (first :: rest).length) :
    combineSets .intersection subject (first :: rest) = .ok (intersection subject first rest) := by
  match rest, enough with
  | second :: rest, _ => rfl

/-- Whatever is combined from sets whose entries are filed under their documents is such a set. -/
theorem combineSets_keyed {op : Operation} {subject : String} {sets : List ResultSet}
    {set : ResultSet} (combined : combineSets op subject sets = .ok set)
    (keyed : ∀ s ∈ sets, s.Keyed) : set.Keyed := by
  unfold combineSets at combined
  split at combined
  · cases combined
    rename_i only
    exact keyed only List.mem_cons_self
  · cases combined
    exact select_keyed subject _ (keyed _ List.mem_cons_self)
  · cases combined
    exact select_keyed subject _ (keyed _ List.mem_cons_self)
  · cases combined
    exact union_keyed subject keyed
  · cases combined
    exact union_keyed subject keyed
  · cases combined
    exact select_keyed subject _ (keyed _ List.mem_cons_self)
  · cases combined

end Concordance.Search
