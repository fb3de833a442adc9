/-
# Concordance.Proofs.Numbering -- the numbers of the words hold the text

An index keeps no text, but only which words a text has and under which numbers.
Nothing of their order is lost by that (`Encodes`): every number below the number of
words belongs to one word, the numbers of a word increase, and whoever puts the words
back at their numbers has the words of the text again (`putBack`).

The words are the matches of the class of document characters in the lower-case text,
found from left to right and each as long as it can be (`Text.Matches`).  Numbers are
32-bit words, and they suffice exactly as long as there are enough of them
(`encodes_wordOffsets_iff`).
-/
import Concordance.Proofs.Contents
import Concordance.Proofs.Words

namespace Concordance

open Concordance.Data Concordance.Text

set_option autoImplicit false

/-! ## Matches of a class of characters -/

namespace Text

/-- The matches of a class of characters in a text, from left to right: before each of them stands
nothing of the class that is not matched yet, and none could be longer. -/
inductive Matches (isPart : Char → Bool) : List Char → List (List Char) → Prop
  | none {gap : List Char} (outside : ∀ c ∈ gap, isPart c = false) : Matches isPart gap []
  | next {gap run rest : List Char} {found : List (List Char)}
      (outside : ∀ c ∈ gap, isPart c = false) (filled : run ≠ [])
      (inside : ∀ c ∈ run, isPart c = true) (ends : ∀ c ∈ rest.head?, isPart c = false)
      (more : Matches isPart rest found) : Matches isPart (gap ++ (run ++ rest)) (run :: found)

section Matches

variable {isPart : Char → Bool}

/-- A match at the very beginning. -/
theorem Matches.first {run rest : List Char} {found : List (List Char)} (filled : run ≠ [])
    (inside : ∀ c ∈ run, isPart c = true) (ends : ∀ c ∈ rest.head?, isPart c = false)
    (more : Matches isPart rest found) : Matches isPart (run ++ rest) (run :: found) := by
  have matched : Matches isPart ([] ++ (run ++ rest)) (run :: found) :=
    .next nofun filled inside ends more
  exact matched

/-- Every text has its matches. -/
theorem exists_matches (isPart : Char → Bool) (s : List Char) :
    ∃ found, Matches isPart s found := by
  induction s with
  | nil => exact ⟨[], .none nofun⟩
  | cons c rest ih =>
      obtain ⟨found, matched⟩ := ih
      by_cases isOne : isPart c = true
      · have alone : ∀ d ∈ [c], isPart d = true := by simpa using isOne
        cases matched with
        | none outside =>
            refine ⟨[[c]], .first (by simp) alone ?_ (.none outside)⟩
            intro d first
            exact outside d (List.mem_of_mem_head? first)
        | @next gap run last found outside filled inside ends more =>
            cases gap with
            | nil =>
                refine ⟨(c :: run) :: found, .first (List.cons_ne_nil c run) ?_ ends more⟩
                exact List.forall_mem_cons.2 ⟨isOne, inside⟩
            | cons d gap =>
                refine ⟨[c] :: run :: found, .first (by simp) alone ?_
                  (.next outside filled inside ends more)⟩
                intro other first
                cases first
                exact outside d List.mem_cons_self
      · have other : isPart c = false := by simpa using isOne
        cases matched with
        | none outside => exact ⟨[], .none (List.forall_mem_cons.2 ⟨other, outside⟩)⟩
        | @next gap run last found outside filled inside ends more =>
            have wider : ∀ d ∈ c :: gap, isPart d = false :=
              List.forall_mem_cons.2 ⟨other, outside⟩
            exact ⟨run :: found, .next wider filled inside ends more⟩

theorem runs_gap {sep : Char → Bool} {gap : List Char} (separates : ∀ c ∈ gap, sep c = true)
    (s : List Char) : runs sep (gap ++ s) = runs sep s := by
  induction gap with
  | nil => rfl
  | cons c gap ih =>
      obtain ⟨first, others⟩ := List.forall_mem_cons.1 separates
      rw [← ih others, List.cons_append, runs, List.splitOnP_cons_eq_if_modifyHead, if_pos first,
        List.filter_cons]
      rfl

theorem runs_run {sep : Char → Bool} {run rest : List Char} (filled : run ≠ [])
    (inside : ∀ c ∈ run, sep c = false) (ends : ∀ c ∈ rest.head?, sep c = true) :
    runs sep (run ++ rest) = run :: runs sep rest := by
  have kept : (!run.isEmpty) = true := by simpa using filled
  cases rest with
  | nil =>
      rw [List.append_nil, runs, List.splitOnP_eq_singleton inside, List.filter_singleton, kept]
      rfl
  | cons x rest =>
      have skipped : runs sep ([x] ++ rest) = runs sep rest :=
        runs_gap (by simpa using ends x rfl) rest
      rw [List.singleton_append] at skipped
      rw [skipped, runs, List.splitOnP_append_cons_of_forall_mem inside x (ends x rfl),
        List.filter_cons, kept]
      rfl

/-- **The matches of a class are the runs between the others.** -/
theorem matches_iff {s : List Char} {found : List (List Char)} :
    Matches isPart s found ↔ found = runs (fun c => !isPart c) s := by
  have settled {found : List (List Char)} (matched : Matches isPart s found) :
      found = runs (fun c => !isPart c) s := by
    induction matched with
    | @none gap outside =>
        have nothing : runs (fun c => !isPart c) (gap ++ []) = runs (fun c => !isPart c) [] :=
          runs_gap (by simpa using outside) []
        rw [List.append_nil] at nothing
        rw [nothing]
        rfl
    | next outside filled inside ends more ih =>
        rw [runs_gap (by simpa using outside), runs_run filled (by simpa using inside) ?_, ih]
        intro c first
        rw [ends c first]
        rfl
  constructor
  · exact settled
  · intro same
    obtain ⟨other, matched⟩ := exists_matches isPart s
    rw [same, ← settled matched]
    exact matched

end Matches

end Text

namespace Index

/-! ## The places of a word -/

/-- The places at which a word stands, counted from an offset on. -/
def placesFrom (word : String) : Nat → List String → List Nat
  | _, [] => []
  | offset, first :: rest =>
      if first = word then offset :: placesFrom word (offset + 1) rest
      else placesFrom word (offset + 1) rest

theorem mem_placesFrom {word : String} {offset place : Nat} {words : List String}
    (member : place ∈ placesFrom word offset words) :
    offset ≤ place ∧ place < offset + words.length := by
  induction words generalizing offset with
  | nil => cases member
  | cons first rest ih =>
      rw [placesFrom] at member
      rw [List.length_cons]
      split at member
      · rcases List.mem_cons.1 member with rfl | later
        · omega
        · have := ih later
          omega
      · have := ih member
        omega

theorem placesFrom_ascending (word : String) (offset : Nat) (words : List String) :
    (placesFrom word offset words).Pairwise (· < ·) := by
  induction words generalizing offset with
  | nil => exact .nil
  | cons first rest ih =>
      rw [placesFrom]
      split
      · refine List.pairwise_cons.2 ⟨?_, ih (offset + 1)⟩
        intro place later
        have := (mem_placesFrom later).1
        omega
      · exact ih (offset + 1)

/-- A word is filed under its places, behind the numbers that it had. -/
theorem getD_find?_fileWords (words : List String) (offset : Nat)
    (acc : SortedMap String (List UInt32)) (word : String) :
    ((fileWords offset acc words).find? word).getD [] =
      (acc.find? word).getD [] ++ (placesFrom word offset words).map UInt32.ofNat := by
  induction words generalizing offset acc with
  | nil => simp [fileWords, placesFrom]
  | cons first rest ih =>
      rw [fileWords, ih, SortedMap.find?_insert, placesFrom]
      by_cases same : word = first
      · subst same
        simp
      · simp [same, Ne.symm same]

theorem numbers_eq_places {text word : String} {numbers : List UInt32}
    (found : (wordOffsets text).find? word = some numbers) :
    numbers = (placesFrom word 0 (textWords text)).map UInt32.ofNat := by
  have filed := getD_find?_fileWords (textWords text) 0 SortedMap.empty word
  rw [← wordOffsets, found] at filed
  simpa using filed

/-! ## Words put back -/

/-- The numbers that are given, each with its word. -/
def filings (offsets : SortedMap String (List UInt32)) : List (UInt32 × String) :=
  offsets.toList.flatMap (fun p => p.2.map (fun number => (number, p.1)))

/-- The words at their numbers, in a row of as many places as there are numbers. -/
def putBack (offsets : SortedMap String (List UInt32)) : List (Option String) :=
  (filings offsets).foldl (fun places filing => places.set filing.1.toNat (some filing.2))
    (List.replicate (filings offsets).length none)

theorem mem_filings_iff {offsets : SortedMap String (List UInt32)} {filing : UInt32 × String} :
    filing ∈ filings offsets ↔ Numbered offsets filing.2 filing.1 := by
  obtain ⟨number, word⟩ := filing
  simp only [filings, Numbered, List.mem_flatMap, List.mem_map, Prod.exists, Prod.mk.injEq,
    SortedMap.find?_eq_some_iff]
  constructor
  · rintro ⟨_, numbers, member, _, isOne, rfl, rfl⟩
    exact ⟨numbers, member, isOne⟩
  · rintro ⟨numbers, member, isOne⟩
    exact ⟨word, numbers, member, number, isOne, rfl, rfl⟩

theorem length_filings (offsets : SortedMap String (List UInt32)) :
    (filings offsets).length = (offsets.values.map List.length).sum := by
  simp [filings, SortedMap.values, List.length_flatMap, Function.comp_def]

section PuttingBack

variable {filed : List (UInt32 × String)} {places : List (Option String)}

theorem length_foldl_set :
    (filed.foldl (fun places filing => places.set filing.1.toNat (some filing.2)) places).length =
      places.length := by
  induction filed generalizing places with
  | nil => rfl
  | cons filing rest ih => rw [List.foldl_cons, ih, List.length_set]

/-- A place at which one word alone is put ends up with that word. -/
theorem getElem?_foldl_set {place : Nat} {word : String} (inside : place < places.length)
    (alone : ∀ filing ∈ filed, filing.1.toNat = place → filing.2 = word)
    (put : places[place]? = some (some word) ∨ ∃ filing ∈ filed, filing.1.toNat = place) :
    (filed.foldl (fun places filing => places.set filing.1.toNat (some filing.2)) places)[place]? =
      some (some word) := by
  induction filed generalizing places with
  | nil => simpa using put
  | cons filing rest ih =>
      obtain ⟨first, others⟩ := List.forall_mem_cons.1 alone
      rw [List.foldl_cons]
      apply ih (by rwa [List.length_set]) others
      by_cases here : filing.1.toNat = place
      · left
        rw [here, List.getElem?_set_self inside, first here]
      · rw [List.getElem?_set_ne here]
        simpa [here] using put

end PuttingBack

/-! ## What the numbers tell -/

/-- The numbers of some words tell where each of them stands. -/
structure Encodes (offsets : SortedMap String (List UInt32)) (words : List String) : Prop where
  /-- A word that is filed has a number. -/
  filled : ∀ word numbers, offsets.find? word = some numbers → numbers ≠ []
  /-- Its numbers increase. -/
  ascending : ∀ word numbers, offsets.find? word = some numbers → numbers.Pairwise (· < ·)
  /-- No number belongs to two words. -/
  disjoint : ∀ word other numbers others, offsets.find? word = some numbers →
    offsets.find? other = some others → word ≠ other → numbers.Disjoint others
  /-- Together they are the numbers from zero up to how many words there are. -/
  together : ∀ place : Nat, (∃ word numbers, offsets.find? word = some numbers ∧
    ∃ number ∈ numbers, number.toNat = place) ↔ place < words.length
  /-- Put back at their numbers, the words stand as they stood. -/
  restored : putBack offsets = words.map some

section Numbers

variable {text : String}

/-- As many words as there are numbers for are told apart by their numbers. -/
theorem encodes_wordOffsets (enough : (textWords text).length ≤ UInt32.size) :
    Encodes (wordOffsets text) (textWords text) where
  filled word numbers found := by
    obtain ⟨place, inside, here⟩ := List.getElem_of_mem ((find?_wordOffsets text word).1 ⟨_, found⟩)
    have filed : Numbered (wordOffsets text) word (UInt32.ofNat place) := by
      apply (numbered_wordOffsets enough word _).2
      rw [UInt32.toNat_ofNat_of_lt' (Nat.lt_of_lt_of_le inside enough)]
      rw [List.getElem?_eq_getElem inside, here]
    obtain ⟨others, same, member⟩ := filed
    rw [found] at same
    cases same
    exact List.ne_nil_of_mem member
  ascending word numbers found := by
    rw [numbers_eq_places found, List.pairwise_map]
    refine (placesFrom_ascending word 0 (textWords text)).imp_of_mem ?_
    intro place later first second less
    have small := (mem_placesFrom first).2
    have smallLater := (mem_placesFrom second).2
    rw [UInt32.lt_iff_toNat_lt, UInt32.toNat_ofNat_of_lt' (by omega),
      UInt32.toNat_ofNat_of_lt' (by omega)]
    exact less
  disjoint word other numbers others found foundOther apart := by
    intro number first second
    have here := (numbered_wordOffsets enough word number).1 ⟨numbers, found, first⟩
    have there := (numbered_wordOffsets enough other number).1 ⟨others, foundOther, second⟩
    rw [here] at there
    exact apart (Option.some.inj there)
  together place := by
    constructor
    · rintro ⟨word, numbers, found, number, member, rfl⟩
      have here := (numbered_wordOffsets enough word number).1 ⟨numbers, found, member⟩
      exact (List.getElem?_eq_some_iff.1 here).1
    · intro inside
      have exact : (UInt32.ofNat place).toNat = place :=
        UInt32.toNat_ofNat_of_lt' (Nat.lt_of_lt_of_le inside enough)
      obtain ⟨numbers, found, member⟩ :=
        (numbered_wordOffsets enough (textWords text)[place] (UInt32.ofNat place)).2 (by
          rw [exact, List.getElem?_eq_getElem inside])
      exact ⟨_, numbers, found, _, member, exact⟩
  restored := by
    have size : (filings (wordOffsets text)).length = (textWords text).length := by
      rw [length_filings, wordOffsets, sum_fileWords]
      simp [SortedMap.empty, SortedMap.values]
    refine List.ext_getElem? fun place => ?_
    by_cases inside : place < (textWords text).length
    · have exact : (UInt32.ofNat place).toNat = place :=
        UInt32.toNat_ofNat_of_lt' (Nat.lt_of_lt_of_le inside enough)
      rw [List.getElem?_map, List.getElem?_eq_getElem inside, Option.map_some]
      apply getElem?_foldl_set
      · rwa [List.length_replicate, size]
      · rintro ⟨number, word⟩ filed rfl
        have here := (numbered_wordOffsets enough word number).1 (mem_filings_iff.1 filed)
        rw [List.getElem?_eq_getElem inside] at here
        exact (Option.some.inj here).symm
      · refine Or.inr ⟨(UInt32.ofNat place, (textWords text)[place]), ?_, exact⟩
        apply mem_filings_iff.2
        apply (numbered_wordOffsets enough _ _).2
        rw [exact, List.getElem?_eq_getElem inside]
    · have beyond : (textWords text).length ≤ place := Nat.le_of_not_lt inside
      rw [List.getElem?_eq_none, List.getElem?_eq_none]
      · rwa [List.length_map]
      · rwa [putBack, length_foldl_set, List.length_replicate, size]

/-- **Numbers tell the words of a text apart** exactly if there are enough of them. -/
theorem encodes_wordOffsets_iff (text : String) :
    Encodes (wordOffsets text) (textWords text) ↔ (textWords text).length ≤ UInt32.size := by
  refine ⟨fun encodes => ?_, encodes_wordOffsets⟩
  -- The place behind the last number, if it were one of the text, would have a number.
  by_contra more
  obtain ⟨word, numbers, _, number, _, same⟩ :=
    (encodes.together UInt32.size).2 (Nat.lt_of_not_le more)
  have small := number.toNat_lt_size
  omega

end Numbers

/-- **A text is held by the numbers of its words.**  Its words are what matches the class of document
characters in lower case; as long as there are no more of them than numbers, and no longer, the
numbers tell where each stands.  Whoever adds the text to an index is told how many words it has, and
how many different ones. -/
theorem wordOffsets_holds_text (text : String) {found : List (List Char)}
    (matched : Matches isDocumentChar (lowercase text).toList found) :
    (Encodes (wordOffsets text) (found.map String.ofList) ↔ found.length ≤ UInt32.size) ∧
      ∀ (index : Memory) (uri : String) (title : Option String),
        (index.add uri title text).2.wordCount = found.length ∧
          (index.add uri title text).2.uniqueWords =
            (found.map String.ofList).toFinset.card := by
  have words : found.map String.ofList = textWords text := by
    rw [matches_iff.1 matched, lowercase, String.toList_ofList]
    rfl
  have count : found.length = (textWords text).length := by rw [← words, List.length_map]
  rw [words, count]
  refine ⟨encodes_wordOffsets_iff text, fun index uri title => ?_⟩
  have described : (index.add uri title text).2 = Memory.describe uri title (wordOffsets text) := rfl
  rw [described, describe_wordOffsets]
  exact ⟨rfl, rfl⟩

/-- A sentence in which two words come back. -/
theorem wordOffsets_holds_text_catMat :
    Matches isDocumentChar (lowercase "The cat sat on the Cat-mat.").toList
        ["the".toList, "cat".toList, "sat".toList, "on".toList, "the".toList, "cat".toList,
          "mat".toList] ∧
      Encodes (wordOffsets "The cat sat on the Cat-mat.")
        ["the", "cat", "sat", "on", "the", "cat", "mat"] ∧
      putBack (wordOffsets "The cat sat on the Cat-mat.") =
        ["the", "cat", "sat", "on", "the", "cat", "mat"].map some ∧
      (Memory.empty.add "a.txt" none "The cat sat on the Cat-mat.").2.wordCount = 7 ∧
      (Memory.empty.add "a.txt" none "The cat sat on the Cat-mat.").2.uniqueWords = 5 := by
  have matched : Matches isDocumentChar (lowercase "The cat sat on the Cat-mat.").toList
      ["the".toList, "cat".toList, "sat".toList, "on".toList, "the".toList, "cat".toList,
        "mat".toList] := by
    rw [matches_iff]
    cbv
  obtain ⟨holds, reports⟩ := wordOffsets_holds_text _ matched
  have encodes := holds.2 (by decide)
  obtain ⟨count, unique⟩ := reports Memory.empty "a.txt" none
  exact ⟨matched, encodes, encodes.restored, count, unique.trans (by decide)⟩

end Index

end Concordance
