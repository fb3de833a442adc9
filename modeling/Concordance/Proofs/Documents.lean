/-
# Concordance.Proofs.Documents -- what an index in memory holds

A history of changes leaves documents behind (`stored`): of each name, the one that
was added last and not removed since.  The index that went through the same history
holds exactly their words (`mirrors_after`): no posting of an earlier version or of
a removed document is left, and none is missing.

So the answer for a word can be read off the documents: `lookup_contains` and
`lookup_marks`.
-/
import Concordance.Index.Memory
import Concordance.Proofs.Matches

namespace Concordance.Index

open Concordance.Data Concordance.Search

set_option autoImplicit false

/-! ## The numbers of the words -/

/-- The word is filed under that number. -/
def Numbered (offsets : SortedMap String (List UInt32)) (word : String) (number : UInt32) : Prop :=
  ∃ numbers, offsets.find? word = some numbers ∧ number ∈ numbers

theorem numbered_insert (offsets : SortedMap String (List UInt32)) (word other : String)
    (number n : UInt32) :
    Numbered (offsets.insert word ((offsets.find? word).getD [] ++ [number])) other n ↔
      Numbered offsets other n ∨ (other = word ∧ n = number) := by
  unfold Numbered
  rw [SortedMap.find?_insert]
  by_cases same : other = word
  · subst same
    cases offsets.find? other <;> simp
  · simp [same]

/-- Filing words numbers each of them by its place. -/
theorem numbered_fileWords (words : List String) (offset : Nat)
    (acc : SortedMap String (List UInt32)) (word : String) (number : UInt32) :
    Numbered (fileWords offset acc words) word number ↔
      Numbered acc word number ∨
        ∃ i, words[i]? = some word ∧ number = UInt32.ofNat (offset + i) := by
  induction words generalizing offset acc with
  | nil => simp [fileWords]
  | cons first rest ih =>
      rw [fileWords, ih, numbered_insert, or_assoc]
      refine or_congr_right ⟨?_, ?_⟩
      · rintro (⟨rfl, rfl⟩ | ⟨i, found, rfl⟩)
        · exact ⟨0, rfl, rfl⟩
        · exact ⟨i + 1, found, by rw [Nat.add_right_comm, Nat.add_assoc]⟩
      · rintro ⟨i, found, rfl⟩
        cases i with
        | zero => exact Or.inl ⟨(Option.some.inj found).symm, rfl⟩
        | succ i => exact Or.inr ⟨i, found, by rw [Nat.add_right_comm, Nat.add_assoc]⟩

/-- Every word is filed, and nothing else is. -/
theorem find?_fileWords (words : List String) (offset : Nat)
    (acc : SortedMap String (List UInt32)) (word : String) :
    (∃ numbers, (fileWords offset acc words).find? word = some numbers) ↔
      (∃ numbers, acc.find? word = some numbers) ∨ word ∈ words := by
  induction words generalizing offset acc with
  | nil => simp [fileWords]
  | cons first rest ih =>
      rw [fileWords, ih, SortedMap.find?_insert, List.mem_cons, ← or_assoc]
      by_cases same : word = first
      · simp [same]
      · simp [same]

theorem find?_wordOffsets (text word : String) :
    (∃ numbers, (wordOffsets text).find? word = some numbers) ↔ word ∈ textWords text := by
  rw [wordOffsets, find?_fileWords]
  simp

/-- The words of a text for which there are enough numbers are filed under their places. -/
theorem numbered_wordOffsets {text : String} (short : (textWords text).length ≤ UInt32.size)
    (word : String) (number : UInt32) :
    Numbered (wordOffsets text) word number ↔
      (textWords text)[number.toNat]? = some word := by
  have none : ¬ Numbered SortedMap.empty word number := by
    rintro ⟨numbers, found, _⟩
    cases found
  rw [wordOffsets, numbered_fileWords]
  simp only [none, false_or, Nat.zero_add]
  constructor
  · rintro ⟨i, found, rfl⟩
    have small := (List.getElem?_eq_some_iff.1 found).1
    rw [UInt32.toNat_ofNat_of_lt' (Nat.lt_of_lt_of_le small short)]
    exact found
  · intro found
    exact ⟨number.toNat, found, UInt32.ofNat_toNat.symm⟩

/-! ## Postings -/

namespace Memory

/-- The entry of a word in a document. -/
def posting (postings : SortedMap String (SortedMap String Entry)) (word uri : String) :
    Option Entry :=
  (postings.find? word).bind (fun documents => documents.find? uri)

theorem posting_filePosting (postings : SortedMap String (SortedMap String Entry)) (entry : Entry)
    (word uri : String) :
    posting (filePosting postings entry) word uri =
      if word = entry.subject ∧ uri = entry.uri then some entry else posting postings word uri := by
  unfold posting filePosting
  rw [SortedMap.find?_insert]
  by_cases same : word = entry.subject
  · subst same
    rw [if_pos rfl, Option.bind_some, SortedMap.find?_insert]
    cases postings.find? entry.subject <;> simp
  · simp [same]

/-- The postings without a document are the others. -/
theorem posting_withoutDocument (postings : SortedMap String (SortedMap String Entry))
    (word uri other : String) :
    posting (withoutDocument postings uri) word other =
      if other = uri then none else posting postings word other := by
  unfold posting withoutDocument
  rw [SortedMap.find?_filter, SortedMap.find?_map]
  cases postings.find? word with
  | none => simp
  | some documents =>
      have cleared : ((documents.erase uri).find? other) =
          if other = uri then none else documents.find? other := SortedMap.find?_erase ..
      rw [Option.map_some, Option.filter_some, Option.bind_some, ← cleared]
      split
      · rfl
      · -- A word whose last document goes is dropped, as if it had none.
        rename_i dropped
        have nothing : (documents.erase uri).isEmpty = true := by simpa using dropped
        rw [SortedMap.find?_of_isEmpty nothing]
        rfl

/-- Filing the words of a document replaces what was filed of it under the same words. -/
theorem posting_foldl_filePosting (uri : String) {pairs : List (String × List UInt32)}
    (distinct : (pairs.map Prod.fst).Nodup) (postings : SortedMap String (SortedMap String Entry))
    (word other : String) :
    posting ((pairs.map (fun p => Entry.ofOffsets p.1 uri p.2)).foldl filePosting postings) word
        other =
      if other = uri then
        ((SortedMap.find word pairs).map (Entry.ofOffsets word uri)).or (posting postings word uri)
      else posting postings word other := by
  induction pairs generalizing postings with
  | nil => by_cases same : other = uri <;> simp [SortedMap.find, same]
  | cons pair rest ih =>
      obtain ⟨fresh, others⟩ := List.nodup_cons.1 distinct
      rw [List.map_cons, List.foldl_cons, ih others, posting_filePosting, posting_filePosting]
      by_cases same : other = uri
      · subst same
        by_cases here : word = pair.1
        · subst here
          have absent : SortedMap.find pair.1 rest = none := by
            cases found : SortedMap.find pair.1 rest with
            | none => rfl
            | some numbers =>
                exact absurd (List.mem_map_of_mem (SortedMap.mem_of_find found)) fresh
          simp [SortedMap.find, absent, Entry.ofOffsets]
        · simp [SortedMap.find, here, Entry.ofOffsets]
      · simp [same, Entry.ofOffsets]

/-- An entry is an answer for a word exactly when it is filed under the word. -/
theorem mem_lookup_iff (index : Memory) (word : String) (entry : Entry) :
    entry ∈ index.lookup word ↔ ∃ uri, posting index.postings word uri = some entry := by
  unfold lookup posting
  cases index.postings.find? word with
  | none => simp
  | some documents =>
      simp only [SortedMap.values, List.mem_map, Prod.exists, exists_eq_right, Option.bind_some,
        SortedMap.find?_eq_some_iff]

end Memory

/-! ## Histories -/

/-- A document as it was added. -/
structure Document where
  title : Option String
  text : String

/-- A change to an index. -/
inductive Change
  | add (uri : String) (title : Option String) (text : String)
  | remove (uri : String)

/-- The text that a change brings, if any, has fewer words than there are numbers. -/
def Change.IsShort : Change → Prop
  | .add _ _ text => (textWords text).length < UInt32.size
  | .remove _ => True

/-- What a change does to the documents. -/
def Change.onDocuments (documents : String → Option Document) : Change → String → Option Document
  | .add uri title text, other => if other = uri then some ⟨title, text⟩ else documents other
  | .remove uri, other => if other = uri then none else documents other

theorem Change.onDocuments_add (documents : String → Option Document) (uri : String)
    (title : Option String) (text other : String) :
    onDocuments documents (.add uri title text) other =
      if other = uri then some ⟨title, text⟩ else documents other := rfl

theorem Change.onDocuments_remove (documents : String → Option Document) (uri other : String) :
    onDocuments documents (.remove uri) other = if other = uri then none else documents other := rfl

/-- The documents that a history leaves. -/
def stored (history : List Change) : String → Option Document :=
  history.foldl Change.onDocuments (fun _ => none)

namespace Memory

/-- The index after a change. -/
def change (index : Memory) : Change → Memory
  | .add uri title text => (index.add uri title text).1
  | .remove uri => (index.remove uri).1

/-- The index after a history that began without documents. -/
def after (history : List Change) : Memory := history.foldl change empty

/-- The index describes those documents and holds their words, and nothing else. -/
structure Mirrors (index : Memory) (documents : String → Option Document) : Prop where
  described : ∀ uri, index.documents.find? uri =
    (documents uri).map (fun d => describe uri d.title (wordOffsets d.text))
  filed : ∀ word uri, posting index.postings word uri =
    (documents uri).bind (fun d => ((wordOffsets d.text).find? word).map (Entry.ofOffsets word uri))

theorem mirrors_empty : Mirrors empty (fun _ => none) := ⟨fun _ => rfl, fun _ _ => rfl⟩

/-- A document that an index does not describe has no postings in it. -/
theorem Mirrors.posting_of_absent {index : Memory} {documents : String → Option Document}
    (mirrors : index.Mirrors documents) {uri : String}
    (absent : ¬ index.documents.contains uri = true) (word : String) :
    posting index.postings word uri = none := by
  have nothing : documents uri = none := by
    have described := mirrors.described uri
    cases document : documents uri with
    | none => rfl
    | some d =>
        rw [document] at described
        exact absurd (by rw [SortedMap.contains, described]; rfl) absent
  rw [mirrors.filed, nothing]
  rfl

theorem Mirrors.add {index : Memory} {documents : String → Option Document}
    (mirrors : index.Mirrors documents) (uri : String) (title : Option String) (text : String) :
    (index.add uri title text).1.Mirrors
      (Change.onDocuments documents (.add uri title text)) := by
  -- Nothing is left of an earlier version when the words are filed.
  have cleared : ∀ word other,
      posting (if index.documents.contains uri then withoutDocument index.postings uri
        else index.postings) word other =
      if other = uri then none else posting index.postings word other := by
    intro word other
    split
    · exact posting_withoutDocument ..
    · rename_i absent
      split
      · rename_i same
        rw [same]
        exact mirrors.posting_of_absent absent word
      · rfl
  have distinct : ((wordOffsets text).toList.map Prod.fst).Nodup := by
    rw [List.Nodup, List.pairwise_map]
    refine (wordOffsets text).sorted.imp ?_
    intro a b less same
    rw [same] at less
    exact Std.lt_irrefl less
  constructor
  · intro other
    show (index.documents.insert uri _).find? other = _
    rw [SortedMap.find?_insert, mirrors.described]
    rw [Change.onDocuments_add]
    split
    · rename_i same
      rw [same]
      rfl
    · rfl
  · intro word other
    show posting (List.foldl filePosting _ _) word other = _
    rw [posting_foldl_filePosting uri distinct, cleared, cleared, mirrors.filed]
    rw [Change.onDocuments_add]
    split
    · rename_i same
      rw [same, if_pos rfl, Option.or_none]
      rfl
    · exact mirrors.filed word other

theorem Mirrors.remove {index : Memory} {documents : String → Option Document}
    (mirrors : index.Mirrors documents) (uri : String) :
    (index.remove uri).1.Mirrors (Change.onDocuments documents (.remove uri)) := by
  unfold Memory.remove
  split
  · constructor
    · intro other
      show (index.documents.erase uri).find? other = _
      rw [SortedMap.find?_erase, mirrors.described]
      rw [Change.onDocuments_remove]
      split <;> rfl
    · intro word other
      show posting (withoutDocument index.postings uri) word other = _
      rw [posting_withoutDocument, mirrors.filed]
      rw [Change.onDocuments_remove]
      split <;> rfl
  · rename_i absent
    constructor
    · intro other
      rw [Change.onDocuments_remove]
      split
      · rename_i same
        rw [same]
        simpa [SortedMap.contains] using absent
      · exact mirrors.described other
    · intro word other
      rw [Change.onDocuments_remove]
      split
      · rename_i same
        rw [same]
        exact mirrors.posting_of_absent absent word
      · exact mirrors.filed word other

theorem Mirrors.change {index : Memory} {documents : String → Option Document}
    (mirrors : index.Mirrors documents) (change : Change) :
    (index.change change).Mirrors (change.onDocuments documents) := by
  cases change with
  | add uri title text => exact mirrors.add uri title text
  | remove uri => exact mirrors.remove uri

/-- **No residue, no gap.**  An index holds the words of the documents that its history leaves. -/
theorem mirrors_after (history : List Change) : (after history).Mirrors (stored history) := by
  unfold after stored
  have run : ∀ (index : Memory) (documents : String → Option Document),
      index.Mirrors documents →
        (history.foldl Memory.change index).Mirrors (history.foldl Change.onDocuments documents) := by
    induction history with
    | nil => exact fun _ _ mirrors => mirrors
    | cons change rest ih => exact fun _ _ mirrors => ih _ _ (mirrors.change change)
  exact run _ _ mirrors_empty

/-! ## Answers -/

section Answers

variable {index : Memory} {documents : String → Option Document}

/-- The answer for a word names the documents that hold it. -/
theorem Mirrors.lookup_contains (mirrors : index.Mirrors documents) (subject word uri : String) :
    (ResultSet.ofEntries subject (index.lookup word)).contains uri = true ↔
      ∃ d, documents uri = some d ∧ word ∈ textWords d.text := by
  rw [ResultSet.ofEntries_contains]
  constructor
  · rintro ⟨entry, member, rfl⟩
    obtain ⟨other, filed⟩ := (mem_lookup_iff index word entry).1 member
    rw [mirrors.filed, Option.bind_eq_some_iff] at filed
    obtain ⟨d, document, filed⟩ := filed
    obtain ⟨numbers, found, rfl⟩ := Option.map_eq_some_iff.1 filed
    exact ⟨d, document, (find?_wordOffsets d.text word).1 ⟨numbers, found⟩⟩
  · rintro ⟨d, document, member⟩
    obtain ⟨numbers, found⟩ := (find?_wordOffsets d.text word).2 member
    refine ⟨Entry.ofOffsets word uri numbers, (mem_lookup_iff index word _).2 ⟨uri, ?_⟩, rfl⟩
    rw [mirrors.filed, document, Option.bind_some, found]
    rfl

/-- The answer for a word numbers the places at which a document holds it. -/
theorem Mirrors.lookup_marks (mirrors : index.Mirrors documents) (uri : String)
    (short : ∀ d, documents uri = some d → (textWords d.text).length < UInt32.size)
    (subject word : String) (position : UInt32) :
    (ResultSet.ofEntries subject (index.lookup word)).Marks uri position ↔
      ∃ d, documents uri = some d ∧ (textWords d.text)[position.toNat]? = some word := by
  rw [ResultSet.ofEntries_marks]
  constructor
  · rintro ⟨entry, member, rfl, placed⟩
    obtain ⟨other, filed⟩ := (mem_lookup_iff index word entry).1 member
    rw [mirrors.filed, Option.bind_eq_some_iff] at filed
    obtain ⟨d, document, filed⟩ := filed
    obtain ⟨numbers, found, rfl⟩ := Option.map_eq_some_iff.1 filed
    refine ⟨d, document, ?_⟩
    exact (numbered_wordOffsets (Nat.le_of_lt (short d document)) word position).1
      ⟨numbers, found, SortedSet.mem_ofList.1 placed⟩
  · rintro ⟨d, document, here⟩
    obtain ⟨numbers, found, member⟩ :=
      (numbered_wordOffsets (Nat.le_of_lt (short d document)) word position).2 here
    refine ⟨Entry.ofOffsets word uri numbers, (mem_lookup_iff index word _).2 ⟨uri, ?_⟩, rfl,
      SortedSet.mem_ofList.2 member⟩
    rw [mirrors.filed, document, Option.bind_some, found]
    rfl

end Answers

end Memory

/-- A history of short texts leaves short texts. -/
theorem short_of_stored {history : List Change} (short : ∀ change ∈ history, change.IsShort)
    {uri : String} {d : Document} (left : stored history uri = some d) :
    (textWords d.text).length < UInt32.size := by
  have run : ∀ documents : String → Option Document,
      (∀ uri d, documents uri = some d → (textWords d.text).length < UInt32.size) →
      ∀ uri d, history.foldl Change.onDocuments documents uri = some d →
        (textWords d.text).length < UInt32.size := by
    clear left
    induction history with
    | nil => exact fun _ all => all
    | cons change rest ih =>
        intro documents all
        obtain ⟨first, others⟩ := List.forall_mem_cons.1 short
        refine ih others _ fun uri d left => ?_
        cases change with
        | add name title text =>
            rw [Change.onDocuments_add] at left
            split at left
            · cases left
              exact first
            · exact all uri d left
        | remove name =>
            rw [Change.onDocuments_remove] at left
            split at left
            · cases left
            · exact all uri d left
  exact run (fun _ => none) (by simp) uri d left

end Concordance.Index
