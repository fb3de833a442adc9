/-
# Concordance.Proofs.Contents -- an index is its documents

An index goes through a history of changes, and nobody who asks it can tell more of
the history than the documents that it left: `Memory.Shows` lists what every question
is answered in terms of the documents, and `after_shows` that it is so after any
history.  Even what is stored is settled by the documents (`after_eq_of_stored`), since
no word is kept that no document holds (`Memory.Tight`).  So changes under different
names can be made in either order (`stored_swap`).
-/
import Concordance.Proofs.Documents
import Mathlib

namespace Concordance

open Concordance.Data

set_option autoImplicit false

universe u v

/-! ## Counting in sorted maps -/

namespace Data.SortedMap

variable {κ : Type u} {ν : Type v} [LT κ] [LE κ] [DecidableLT κ] [DecidableEq κ]
  [Std.IsLinearOrder κ] [Std.LawfulOrderLT κ]

omit [DecidableLT κ] [Std.IsLinearOrder κ] in
theorem mem_keys_iff (m : SortedMap κ ν) (k : κ) : k ∈ m.keys ↔ ∃ v, m.find? k = some v := by
  simp only [keys, List.mem_map, Prod.exists, exists_and_right, exists_eq_right,
    find?_eq_some_iff]

omit [DecidableLT κ] [DecidableEq κ] [Std.IsLinearOrder κ] in
theorem keys_nodup (m : SortedMap κ ν) : m.keys.Nodup := by
  rw [keys, List.Nodup, List.pairwise_map]
  refine m.sorted.imp ?_
  intro a b less same
  rw [same] at less
  exact Std.lt_irrefl less

omit [DecidableLT κ] [Std.IsLinearOrder κ] in
theorem keys_toFinset_card (m : SortedMap κ ν) : m.keys.toFinset.card = m.size := by
  rw [List.toFinset_card_of_nodup m.keys_nodup, keys, List.length_map, size]

omit [DecidableLT κ] [Std.IsLinearOrder κ] in
/-- There are as many pairs as there are keys under which something is filed. -/
theorem size_eq_encard (m : SortedMap κ ν) :
    (m.size : ℕ∞) = {k | ∃ v, m.find? k = some v}.encard := by
  have keys : {k | ∃ v, m.find? k = some v} = ↑m.keys.toFinset := by
    ext k
    rw [Set.mem_ofPred_eq, Finset.mem_coe, List.mem_toFinset, mem_keys_iff]
  rw [keys, Set.encard_coe_eq_coe_finsetCard, keys_toFinset_card]

omit [DecidableLT κ] [Std.IsLinearOrder κ] in
theorem find_eq_none_of_lt {k : κ} {l : List (κ × ν)} (before : ∀ p ∈ l, k < p.1) :
    find k l = none := by
  cases found : find k l with
  | none => rfl
  | some v => exact absurd (before _ (mem_of_find found)) Std.lt_irrefl

theorem sum_place (f : ν → Nat) (k : κ) (v : ν) {l : List (κ × ν)}
    (sorted : l.Pairwise (fun a b => a.1 < b.1)) :
    ((place k v l).map (fun p => f p.2)).sum + ((find k l).map f).getD 0 =
      (l.map (fun p => f p.2)).sum + f v := by
  induction l with
  | nil => simp [place, find]
  | cons q rest ih =>
      obtain ⟨k', v'⟩ := q
      obtain ⟨least, sorted⟩ := List.pairwise_cons.1 sorted
      rw [place]
      split
      · rename_i before
        have absent : find k ((k', v') :: rest) = none :=
          find_eq_none_of_lt (List.forall_mem_cons.2
            ⟨before, fun p later => Std.lt_trans before (least p later)⟩)
        rw [absent]
        simp [Nat.add_comm]
      · split
        · rename_i same
          subst same
          simp [find]
          omega
        · rename_i other
          have rest := ih sorted
          simp only [find, other, if_false, List.map_cons, List.sum_cons]
          omega

/-- A value that is filed counts in place of the one that it replaces. -/
theorem sum_values_insert (f : ν → Nat) (m : SortedMap κ ν) (k : κ) (v : ν) :
    ((m.insert k v).values.map f).sum + ((m.find? k).map f).getD 0 =
      (m.values.map f).sum + f v := by
  simpa [values, insert, find?, Function.comp_def] using sum_place f k v m.sorted

theorem isEmpty_insert (m : SortedMap κ ν) (k : κ) (v : ν) : (m.insert k v).isEmpty = false := by
  cases empty : (m.insert k v).isEmpty with
  | false => rfl
  | true =>
      have found := find?_insert m k k v
      rw [if_pos rfl, find?_of_isEmpty empty] at found
      cases found

omit [DecidableLT κ] [Std.IsLinearOrder κ] in
theorem exists_find?_of_not_isEmpty {m : SortedMap κ ν} (some : m.isEmpty = false) :
    ∃ k v, m.find? k = Option.some v := by
  obtain ⟨⟨k, v⟩, rest, cut⟩ := List.exists_cons_of_ne_nil
    (show m.toList ≠ [] by simpa [isEmpty] using some)
  refine ⟨k, v, m.find?_eq_some_iff.2 ?_⟩
  rw [cut]
  exact List.mem_cons_self

end Data.SortedMap

namespace Index

/-! ## The size of a text -/

theorem sum_fileWords (words : List String) (offset : Nat)
    (acc : SortedMap String (List UInt32)) :
    ((fileWords offset acc words).values.map List.length).sum =
      (acc.values.map List.length).sum + words.length := by
  induction words generalizing offset acc with
  | nil => rfl
  | cons word rest ih =>
      have filed := acc.sum_values_insert List.length word
        ((acc.find? word).getD [] ++ [UInt32.ofNat offset])
      have more : ((acc.find? word).getD []).length = ((acc.find? word).map List.length).getD 0 := by
        cases acc.find? word <;> rfl
      rw [List.length_append, more, List.length_singleton] at filed
      rw [fileWords, ih, List.length_cons]
      omega

/-- A description tells how many words a text has, and how many of them are different. -/
theorem describe_wordOffsets (uri : String) (title : Option String) (text : String) :
    Memory.describe uri title (wordOffsets text) =
      { uri, title, wordCount := (textWords text).length,
        uniqueWords := (textWords text).toFinset.card } := by
  have count : (wordOffsets text).values.foldl (fun count positions => count + positions.length) 0 =
      (textWords text).length := by
    rw [← List.foldl_map (f := List.length) (g := (· + ·)), ← List.sum_eq_foldl, wordOffsets,
      sum_fileWords]
    simp [SortedMap.empty, SortedMap.values]
  have unique : (wordOffsets text).size = (textWords text).toFinset.card := by
    rw [← SortedMap.keys_toFinset_card]
    congr 1
    ext word
    rw [List.mem_toFinset, List.mem_toFinset, SortedMap.mem_keys_iff, find?_wordOffsets]
  rw [Memory.describe, count, unique]

namespace Memory

/-! ## No word without a document -/

/-- Every word that is filed is filed for some document. -/
def Tight (index : Memory) : Prop :=
  ∀ word documents, index.postings.find? word = some documents → documents.isEmpty = false

theorem tight_empty : Tight empty := by
  intro word documents found
  cases found

/-- Filing words leaves no word without a document. -/
theorem tight_filePosting (entries : List Entry)
    {postings : SortedMap String (SortedMap String Entry)}
    (tight : ∀ word documents, postings.find? word = some documents → documents.isEmpty = false) :
    ∀ word documents, (entries.foldl filePosting postings).find? word = some documents →
      documents.isEmpty = false := by
  induction entries generalizing postings with
  | nil => exact tight
  | cons entry rest ih =>
      refine ih fun word documents found => ?_
      rw [filePosting, SortedMap.find?_insert] at found
      split at found
      · cases found
        exact SortedMap.isEmpty_insert ..
      · exact tight word documents found

theorem tight_withoutDocument (postings : SortedMap String (SortedMap String Entry))
    (uri word : String) (documents : SortedMap String Entry)
    (found : (withoutDocument postings uri).find? word = some documents) :
    documents.isEmpty = false := by
  rw [withoutDocument, SortedMap.find?_filter, Option.filter_eq_some_iff] at found
  simpa using found.2

theorem Tight.change {index : Memory} (tight : index.Tight) (change : Change) :
    (index.change change).Tight := by
  cases change with
  | add uri title text =>
      refine tight_filePosting _ ?_
      split
      · exact tight_withoutDocument _ uri
      · exact tight
  | remove uri =>
      show (index.remove uri).1.Tight
      unfold remove
      split
      · exact tight_withoutDocument _ uri
      · exact tight

theorem tight_after (history : List Change) : (after history).Tight := by
  unfold after
  have run : ∀ index : Memory, index.Tight → (history.foldl Memory.change index).Tight := by
    induction history with
    | nil => exact fun _ tight => tight
    | cons change rest ih => exact fun _ tight => ih _ (tight.change change)
  exact run _ tight_empty

/-- A word is filed exactly when some document has an entry for it. -/
theorem Tight.find?_iff {index : Memory} (tight : index.Tight) (word : String) :
    (∃ documents, index.postings.find? word = some documents) ↔
      ∃ uri entry, posting index.postings word uri = some entry := by
  unfold posting
  constructor
  · rintro ⟨documents, found⟩
    obtain ⟨uri, entry, filed⟩ := SortedMap.exists_find?_of_not_isEmpty (tight word documents found)
    exact ⟨uri, entry, by rw [found, Option.bind_some, filed]⟩
  · rintro ⟨uri, entry, filed⟩
    obtain ⟨documents, found, _⟩ := Option.bind_eq_some_iff.1 filed
    exact ⟨documents, found⟩

/-! ## One index for the same documents -/

/-- The postings of a word are settled by the single entries. -/
theorem find?_postings_eq {first second : Memory} (tight : first.Tight) (other : second.Tight)
    (same : ∀ word uri, posting first.postings word uri = posting second.postings word uri)
    (word : String) : first.postings.find? word = second.postings.find? word := by
  have both : (∃ documents, first.postings.find? word = some documents) ↔
      ∃ documents, second.postings.find? word = some documents := by
    simp only [tight.find?_iff, other.find?_iff, same]
  cases found : first.postings.find? word with
  | none =>
      cases foundOther : second.postings.find? word with
      | none => rfl
      | some documents =>
          obtain ⟨_, impossible⟩ := both.2 ⟨documents, foundOther⟩
          rw [found] at impossible
          cases impossible
  | some documents =>
      obtain ⟨others, foundOther⟩ := both.1 ⟨documents, found⟩
      rw [foundOther, Option.some.injEq]
      refine SortedMap.ext_find? fun uri => ?_
      have entries := same word uri
      rwa [posting, posting, found, foundOther, Option.bind_some, Option.bind_some] at entries

/-- **One index for the same documents.** -/
theorem Mirrors.eq {first second : Memory} {documents : String → Option Document}
    (mirrors : first.Mirrors documents) (other : second.Mirrors documents) (tight : first.Tight)
    (otherTight : second.Tight) : first = second := by
  have postings : first.postings = second.postings :=
    SortedMap.ext_find? (find?_postings_eq tight otherTight fun word uri => by
      rw [mirrors.filed, other.filed])
  have described : first.documents = second.documents :=
    SortedMap.ext_find? fun uri => by rw [mirrors.described, other.described]
  cases first
  cases second
  cases postings
  cases described
  rfl

theorem after_eq_of_stored {first second : List Change} (same : stored first = stored second) :
    after first = after second := by
  have mirrors := mirrors_after first
  rw [same] at mirrors
  exact mirrors.eq (mirrors_after second) (tight_after first) (tight_after second)

end Memory

/-! ## Changes under different names -/

/-- The name of the document that a change is about. -/
def Change.uri : Change → String
  | .add uri _ _ => uri
  | .remove uri => uri

theorem Change.onDocuments_of_ne (documents : String → Option Document) (change : Change)
    {uri : String} (other : uri ≠ change.uri) :
    change.onDocuments documents uri = documents uri := by
  cases change with
  | add name title text =>
      rw [onDocuments_add]
      exact if_neg other
  | remove name =>
      rw [onDocuments_remove]
      exact if_neg other

/-- What a change leaves under its own name does not depend on what was there. -/
theorem Change.onDocuments_self (documents others : String → Option Document) (change : Change) :
    change.onDocuments documents change.uri = change.onDocuments others change.uri := by
  cases change with
  | add name title text => rw [onDocuments_add, onDocuments_add, uri, if_pos rfl, if_pos rfl]
  | remove name => rw [onDocuments_remove, onDocuments_remove, uri, if_pos rfl, if_pos rfl]

theorem stored_append (history more : List Change) :
    stored (history ++ more) = more.foldl Change.onDocuments (stored history) := List.foldl_append

/-- Changes under different names do the same to the documents in either order. -/
theorem Change.onDocuments_comm (documents : String → Option Document) {first second : Change}
    (apart : first.uri ≠ second.uri) :
    second.onDocuments (first.onDocuments documents) =
      first.onDocuments (second.onDocuments documents) := by
  funext uri
  by_cases isFirst : uri = first.uri
  · subst isFirst
    rw [Change.onDocuments_of_ne _ second apart]
    exact Change.onDocuments_self _ _ first
  · rw [Change.onDocuments_of_ne _ first isFirst]
    by_cases isSecond : uri = second.uri
    · subst isSecond
      exact Change.onDocuments_self _ _ second
    · rw [Change.onDocuments_of_ne _ second isSecond, Change.onDocuments_of_ne _ second isSecond,
        Change.onDocuments_of_ne _ first isFirst]

theorem stored_swap (history : List Change) {first second : Change}
    (apart : first.uri ≠ second.uri) :
    stored (history ++ [first, second]) = stored (history ++ [second, first]) := by
  rw [stored_append, stored_append]
  exact Change.onDocuments_comm _ apart

namespace Memory

/-- What whoever makes a change is told: the description of a document that was added, or whether
there was one to remove. -/
def told (index : Memory) : Change → Description ⊕ Bool
  | .add uri title text => .inl (index.add uri title text).2
  | .remove uri => .inr (index.remove uri).2

/-! ## Answers in terms of the documents -/

/-- Every question is answered as the documents are. -/
structure Shows (index : Memory) (documents : String → Option Document) : Prop where
  /-- The entries of a word are in the order of the documents' names, and no document has two. -/
  ordered : ∀ word, (index.lookup word).Pairwise (fun a b => a.uri < b.uri)
  /-- A document has an entry exactly for the words that it holds; it is named by the word, and its
  positions are the numbers of the places at which the word stands. -/
  entries : ∀ word entry, entry ∈ index.lookup word ↔
    ∃ d, documents entry.uri = some d ∧ word ∈ textWords d.text ∧ entry.subject = word ∧
      ∀ place : Nat, (∃ position ∈ entry.positions, position.toNat = place) ↔
        (textWords d.text)[place]? = some word
  /-- Documents, and no others, are described by their title and by how many words and how many
  different words they have. -/
  described : ∀ uri, index.description? uri = (documents uri).map (fun d =>
    { uri, title := d.title, wordCount := (textWords d.text).length,
      uniqueWords := (textWords d.text).toFinset.card })
  /-- The documents are counted. -/
  documentCount : (index.documentCount : ℕ∞) = {uri | ∃ d, documents uri = some d}.encard
  /-- The different words of all documents are counted. -/
  wordCount : (index.wordCount : ℕ∞) =
    {word | ∃ uri d, documents uri = some d ∧ word ∈ textWords d.text}.encard
  /-- Whoever removes a document is told whether there was one. -/
  removed : ∀ uri, (index.remove uri).2 = true ↔ ∃ d, documents uri = some d

theorem remove_snd (index : Memory) (uri : String) :
    (index.remove uri).2 = (index.documents.find? uri).isSome := by
  unfold remove SortedMap.contains
  split <;> simp_all

section Mirroring

variable {index : Memory} {documents : String → Option Document}

/-- The entries of a word are those of the documents that hold it. -/
theorem Mirrors.mem_lookup_iff (mirrors : index.Mirrors documents) (word : String) (entry : Entry) :
    entry ∈ index.lookup word ↔ ∃ d numbers, documents entry.uri = some d ∧
      (wordOffsets d.text).find? word = some numbers ∧
      entry = Entry.ofOffsets word entry.uri numbers := by
  rw [Memory.mem_lookup_iff]
  simp only [mirrors.filed, Option.bind_eq_some_iff, Option.map_eq_some_iff]
  constructor
  · rintro ⟨uri, d, document, numbers, found, rfl⟩
    exact ⟨d, numbers, document, found, rfl⟩
  · rintro ⟨d, numbers, document, found, same⟩
    exact ⟨entry.uri, d, document, numbers, found, same.symm⟩

/-- Entries are listed in the order of the names under which they are filed. -/
theorem Mirrors.lookup_ordered (mirrors : index.Mirrors documents) (word : String) :
    (index.lookup word).Pairwise (fun a b => a.uri < b.uri) := by
  unfold lookup
  cases found : index.postings.find? word with
  | none => exact .nil
  | some filed =>
      have named : ∀ p ∈ filed.toList, p.2.uri = p.1 := by
        rintro ⟨uri, entry⟩ member
        have here : posting index.postings word uri = some entry := by
          rw [posting, found, Option.bind_some, filed.find?_eq_some_iff]
          exact member
        rw [mirrors.filed, Option.bind_eq_some_iff] at here
        obtain ⟨d, _, numbered⟩ := here
        obtain ⟨numbers, _, rfl⟩ := Option.map_eq_some_iff.1 numbered
        rfl
      show (filed.toList.map Prod.snd).Pairwise _
      rw [List.pairwise_map]
      refine filed.sorted.imp_of_mem fun {a b} first second less => ?_
      rw [named a first, named b second]
      exact less

/-- The positions of an entry are the numbers of its places. -/
theorem places_ofOffsets {text word : String} {numbers : List UInt32}
    (short : (textWords text).length < UInt32.size)
    (found : (wordOffsets text).find? word = some numbers) (uri : String) (place : Nat) :
    (∃ position ∈ (Entry.ofOffsets word uri numbers).positions, position.toNat = place) ↔
      (textWords text)[place]? = some word := by
  have numbered (number : UInt32) : number ∈ numbers ↔
      (textWords text)[number.toNat]? = some word := by
    rw [← numbered_wordOffsets (Nat.le_of_lt short)]
    unfold Numbered
    simp [found]
  constructor
  · rintro ⟨position, member, rfl⟩
    exact (numbered position).1 (SortedSet.mem_ofList.1 member)
  · intro here
    have small := Nat.lt_trans (List.getElem?_eq_some_iff.1 here).1 short
    have exact : (UInt32.ofNat place).toNat = place := UInt32.toNat_ofNat_of_lt' small
    refine ⟨UInt32.ofNat place, SortedSet.mem_ofList.2 ((numbered _).2 ?_), exact⟩
    rw [exact]
    exact here

theorem exists_toNat_eq (positions : SortedSet UInt32) (position : UInt32) :
    (∃ other ∈ positions, other.toNat = position.toNat) ↔ position ∈ positions := by
  simp only [UInt32.toNat_inj, exists_eq_right]

theorem Mirrors.lookup_entries (mirrors : index.Mirrors documents)
    (short : ∀ uri d, documents uri = some d → (textWords d.text).length < UInt32.size)
    (word : String) (entry : Entry) :
    entry ∈ index.lookup word ↔
      ∃ d, documents entry.uri = some d ∧ word ∈ textWords d.text ∧ entry.subject = word ∧
        ∀ place : Nat, (∃ position ∈ entry.positions, position.toNat = place) ↔
          (textWords d.text)[place]? = some word := by
  rw [mirrors.mem_lookup_iff]
  constructor
  · rintro ⟨d, numbers, document, found, same⟩
    have places := places_ofOffsets (short _ d document) found entry.uri
    rw [← same] at places
    exact ⟨d, document, (find?_wordOffsets d.text word).1 ⟨numbers, found⟩, congrArg Entry.subject same,
      places⟩
  · rintro ⟨d, document, member, rfl, places⟩
    obtain ⟨numbers, found⟩ := (find?_wordOffsets d.text entry.subject).2 member
    refine ⟨d, numbers, document, found, ?_⟩
    have positions : entry.positions = SortedSet.ofList numbers := by
      refine SortedSet.ext_mem fun position => ?_
      have here := (places position.toNat).trans
        (places_ofOffsets (short _ d document) found entry.uri position.toNat).symm
      rwa [Entry.ofOffsets, exists_toNat_eq, exists_toNat_eq] at here
    rw [Entry.ofOffsets, ← positions]

theorem Mirrors.described_iff (mirrors : index.Mirrors documents) (uri : String) :
    (∃ description, index.documents.find? uri = some description) ↔
      ∃ d, documents uri = some d := by
  rw [mirrors.described]
  simp

/-- **An index that mirrors documents shows them**, and nothing else. -/
theorem Mirrors.shows (mirrors : index.Mirrors documents) (tight : index.Tight)
    (short : ∀ uri d, documents uri = some d → (textWords d.text).length < UInt32.size) :
    index.Shows documents where
  ordered := mirrors.lookup_ordered
  entries := mirrors.lookup_entries short
  described uri := by
    rw [description?, mirrors.described]
    simp only [describe_wordOffsets]
  documentCount := by
    rw [Memory.documentCount, SortedMap.size_eq_encard]
    simp only [mirrors.described_iff]
  wordCount := by
    have filed (word : String) : (∃ filed, index.postings.find? word = some filed) ↔
        ∃ uri d, documents uri = some d ∧ word ∈ textWords d.text := by
      rw [tight.find?_iff]
      simp only [mirrors.filed, Option.bind_eq_some_iff, Option.map_eq_some_iff,
        ← find?_wordOffsets]
      constructor
      · rintro ⟨uri, _, d, document, numbers, found, _⟩
        exact ⟨uri, d, document, numbers, found⟩
      · rintro ⟨uri, d, document, numbers, found⟩
        exact ⟨uri, _, d, document, numbers, found, rfl⟩
    rw [Memory.wordCount, SortedMap.size_eq_encard]
    simp only [filed]
  removed uri := by
    rw [← mirrors.described_iff, remove_snd, Option.isSome_iff_exists]

end Mirroring

/-- What a change is answered depends on the document of its name alone. -/
theorem told_of_ne {index other : Memory} {documents others : String → Option Document}
    (mirrors : index.Mirrors documents) (otherMirrors : other.Mirrors others) (change : Change)
    (same : documents change.uri = others change.uri) : index.told change = other.told change := by
  cases change with
  | add uri title text => rfl
  | remove uri =>
      have described : index.documents.find? uri = other.documents.find? uri := by
        rw [mirrors.described, otherMirrors.described]
        exact congrArg _ same
      rw [told, told, remove_snd, remove_snd, described]

/-- **An index is its documents.**  After any history of short texts every question is answered as
the documents that it left are; the same documents make the same index, whatever the history; and
changes under different names can be made, and are answered, in either order. -/
theorem after_shows {history : List Change} (short : ∀ change ∈ history, change.IsShort) :
    (after history).Shows (stored history) ∧
      (∀ other, stored other = stored history → after other = after history) ∧
      ∀ first second : Change, first.uri ≠ second.uri →
        after (history ++ [first, second]) = after (history ++ [second, first]) ∧
          (after (history ++ [first])).told second = (after history).told second := by
  refine ⟨(mirrors_after history).shows (tight_after history) (fun _ _ => short_of_stored short),
    fun other same => after_eq_of_stored same, fun first second apart => ⟨?_, ?_⟩⟩
  · exact after_eq_of_stored (stored_swap history apart)
  · refine told_of_ne (mirrors_after _) (mirrors_after _) second ?_
    rw [stored_append]
    exact Change.onDocuments_of_ne _ first (Ne.symm apart)

/-! ## A history of five changes -/

/-- Two documents come, one is replaced by a text without words, and the other goes and comes back. -/
def redrafted : List Change :=
  [.add "a" none "One two one", .add "b" (some "B") "two", .add "a" (some "A") "--", .remove "b",
    .add "b" none "Two three two"]

theorem after_shows_redrafted :
    (∀ change ∈ redrafted, change.IsShort) ∧
      ((after redrafted).Shows (stored redrafted) ∧
        (∀ other, stored other = stored redrafted → after other = after redrafted) ∧
        ∀ first second : Change, first.uri ≠ second.uri →
          after (redrafted ++ [first, second]) = after (redrafted ++ [second, first]) ∧
            (after (redrafted ++ [first])).told second = (after redrafted).told second) := by
  have short : ∀ change ∈ redrafted, change.IsShort := by
    simp only [redrafted, List.forall_mem_cons, Change.IsShort]
    refine ⟨?_, ?_, ?_, trivial, ?_, by simp⟩
    · cbv
    · cbv
    · cbv
    · cbv
  exact ⟨short, after_shows short⟩

end Memory

end Index

end Concordance
