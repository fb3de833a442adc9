/-
# Concordance.Proofs.Loading -- a directory is loaded in any order

A directory has no order of its own: whoever lists it may be told of its items in any.
Loading goes through them one after another, and adds those that hold a text
(`HoldsText`) under their names.  The names are different, and additions under different
names can be made in either order (`Change.onDocuments_comm`), so every listing comes to
the same index and the same count (`load_anyOrder`).

The index is the earlier one with these texts added, each in place of any document of its
name (`Loads`).  What is passed over leaves no trace: of a document whose name no text has,
every question is answered as before (`Memory.SameAt`).

A file name is bytes, and a document goes by a text.  A file whose name is none is passed
over, whatever it ends in, and so is a file that is called `.txt` and nothing before it
(`load_unnamed`).
-/
import Concordance.Index.Directory
import Concordance.Proofs.Contents
import Concordance.Proofs.Encodings

namespace Concordance.Index

open Concordance.Data Concordance.Net Concordance.Text

set_option autoImplicit false

/-! ## Texts in a directory -/

/-- The extension of a name is what follows its last dot, behind something else. -/
theorem extension?_eq_some_iff {name ending : FileName} :
    extension? name = some ending ↔
      dotByte ∉ ending ∧ ∃ stem, stem ≠ [] ∧ name = stem ++ dotByte :: ending := by
  constructor
  · intro extended
    unfold extension? at extended
    rw [List.span_eq_takeWhile_dropWhile] at extended
    have whole := List.takeWhile_append_dropWhile (p := fun b => decide (b ≠ dotByte))
      (l := name.reverse)
    have within : dotByte ∉ name.reverse.takeWhile (fun b => decide (b ≠ dotByte)) := by
      intro member
      have passes := List.mem_takeWhile_imp member
      simp at passes
    have stops := List.head?_dropWhile_not (fun b => decide (b ≠ dotByte)) name.reverse
    generalize name.reverse.takeWhile (fun b => decide (b ≠ dotByte)) = front
      at extended whole within
    generalize name.reverse.dropWhile (fun b => decide (b ≠ dotByte)) = back
      at extended whole stops
    rcases back with _ | ⟨dot, _ | ⟨last, others⟩⟩
    · cases extended
    · cases extended
    · cases extended
      have isDot : dot = dotByte := by simpa using stops
      subst isDot
      refine ⟨by simpa using within, (last :: others).reverse, by simp, ?_⟩
      have bytes := congrArg List.reverse whole
      rw [List.reverse_reverse] at bytes
      rw [← bytes]
      simp
  · rintro ⟨single, stem, filled, rfl⟩
    have cut : (stem ++ dotByte :: ending).reverse = ending.reverse ++ dotByte :: stem.reverse := by
      simp
    have spans : (ending.reverse ++ dotByte :: stem.reverse).span (· ≠ dotByte) =
        (ending.reverse, dotByte :: stem.reverse) :=
      span_append (isOther_of_notMem (by simpa using single)) (by simp)
    unfold extension?
    rw [cut, spans]
    rcases bytes : stem.reverse with _ | ⟨b, rest⟩
    · exact absurd (by simpa using bytes) filled
    · simp

/-- A name that is a text has an extension as the text has it. -/
theorem extension?_utf8_eq_some_iff {uri : String} :
    extension? (utf8 uri.toList) = some (utf8 "txt".toList) ↔
      ∃ stem, stem ≠ "" ∧ uri = stem ++ ".txt" := by
  have suffix : utf8 ".txt".toList = dotByte :: utf8 "txt".toList := by decide
  rw [extension?_eq_some_iff, and_iff_right (by decide), ← suffix]
  constructor
  · rintro ⟨front, filled, bytes⟩
    have ascii : ∀ c ∈ ".txt".toList, c.toNat < 128 := by simp
    obtain ⟨stem, chars, rfl⟩ := eq_append_of_utf8_eq_append ascii bytes
    refine ⟨String.ofList stem, ?_, ?_⟩
    · intro nothing
      obtain rfl : stem = [] := by simpa using congrArg String.toList nothing
      exact filled utf8_nil
    · apply String.toList_inj.1
      simp [chars]
  · rintro ⟨stem, filled, rfl⟩
    refine ⟨utf8 stem.toList, ?_, by rw [String.toList_append, utf8_append]⟩
    intro nothing
    exact filled (String.toList_inj.1 (utf8_injective (nothing.trans utf8_nil.symm)))

/-- A directory holds a text under a name: a file of that name that can be read, which ends in
`.txt` and begins with something else, and whose bytes are the text. -/
def HoldsText (directory : SortedMap FileName DirectoryItem) (uri text : String) : Prop :=
  directory.find? (utf8 uri.toList) = some (.file text.toUTF8) ∧
    ∃ stem, stem ≠ "" ∧ uri = stem ++ ".txt"

/-- What is to be loaded of an item is its name and its text, if it has both and is called so. -/
theorem loadable?_eq_some_iff {name : FileName} {item : DirectoryItem} {uri text : String} :
    loadable? name item = some (uri, text) ↔
      name = utf8 uri.toList ∧ item = .file text.toUTF8 ∧ ∃ stem, stem ≠ "" ∧ uri = stem ++ ".txt" := by
  cases item with
  | unreadable => simp [loadable?]
  | directory => simp [loadable?]
  | file bytes =>
      rw [loadable?, DirectoryItem.file.injEq]
      by_cases extended : extension? name = some (utf8 "txt".toList)
      · rw [if_pos extended]
        simp only [bind, Option.bind_eq_some_iff, pure, Option.some.injEq, Prod.mk.injEq,
          decodeStrict_eq_some_iff, fromUTF8?_eq_some_iff]
        constructor
        · rintro ⟨_, rfl, _, rfl, rfl, rfl⟩
          exact ⟨rfl, rfl, extension?_utf8_eq_some_iff.1 extended⟩
        · rintro ⟨rfl, rfl, _⟩
          exact ⟨_, rfl, _, rfl, rfl, rfl⟩
      · rw [if_neg extended]
        refine iff_of_false nofun ?_
        rintro ⟨rfl, _, called⟩
        exact extended (extension?_utf8_eq_some_iff.2 called)

/-- No name has two texts. -/
theorem HoldsText.unique {directory : SortedMap FileName DirectoryItem} {uri text other : String}
    (holds : HoldsText directory uri text) (also : HoldsText directory uri other) :
    text = other := by
  have same := holds.1.symm.trans also.1
  rw [Option.some.injEq, DirectoryItem.file.injEq] at same
  exact String.toByteArray_inj.1 same

/-! ## Loading as a history -/

/-- The change that an item makes to the index into which it is loaded. -/
def addition? (item : FileName × DirectoryItem) : Option Change :=
  (loadable? item.1 item.2).map (fun loaded => .add loaded.1 (extractTitle loaded.2) loaded.2)

/-- Makes the change of an item, if there is one, and counts it. -/
def counting (counted : Memory × Nat) (item : FileName × DirectoryItem) : Memory × Nat :=
  (addition? item).elim counted fun change => (counted.1.change change, counted.2 + 1)

theorem foldl_counting (items : List (FileName × DirectoryItem)) (index : Memory) (loaded : Nat) :
    items.foldl counting (index, loaded) = ((items.filterMap addition?).foldl Memory.change index,
      loaded + (items.filterMap addition?).length) := by
  induction items generalizing index loaded with
  | nil => rfl
  | cons item rest ih =>
      rw [List.foldl_cons, counting]
      rcases made : addition? item with _ | change
      · rw [List.filterMap_cons_none made]
        exact ih index loaded
      · rw [List.filterMap_cons_some made, List.foldl_cons, List.length_cons,
          ← Nat.add_assoc, Nat.add_right_comm]
        exact ih (index.change change) (loaded + 1)

/-- Loading makes the changes of the items, one after another, and counts them. -/
theorem load_eq (index : Memory) (items : List (FileName × DirectoryItem)) :
    load index items = ((items.filterMap addition?).foldl Memory.change index,
      (items.filterMap addition?).length) := by
  have each : load index items = items.foldl counting (index, 0) := by
    refine List.foldl_ext _ _ _ ?_
    rintro ⟨now, loaded⟩ ⟨name, item⟩ _
    rw [counting, addition?]
    dsimp only
    rcases loadable? name item with _ | ⟨uri, text⟩ <;> rfl
  rw [each, foldl_counting, Nat.zero_add]

section Directory

variable {directory : SortedMap FileName DirectoryItem}

/-- The changes that a directory makes to the index into which it is loaded. -/
def additions (directory : SortedMap FileName DirectoryItem) : List Change :=
  directory.toList.filterMap addition?

theorem mem_additions_iff {change : Change} :
    change ∈ additions directory ↔
      ∃ uri text, HoldsText directory uri text ∧ change = .add uri (extractTitle text) text := by
  simp only [additions, List.mem_filterMap, Prod.exists, addition?, Option.map_eq_some_iff,
    loadable?_eq_some_iff, HoldsText, SortedMap.find?_eq_some_iff]
  constructor
  · rintro ⟨_, _, member, uri, text, ⟨rfl, rfl, called⟩, rfl⟩
    exact ⟨uri, text, ⟨member, called⟩, rfl⟩
  · rintro ⟨uri, text, ⟨member, called⟩, rfl⟩
    exact ⟨_, _, member, uri, text, ⟨rfl, rfl, called⟩, rfl⟩

/-- Changes of a directory are told apart by their names. -/
theorem eq_of_mem_additions {first second : Change} (member : first ∈ additions directory)
    (other : second ∈ additions directory) (same : first.uri = second.uri) : first = second := by
  obtain ⟨uri, text, holds, rfl⟩ := mem_additions_iff.1 member
  obtain ⟨_, also, holdsAlso, rfl⟩ := mem_additions_iff.1 other
  obtain rfl : uri = _ := same
  rw [holds.unique holdsAlso]

/-- A change goes by the name of its item. -/
theorem name_of_addition?_eq_some {item : FileName × DirectoryItem} {change : Change}
    (added : addition? item = some change) : item.1 = utf8 change.uri.toList := by
  rw [addition?, Option.map_eq_some_iff] at added
  obtain ⟨⟨uri, text⟩, read, rfl⟩ := added
  exact (loadable?_eq_some_iff.1 read).1

theorem additions_nodup (directory : SortedMap FileName DirectoryItem) :
    ((additions directory).map Change.uri).Nodup := by
  rw [List.Nodup, List.pairwise_map, additions, List.pairwise_filterMap]
  refine directory.sorted.imp ?_
  intro item other less first added second addedAlso same
  rw [name_of_addition?_eq_some added, name_of_addition?_eq_some addedAlso, same] at less
  exact Std.lt_irrefl less

/-- Every listing of a directory makes its changes, in some order. -/
theorem stored_of_listed (history : List Change) {listed : List (FileName × DirectoryItem)}
    (lists : listed.Perm directory.toList) :
    stored (history ++ listed.filterMap addition?) = stored (history ++ additions directory) := by
  rw [stored_append, stored_append]
  symm
  apply (lists.filterMap addition?).symm.foldl_eq'
  intro first member second other documents
  by_cases same : first.uri = second.uri
  · rw [eq_of_mem_additions member other same]
  · exact Change.onDocuments_comm documents same

/-- **Every listing comes to the same.** -/
theorem loadDirectory_of_listed (history : List Change)
    {listed : List (FileName × DirectoryItem)} (lists : listed.Perm directory.toList) :
    loadDirectory (Memory.after history) ⟨listed, none⟩ =
      (Memory.after (history ++ additions directory), .ok (additions directory).length) := by
  have changed (changes : List Change) :
      changes.foldl Memory.change (Memory.after history) = Memory.after (history ++ changes) :=
    List.foldl_append.symm
  have count : (listed.filterMap addition?).length = (additions directory).length :=
    (lists.filterMap addition?).length_eq
  rw [loadDirectory, load_eq, changed, Memory.after_eq_of_stored (stored_of_listed history lists),
    count]

end Directory

/-! ## The documents after loading -/

/-- Changes under other names leave a document as it is. -/
theorem foldl_onDocuments_of_ne {changes : List Change} {uri : String}
    (others : ∀ change ∈ changes, uri ≠ change.uri) (documents : String → Option Document) :
    changes.foldl Change.onDocuments documents uri = documents uri := by
  induction changes generalizing documents with
  | nil => rfl
  | cons change rest ih =>
      obtain ⟨first, later⟩ := List.forall_mem_cons.1 others
      rw [List.foldl_cons, ih later]
      exact change.onDocuments_of_ne documents first

/-- A change that is the only one under its name leaves what it leaves by itself. -/
theorem foldl_onDocuments_of_mem {changes : List Change} {change : Change}
    (member : change ∈ changes) (only : ∀ other ∈ changes, other.uri = change.uri → other = change)
    (documents : String → Option Document) :
    changes.foldl Change.onDocuments documents change.uri =
      change.onDocuments documents change.uri := by
  induction changes generalizing documents with
  | nil => cases member
  | cons first rest ih =>
      rw [List.foldl_cons]
      by_cases later : change ∈ rest
      · rw [ih later (fun other member => only other (List.mem_cons_of_mem _ member))]
        exact Change.onDocuments_self _ _ change
      · have here : first = change := by
          rcases List.mem_cons.1 member with same | inRest
          · exact same.symm
          · exact absurd inRest later
        subst here
        apply foldl_onDocuments_of_ne
        intro other inRest same
        have isFirst := only other (List.mem_cons_of_mem _ inRest) same.symm
        exact later (isFirst ▸ inRest)

namespace Memory

/-- Two indexes answer every question about a document alike. -/
structure SameAt (index other : Memory) (uri : String) : Prop where
  described : index.description? uri = other.description? uri
  entries : ∀ word entry, entry.uri = uri → (entry ∈ index.lookup word ↔ entry ∈ other.lookup word)

theorem Mirrors.sameAt {index other : Memory} {documents others : String → Option Document}
    (mirrors : index.Mirrors documents) (otherMirrors : other.Mirrors others) {uri : String}
    (same : documents uri = others uri) : index.SameAt other uri where
  described := by
    rw [description?, description?, mirrors.described, otherMirrors.described, same]
  entries word entry here := by
    rw [mirrors.mem_lookup_iff, otherMirrors.mem_lookup_iff, here, same]

end Memory

open Memory in
/-- What comes of loading a directory, all of which was listed, into an index that a history left. -/
structure Loads (history : List Change) (directory : SortedMap FileName DirectoryItem)
    (result : Memory × Except DirectoryError Nat) : Prop where
  /-- Its texts are added to the index, each under its name, and nothing else is done to it. -/
  added : ∃ changes, result.1 = after (history ++ changes) ∧ ∀ change, change ∈ changes ↔
    ∃ uri text, HoldsText directory uri text ∧ change = .add uri (extractTitle text) text
  /-- A text is there as if it had been added alone, in place of any document of its name. -/
  loaded : ∀ uri text, HoldsText directory uri text →
    result.1.SameAt ((after history).add uri (extractTitle text) text).1 uri
  /-- All other documents are as they were. -/
  untouched : ∀ uri, (∀ text, ¬ HoldsText directory uri text) →
    result.1.SameAt (after history) uri
  /-- The texts are counted. -/
  counted : ∃ count, result.2 = .ok count ∧
    (count : ℕ∞) = {uri | ∃ text, HoldsText directory uri text}.encard

theorem loads_additions (history : List Change) (directory : SortedMap FileName DirectoryItem) :
    Loads history directory
      (Memory.after (history ++ additions directory), .ok (additions directory).length) where
  added := ⟨additions directory, rfl, fun _ => mem_additions_iff⟩
  loaded uri text holds := by
    refine (Memory.mirrors_after _).sameAt
      ((Memory.mirrors_after history).add uri (extractTitle text) text) ?_
    have member := mem_additions_iff.2 ⟨uri, text, holds, rfl⟩
    rw [stored_append]
    exact foldl_onDocuments_of_mem member
      (fun other isOne same => eq_of_mem_additions isOne member same) (stored history)
  untouched uri missing := by
    refine (Memory.mirrors_after _).sameAt (Memory.mirrors_after history) ?_
    rw [stored_append]
    apply foldl_onDocuments_of_ne
    intro change member same
    obtain ⟨other, text, holds, rfl⟩ := mem_additions_iff.1 member
    obtain rfl : uri = other := same
    exact missing text holds
  counted := by
    refine ⟨_, rfl, ?_⟩
    have names : {uri | ∃ text, HoldsText directory uri text} =
        ↑((additions directory).map Change.uri).toFinset := by
      ext uri
      simp only [Set.mem_ofPred_eq, Finset.mem_coe, List.mem_toFinset, List.mem_map,
        mem_additions_iff]
      constructor
      · rintro ⟨text, holds⟩
        exact ⟨_, ⟨uri, text, holds, rfl⟩, rfl⟩
      · rintro ⟨_, ⟨uri, text, holds, rfl⟩, rfl⟩
        exact ⟨text, holds⟩
    rw [names, Set.encard_coe_eq_coe_finsetCard,
      List.toFinset_card_of_nodup (additions_nodup directory), List.length_map]

/-- **Loading does not depend on the order of the listing.**  Whatever an index has been through, two
listings of one directory are loaded into it with the same count and leave the same index: the
earlier one with the texts of the directory, and these alone, added under their names. -/
theorem load_anyOrder (history : List Change) {directory : SortedMap FileName DirectoryItem}
    {listed relisted : List (FileName × DirectoryItem)} (lists : listed.Perm directory.toList)
    (relists : relisted.Perm directory.toList) :
    loadDirectory (Memory.after history) ⟨listed, none⟩ =
        loadDirectory (Memory.after history) ⟨relisted, none⟩ ∧
      Loads history directory (loadDirectory (Memory.after history) ⟨listed, none⟩) := by
  rw [loadDirectory_of_listed history lists, loadDirectory_of_listed history relists]
  exact ⟨rfl, loads_additions history directory⟩

/-! ## Directories of a few items -/

/-- Two texts, one of them with a title, bytes that are no text, a file of another kind, a directory
that is called as a text, and a file that cannot be read. -/
def shelf : SortedMap FileName DirectoryItem :=
  SortedMap.ofList
    [(utf8 "a.txt".toList, .file "Title: Alpha\nthe cat".toUTF8),
      (utf8 "b.txt".toList, .file "a dog".toUTF8), (utf8 "c.txt".toList, .file ⟨#[0xff, 0x61]⟩),
      (utf8 "d.md".toList, .file "a cat".toUTF8), (utf8 "e.txt".toList, .directory),
      (utf8 "f.txt".toList, .unreadable)]

theorem load_anyOrder_shelf :
    shelf.toList.Perm shelf.toList ∧ shelf.toList.reverse.Perm shelf.toList ∧
      HoldsText shelf "a.txt" "Title: Alpha\nthe cat" ∧
      loadDirectory (Memory.after [.add "a.txt" none "old words", .add "f.txt" none "more"])
          ⟨shelf.toList, none⟩ =
        loadDirectory (Memory.after [.add "a.txt" none "old words", .add "f.txt" none "more"])
          ⟨shelf.toList.reverse, none⟩ ∧
      Loads [.add "a.txt" none "old words", .add "f.txt" none "more"] shelf
        (loadDirectory (Memory.after [.add "a.txt" none "old words", .add "f.txt" none "more"])
          ⟨shelf.toList, none⟩) := by
  have listed : shelf.toList.Perm shelf.toList := .refl _
  have reversed : shelf.toList.reverse.Perm shelf.toList := List.reverse_perm _
  have holds : HoldsText shelf "a.txt" "Title: Alpha\nthe cat" := ⟨rfl, "a", by decide, rfl⟩
  exact ⟨listed, reversed, holds, load_anyOrder _ listed reversed⟩

/-- Two readable files that end in `.txt` and hold a text: nothing stands before the ending of the
one, and the name of the other is no text. -/
def unnamed : SortedMap FileName DirectoryItem :=
  SortedMap.ofList
    [(utf8 ".txt".toList, .file "cat".toUTF8), (0xff :: utf8 ".txt".toList, .file "cat".toUTF8)]

/-- A name that begins with a byte of no text is none. -/
theorem decodeStrict_unnamed : decodeStrict (0xff :: utf8 ".txt".toList) = none := by
  rw [Option.eq_none_iff_forall_not_mem]
  intro uri read
  have bytes := decodeStrict_eq_some_iff.1 read
  have chars : uri.toList = '\ufffd' :: ".txt".toList := by
    rw [← decodeLossy_utf8 uri.toList, ← bytes]
    decide
  rw [chars] at bytes
  exact absurd bytes (by decide)

/-- Neither of them is loaded, though the second has the extension. -/
theorem load_unnamed :
    (∀ item ∈ unnamed.toList, utf8 ".txt".toList <:+ item.1 ∧ item.2 = .file "cat".toUTF8) ∧
      extension? (0xff :: utf8 ".txt".toList) = some (utf8 "txt".toList) ∧
      unnamed.find? (0xff :: utf8 ".txt".toList) = some (.file "cat".toUTF8) ∧
      loadDirectory Memory.empty ⟨unnamed.toList, none⟩ = (Memory.empty, .ok 0) := by
  have items : unnamed.toList = [(utf8 ".txt".toList, .file "cat".toUTF8),
      (0xff :: utf8 ".txt".toList, .file "cat".toUTF8)] := rfl
  have first : addition? (utf8 ".txt".toList, .file "cat".toUTF8) = none := rfl
  have second : addition? (0xff :: utf8 ".txt".toList, .file "cat".toUTF8) = none := by
    rw [addition?, loadable?, decodeStrict_unnamed]
    rfl
  refine ⟨?_, by decide, rfl, ?_⟩
  · simp [items]
  · rw [loadDirectory, load_eq, items, List.filterMap_cons_none first,
      List.filterMap_cons_none second]
    rfl

end Concordance.Index
