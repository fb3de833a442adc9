/-
# Concordance.Proofs.Vocabulary -- which words of a document can be searched for

Documents are cut into words by one class of characters and queries are read by
another, and a text is put in lower case as a whole where a query is put in lower case
by itself.  `Service.Vocabulary` says exactly which words of a document a search for
them finds, and which texts that are read as one word find the document that they
make; `startSearch_vocabulary` proves it of every index in every run.

That not all of them do is shown by three documents (`startSearch_misses_words`): a
word with a combining accent is refused, one with a superscript is not in the index,
and a sigma is final in the query but not in the text.
-/
import Concordance.Proofs.Chunks
import Concordance.Proofs.Contents
import Concordance.Proofs.MemorySearch

namespace Concordance

open Concordance.Data Concordance.Index Concordance.Query Concordance.Search Concordance.Text

set_option autoImplicit false

/-! ## Queries of one word -/

namespace Query

/-- A word is scanned as itself. -/
theorem scan_of_isWord {word : String} (isWord : Text.isWord word = true) :
    scan word.toList = .ok [.word word] := by
  have written : Operand.Written (.word word isWord) word.toList := .word word isWord
  rw [scan_of_spaced (.alone written.plain)]
  rfl

/-- **A query is read as one word** if it is that word. -/
theorem tokenize_normalize_eq_term_iff {raw word : String} :
    tokenize (normalize raw) = .ok [.term word] ↔ normalize raw = word ∧ isWord word = true := by
  rw [tokenize_eq_ok_iff]
  constructor
  · rintro ⟨items, scanned, connected⟩
    rw [eq_word_of_connect connected] at scanned
    have trimmed := normalize_trimmed raw
    have same := eq_of_scan_eq_word trimmed scanned
    refine ⟨String.toList_inj.1 same, ?_⟩
    cases chars : (normalize raw).toList with
    | nil =>
        rw [chars, scan] at scanned
        cases scanned
    | cons first rest =>
        rw [chars] at scanned trimmed
        rcases scan_cons_cases scanned with
          ⟨blank, _⟩ | ⟨_, _, _, _, impossible⟩ | ⟨_, _, _, _, _, _, _, _, _, impossible⟩ |
          ⟨tail, _, _, _, isWord, _, _, same⟩
        · rw [trimmed.head first rfl] at blank
          cases blank
        · cases impossible
        · cases impossible
        · cases same
          exact isWord
  · rintro ⟨rfl, isWord⟩
    refine ⟨[.word (normalize raw)], scan_of_isWord isWord, ?_⟩
    simp [connect, Before.link, Except.map]

end Query

/-! ## Words of a text -/

namespace Index

/-- A word of a document has no blanks to lose. -/
theorem normalize_of_mem_documentWords {s run : List Char} (member : run ∈ documentWords s) :
    normalize (String.ofList run) = lowercase (String.ofList run) := by
  have inside : ∀ c ∈ run, isDocumentChar c = true := by simpa using (mem_runs_iff.1 member).inside
  rw [Query.normalize, trim, trimChars_of_forall, String.ofList_toList]
  rw [lowercase, String.toList_ofList, String.toList_ofList]
  exact fun c here =>
    not_isBlank_of_isDocumentChar (isDocumentChar_of_mem_lowerChars inside [] c here)

theorem isWord_lowercase_iff {run : List Char} (some : run ≠ []) :
    isWord (lowercase (String.ofList run)) = true ↔ ∀ c ∈ run, isSearchable c = true := by
  rw [isWord, lowercase, String.toList_ofList, String.toList_ofList, Bool.and_eq_true,
    List.all_eq_true, forall_isQueryChar_lowerChars]
  simp [lowerChars_ne_nil some]

theorem lowercase_mem_textWords_iff {text : String} {run : List Char} :
    lowercase (String.ofList run) ∈ textWords text ↔
      lowerChars [] run ∈ documentWords (lowerChars [] text.toList) := by
  rw [textWords, lowercase, String.toList_ofList]
  exact List.mem_map_of_injective fun _ _ => String.ofList_inj.1

/-- What a text is read as, if it is read as one word, settles the words under which it is filed. -/
theorem textWords_eq_of_normalize {text word : String} (same : normalize text = word) :
    textWords text = (documentWords word.toList).map String.ofList := by
  have blanksSeparate (c : Char) (blank : isBlank c = true) : (!isDocumentChar c) = true := by
    simp [(isBlank_apart blank).1]
  rw [textWords, ← same, Query.normalize, trim, lowercase, String.toList_ofList, String.toList_ofList,
    documentWords, documentWords, runs_trimChars blanksSeparate]

theorem documentWords_eq_singleton {word : List Char} (some : word ≠ [])
    (inside : ∀ c ∈ word, isDocumentChar c = true) : documentWords word = [word] := by
  rw [documentWords, runs, List.splitOnP_eq_singleton (by simpa using inside)]
  simp [some]

/-- A text that is read as one word is filed under it just if documents may hold all of its
characters. -/
theorem mem_textWords_iff_of_normalize {text word : String} (same : normalize text = word)
    (isWord : isWord word = true) :
    word ∈ textWords text ↔ ∀ c ∈ word.toList, isDocumentChar c = true := by
  rw [textWords_eq_of_normalize same, List.mem_map]
  constructor
  · rintro ⟨run, member, rfl⟩
    simpa using (mem_runs_iff.1 member).inside
  · intro inside
    refine ⟨word.toList, ?_, String.ofList_toList⟩
    rw [documentWords_eq_singleton (isWord_iff.1 isWord).1 inside]
    exact List.mem_singleton_self _

/-- A text of one word is filed under it at the first place. -/
theorem find?_wordOffsets_of_singleton {text word : String} (single : textWords text = [word]) :
    (wordOffsets text).find? word = some [0] := by
  rw [wordOffsets, single, fileWords, fileWords, SortedMap.find?_insert, if_pos rfl]
  rfl

namespace Memory

variable {index : Memory} {documents : String → Option Document} {uri word : String} {d : Document}

/-- A text that is read as one word is listed as holding it, at its first place, just if documents
may hold all of its characters. -/
theorem Mirrors.mem_lookup_iff_of_normalize (mirrors : index.Mirrors documents)
    (document : documents uri = some d) (same : normalize d.text = word)
    (isWord : isWord word = true) :
    Entry.ofOffsets word uri [0] ∈ index.lookup word ↔ ∀ c ∈ word.toList, isDocumentChar c = true := by
  rw [mirrors.mem_lookup_iff, ← mem_textWords_iff_of_normalize same isWord]
  constructor
  · rintro ⟨other, numbers, found, filed, _⟩
    rw [show (Entry.ofOffsets word uri [0]).uri = uri from rfl, document] at found
    cases found
    exact (find?_wordOffsets d.text word).1 ⟨numbers, filed⟩
  · intro member
    have inside := (mem_textWords_iff_of_normalize same isWord).1 member
    refine ⟨d, [0], document, find?_wordOffsets_of_singleton ?_, rfl⟩
    rw [textWords_eq_of_normalize same, documentWords_eq_singleton (isWord_iff.1 isWord).1 inside,
      List.map_singleton, String.ofList_toList]

end Memory

end Index

/-! ## Searching for a word -/

namespace Service

/-- A search for a text is read as one word and names the document, whatever is done before its
result is fetched. -/
def FindsWord (s : Service) (raw locators uri : String) : Prop :=
  ∃ word started search set, tokenize (normalize raw) = .ok [.term word] ∧
    s.startSearch raw locators = (started, .ok search) ∧
    (∀ later, ((started.run later).result (.root search)).2 = .ok (some set)) ∧
    set.contains uri = true

section Searching

variable {s : Service} {name locators raw uri : String} {documents : String → Option Document}

/-- A new search finds the documents that hold its word. -/
theorem findsWord_iff (mirrors : (s.catalog.localIndex name).Mirrors documents)
    (listed : s.catalog.backends.find? name = some (.held name))
    (located : splitLocators locators = [name]) (fresh : s.find? raw locators = none) :
    s.FindsWord raw locators uri ↔
      isWord (normalize raw) = true ∧
        ∃ d, documents uri = some d ∧ normalize raw ∈ textWords d.text := by
  have found (isWord : isWord (normalize raw) = true) : ∃ started search set,
      s.startSearch raw locators = (started, .ok search) ∧
      (∀ later, ((started.run later).result (.root search)).2 = .ok (some set)) ∧
      (set.contains uri = true ↔ ∃ d, documents uri = some d ∧ normalize raw ∈ textWords d.text) := by
    have lexed := tokenize_normalize_eq_term_iff.2 ⟨rfl, isWord⟩
    have planned : plan (normalize raw) [.term (normalize raw)] = .ok (.term (normalize raw)) := by
      simp [plan, splitNot, planGroups, planAlternatives, planOperand]
    obtain ⟨started, search, starts, results⟩ := startSearch_of_held listed located lexed planned fresh
      (gives_term_held s.catalog name (normalize raw))
    exact ⟨started, search, _, starts, results, mirrors.lookup_contains _ (normalize raw) uri⟩
  constructor
  · rintro ⟨word, started, search, set, lexed, starts, results, contains⟩
    obtain ⟨rfl, isWord⟩ := tokenize_normalize_eq_term_iff.1 lexed
    obtain ⟨startedToo, searchToo, setToo, startsToo, resultsToo, holds⟩ := found isWord
    rw [starts] at startsToo
    cases startsToo
    have same := (results []).symm.trans (resultsToo [])
    cases same
    exact ⟨isWord, holds.1 contains⟩
  · rintro ⟨isWord, holds⟩
    obtain ⟨started, search, set, starts, results, contains⟩ := found isWord
    exact ⟨_, started, search, set, tokenize_normalize_eq_term_iff.2 ⟨rfl, isWord⟩, starts, results,
      contains.2 holds⟩

end Searching

/-- How the words of a text fare in an index that holds it under a name. -/
structure Vocabulary (s : Service) (name locators uri text : String) : Prop where
  /-- A word as it is written is found if all of its characters become part of query words, and if
  the word put in lower case by itself is one of the text put in lower case. -/
  written : ∀ run ∈ documentWords text.toList, s.find? (String.ofList run) locators = none →
    (s.FindsWord (String.ofList run) locators uri ↔
      (∀ c ∈ run, isSearchable c = true) ∧ lowercase (String.ofList run) ∈ textWords text)
  /-- The latter is so for words without a capital sigma, unless a late capital stands in the text. -/
  alone : (∀ c ∈ text.toList, isLateCapital c = false) → ∀ run ∈ documentWords text.toList,
    '\u03a3' ∉ run → lowercase (String.ofList run) ∈ textWords text
  /-- If the text as a query is read as one word, the document is filed under it at the first place,
  and found by it, if documents may hold all of its characters. -/
  typed : ∀ word, tokenize (normalize text) = .ok [.term word] →
    (Entry.ofOffsets word uri [0] ∈ (s.catalog.localIndex name).lookup word ↔
      ∀ c ∈ word.toList, isDocumentChar c = true) ∧
    (s.find? text locators = none →
      (s.FindsWord text locators uri ↔ ∀ c ∈ word.toList, isDocumentChar c = true))

theorem vocabulary_of_mirrors {s : Service} {name locators uri : String}
    {documents : String → Option Document} {d : Document}
    (mirrors : (s.catalog.localIndex name).Mirrors documents)
    (listed : s.catalog.backends.find? name = some (.held name))
    (located : splitLocators locators = [name]) (document : documents uri = some d) :
    s.Vocabulary name locators uri d.text where
  written run member fresh := by
    rw [findsWord_iff mirrors listed located fresh, normalize_of_mem_documentWords member,
      isWord_lowercase_iff (mem_runs_iff.1 member).notEmpty]
    simp [document]
  alone early run member noSigma :=
    lowercase_mem_textWords_iff.2 (lowerChars_mem_documentWords member noSigma early)
  typed word lexed := by
    obtain ⟨same, isWord⟩ := tokenize_normalize_eq_term_iff.1 lexed
    refine ⟨mirrors.mem_lookup_iff_of_normalize document same isWord, fun fresh => ?_⟩
    rw [findsWord_iff mirrors listed located fresh, same,
      ← mem_textWords_iff_of_normalize same isWord]
    simp [document, isWord]

theorem mirrors_run (link : Link) (actions : List Action) (name : String) :
    (((start link).run actions).catalog.localIndex name).Mirrors (stored (history name actions)) := by
  rw [localIndex_run]
  exact Memory.mirrors_after _

/-- **Which words can be searched for.**  In every run, a document that was left in an index is found
by exactly those of its words of which `Vocabulary` tells. -/
theorem startSearch_vocabulary {link : Link} {actions : List Action}
    {name locators uri : String} {d : Document}
    (listed : ((start link).run actions).catalog.backends.find? name = some (.held name))
    (located : splitLocators locators = [name])
    (left : stored (history name actions) uri = some d) :
    ((start link).run actions).Vocabulary name locators uri d.text :=
  vocabulary_of_mirrors (mirrors_run link actions name) listed located left

/-! ## Words that are missed -/

/-- Three documents: a word with a combining accent, one with a superscript, and a capital sigma that
ends a word of the text but not in the way lower-casing counts. -/
def accented : List Action :=
  [.create "notes", .addDocument "notes" "a" none "cafe\u0301", .addDocument "notes" "b" none "x²",
    .addDocument "notes" "c" none "ΑΣ.Β"]

theorem stored_accented :
    stored (history "notes" accented) "a" = some ⟨none, "cafe\u0301"⟩ ∧
      stored (history "notes" accented) "b" = some ⟨none, "x²"⟩ ∧
      stored (history "notes" accented) "c" = some ⟨none, "ΑΣ.Β"⟩ := ⟨rfl, rfl, rfl⟩

theorem startSearch_vocabulary_accented :
    ((start ⟨.absent, 1⟩).run accented).catalog.backends.find? "notes" = some (.held "notes") ∧
      splitLocators "notes" = ["notes"] ∧
      stored (history "notes" accented) "a" = some ⟨none, "cafe\u0301"⟩ ∧
      ((start ⟨.absent, 1⟩).run accented).Vocabulary "notes" "notes" "a" "cafe\u0301" := by
  have listed : ((start ⟨.absent, 1⟩).run accented).catalog.backends.find? "notes" =
      some (.held "notes") := rfl
  have located : splitLocators "notes" = ["notes"] := by cbv
  exact ⟨listed, located, stored_accented.1,
    startSearch_vocabulary listed located stored_accented.1⟩

theorem words_of_accent :
    documentWords "cafe\u0301".toList = ["cafe\u0301".toList] ∧
      isWord (normalize "cafe\u0301") = false := ⟨by cbv, by cbv⟩

theorem words_of_square :
    tokenize (normalize "x²") = .ok [.term "x²"] ∧ textWords "x²" = ["x"] := ⟨by cbv, by cbv⟩

theorem words_of_sigma :
    documentWords "ΑΣ.Β".toList = ["ΑΣ".toList, "Β".toList] ∧
      tokenize (normalize "ΑΣ") = .ok [.term "ας"] ∧ textWords "ΑΣ.Β" = ["ασ", "β"] :=
  ⟨by cbv, by cbv, by cbv⟩

/-- **Words are missed.**  A word of the first document is not accepted, the second document is not
found by its own text, which is accepted, and a word of the third is accepted and not found. -/
theorem startSearch_misses_words :
    let s := (start ⟨.absent, 1⟩).run accented
    ("cafe\u0301".toList ∈ documentWords "cafe\u0301".toList ∧
      ¬ s.FindsWord "cafe\u0301" "notes" "a") ∧
    (tokenize (normalize "x²") = .ok [.term "x²"] ∧ ¬ s.FindsWord "x²" "notes" "b") ∧
    ("ΑΣ".toList ∈ documentWords "ΑΣ.Β".toList ∧
      tokenize (normalize "ΑΣ") = .ok [.term "ας"] ∧ ¬ s.FindsWord "ΑΣ" "notes" "c") := by
  have located : splitLocators "notes" = ["notes"] := by cbv
  have misses (raw : String) {uri : String} {d : Document}
      (left : stored (history "notes" accented) uri = some d)
      (missed : isWord (normalize raw) = false ∨ normalize raw ∉ textWords d.text) :
      ¬ ((start ⟨.absent, 1⟩).run accented).FindsWord raw "notes" uri := by
    rw [findsWord_iff (mirrors_run _ accented "notes") rfl located (Registry.find?_empty _), left]
    rcases missed with refused | absent
    · simp [refused]
    · simp [absent]
  obtain ⟨accentWords, accentRefused⟩ := words_of_accent
  obtain ⟨squareRead, squareWords⟩ := words_of_square
  obtain ⟨sigmaWords, sigmaRead, sigmaLower⟩ := words_of_sigma
  refine ⟨⟨?_, misses _ stored_accented.1 (Or.inl accentRefused)⟩,
    ⟨squareRead, misses _ stored_accented.2.1 (Or.inr ?_)⟩, ?_, sigmaRead,
    misses _ stored_accented.2.2 (Or.inr ?_)⟩
  · rw [accentWords]
    exact List.mem_singleton_self _
  · rw [(tokenize_normalize_eq_term_iff.1 squareRead).1, squareWords]
    decide
  · rw [sigmaWords]
    exact List.mem_cons_self
  · rw [(tokenize_normalize_eq_term_iff.1 sigmaRead).1, sigmaLower]
    decide

end Service

end Concordance
