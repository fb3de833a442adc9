/-
# Concordance.Proofs.Lexing -- what an accepted query is made of

`scan_cons_cases` says once what the lexer can do with a character; the rest follows
from it.  Every character of an accepted query is blank, a dash, a quote or part of
a word (`readable_of_scan`), so none is an at sign (`at_notMem_of_tokenize`).  A
trimmed query that reads as one word is that word (`eq_of_scan_eq_word`), and any
other plan is named by its query (`query_of_plan`), so a search always is
(`Search.query_growSearch`).
-/
import Concordance.Proofs.Planting
import Concordance.Query.Canonical
import Mathlib.Data.List.DropRight

namespace Concordance

open Concordance.Query Concordance.Text

set_option autoImplicit false

/-! ## Trimmed texts -/

namespace Text

/-- No blank stands at either end. -/
structure Trimmed (s : List Char) : Prop where
  head : ∀ c, s.head? = some c → isBlank c = false
  last : ∀ c, s.getLast? = some c → isBlank c = false

theorem trimChars_eq (s : List Char) :
    trimChars s = (s.dropWhile isBlank).rdropWhile isBlank := rfl

/-- Trimming adds nothing. -/
theorem trimChars_subset (s : List Char) : trimChars s ⊆ s := by
  have front := (List.dropWhile_suffix isBlank (l := s)).subset
  have back := List.rdropWhile_prefix isBlank (s.dropWhile isBlank)
  rw [trimChars_eq]
  exact List.Subset.trans back.subset front

theorem trimChars_trimmed (s : List Char) : Trimmed (trimChars s) := by
  rw [trimChars_eq]
  constructor
  · intro c first
    obtain ⟨rest, cut⟩ := List.head?_eq_some_iff.1 first
    obtain ⟨more, whole⟩ := List.rdropWhile_prefix isBlank (s.dropWhile isBlank)
    have start := List.head?_dropWhile_not isBlank s
    rw [← whole, cut] at start
    exact start
  · intro c last
    have some : (s.dropWhile isBlank).rdropWhile isBlank ≠ [] := by
      intro empty
      rw [empty] at last
      cases last
    rw [List.getLast?_eq_some_getLast some, Option.some.injEq] at last
    rw [← last]
    simpa using List.rdropWhile_last_not isBlank _ some

/-- What does not separate stands in a piece. -/
theorem exists_piece_of_mem {α : Type} {sep : α → Bool} {s : List α} {a : α} (member : a ∈ s)
    (inside : sep a = false) : ∃ piece ∈ s.splitOnP sep, a ∈ piece := by
  induction s with
  | nil => cases member
  | cons first rest ih =>
      obtain ⟨piece, pieces, cut⟩ := List.exists_cons_of_ne_nil (List.splitOnP_ne_nil sep rest)
      rw [List.splitOnP_cons_eq_if_modifyHead, cut]
      rw [cut] at ih
      by_cases separates : sep first = true
      · rw [if_pos separates]
        rcases List.mem_cons.1 member with rfl | later
        · rw [separates] at inside
          cases inside
        · obtain ⟨own, isPiece, here⟩ := ih later
          exact ⟨own, List.mem_cons_of_mem _ isPiece, here⟩
      · rw [if_neg separates]
        rcases List.mem_cons.1 member with rfl | later
        · exact ⟨a :: piece, List.mem_cons_self, List.mem_cons_self⟩
        · obtain ⟨own, isPiece, here⟩ := ih later
          rcases List.mem_cons.1 isPiece with rfl | other
          · exact ⟨first :: own, List.mem_cons_self, List.mem_cons_of_mem _ here⟩
          · exact ⟨own, List.mem_cons_of_mem _ other, here⟩

/-- A character that does not separate stands in a run. -/
theorem exists_run_of_mem {sep : Char → Bool} {s : List Char} {c : Char} (member : c ∈ s)
    (inside : sep c = false) : ∃ run ∈ runs sep s, c ∈ run := by
  obtain ⟨own, isPiece, here⟩ := exists_piece_of_mem member inside
  refine ⟨own, List.mem_filter.2 ⟨isPiece, ?_⟩, here⟩
  simp [List.ne_nil_of_mem here]

end Text

namespace Query

/-! ## Items -/

/-- **What the lexer does with a character**: it passes over a blank, and reads a dash, a quoted
phrase or a word. Something follows a dash at once, and nothing follows the others but a blank. -/
theorem scan_cons_cases {c : Char} {rest : List Char} {items : List Item}
    (scanned : scan (c :: rest) = .ok items) :
    (isBlank c = true ∧ scan rest = .ok items) ∨
      (c = '-' ∧ goesOn rest = true ∧ ∃ more, scan rest = .ok more ∧ items = .dash :: more) ∨
      (c = '"' ∧ ∃ inside after words more, rest = inside ++ '"' :: after ∧
        phraseWords inside = .ok words ∧ goesOn after = false ∧ scan after = .ok more ∧
        items = .quoted words :: more) ∨
      ∃ tail after more, rest = tail ++ after ∧ isWord (String.ofList (c :: tail)) = true ∧
        goesOn after = false ∧ scan after = .ok more ∧
        items = .word (String.ofList (c :: tail)) :: more := by
  rw [scan] at scanned
  split at scanned
  · rename_i blank
    exact Or.inl ⟨blank, scanned⟩
  · split at scanned
    · rename_i isDash
      split at scanned
      · rename_i onward
        cases more : scan rest with
        | error e =>
            rw [more] at scanned
            cases scanned
        | ok found =>
            rw [more] at scanned
            cases scanned
            exact Or.inr (Or.inl ⟨isDash, onward, found, rfl, rfl⟩)
      · cases scanned
    · split at scanned
      · rename_i isQuote
        split at scanned
        · cases scanned
        · rename_i quote after cut
          split at scanned
          · cases scanned
          · rename_i ends
            split at scanned
            · cases scanned
            · rename_i words read
              cases more : scan after with
              | error e =>
                  rw [more] at scanned
                  cases scanned
              | ok found =>
                  rw [more] at scanned
                  cases scanned
                  -- What the search for the closing quote stops at is a quote.
                  have isQuote' : quote = '"' := by
                    have first := List.head?_dropWhile_not (fun x => decide (x ≠ '"')) rest
                    rw [cut] at first
                    simpa using first
                  have whole := List.takeWhile_append_dropWhile (p := fun x => decide (x ≠ '"'))
                    (l := rest)
                  rw [cut, isQuote'] at whole
                  exact Or.inr (Or.inr (Or.inl ⟨isQuote, _, after, words, found, whole.symm, read,
                    by simpa using ends, more, rfl⟩))
      · dsimp only at scanned
        split at scanned
        · cases scanned
        · rename_i ends
          split at scanned
          · rename_i isWord
            cases more : scan (rest.dropWhile inWord) with
            | error e =>
                rw [more] at scanned
                cases scanned
            | ok found =>
                rw [more] at scanned
                cases scanned
                exact Or.inr (Or.inr (Or.inr ⟨_, _, found, (List.takeWhile_append_dropWhile).symm,
                  isWord, by simpa using ends, more, rfl⟩))
          · cases scanned

/-- The characters that a query may hold. -/
def Readable (c : Char) : Prop := isBlank c = true ∨ c = '-' ∨ c = '"' ∨ isQueryChar c = true

theorem readable_of_phraseWords {inside : List Char} {words : List String}
    (read : phraseWords inside = .ok words) : ∀ c ∈ inside, Readable c := by
  intro c member
  unfold phraseWords at read
  dsimp only at read
  split at read
  · cases read
  · rename_i noBad
    by_cases blank : isBlank c = true
    · exact Or.inl blank
    · obtain ⟨run, isRun, here⟩ := exists_run_of_mem member (by simpa using blank)
      have good := List.find?_eq_none.1 noBad (String.ofList run) (List.mem_map_of_mem isRun)
      have isWord : Text.isWord (String.ofList run) = true := by simpa using good
      exact Or.inr (Or.inr (Or.inr ((isWord_iff.1 isWord).2 c (by simpa using here))))

/-- Whatever is scanned is readable. -/
theorem readable_of_scan {chars : List Char} {items : List Item} (scanned : scan chars = .ok items) :
    ∀ c ∈ chars, Readable c := by
  induction count : chars.length using Nat.strongRecOn generalizing chars items with
  | ind size ih =>
      cases chars with
      | nil =>
          intro c member
          cases member
      | cons first rest =>
          have shorter : rest.length < size := by
            rw [← count]
            exact Nat.lt_succ_self _
          rw [List.forall_mem_cons]
          rcases scan_cons_cases scanned with
            ⟨blank, more⟩ | ⟨rfl, _, _, more, _⟩ |
            ⟨rfl, inside, after, words, found, rfl, read, _, more, _⟩ |
            ⟨tail, after, found, rfl, isWord, _, more, _⟩
          · exact ⟨Or.inl blank, ih _ shorter more rfl⟩
          · exact ⟨Or.inr (Or.inl rfl), ih _ shorter more rfl⟩
          · refine ⟨Or.inr (Or.inr (Or.inl rfl)), ?_⟩
            simp only [List.length_append, List.length_cons] at shorter
            rw [List.forall_mem_append, List.forall_mem_cons]
            exact ⟨readable_of_phraseWords read, Or.inr (Or.inr (Or.inl rfl)),
              ih _ (by omega) more rfl⟩
          · have good := (isWord_iff.1 isWord).2
            rw [String.toList_ofList, List.forall_mem_cons] at good
            rw [List.length_append] at shorter
            rw [List.forall_mem_append]
            exact ⟨Or.inr (Or.inr (Or.inr good.1)),
              fun c member => Or.inr (Or.inr (Or.inr (good.2 c member))),
              ih _ (by omega) more rfl⟩

/-- Only blanks are scanned into nothing. -/
theorem blank_of_scan_eq_nil {chars : List Char} (scanned : scan chars = .ok []) :
    ∀ c ∈ chars, isBlank c = true := by
  induction chars with
  | nil =>
      intro c member
      cases member
  | cons first rest ih =>
      rcases scan_cons_cases scanned with
        ⟨blank, more⟩ | ⟨_, _, _, _, impossible⟩ | ⟨_, _, _, _, _, _, _, _, _, impossible⟩ |
        ⟨_, _, _, _, _, _, _, impossible⟩
      · exact List.forall_mem_cons.2 ⟨blank, ih more⟩
      · cases impossible
      · cases impossible
      · cases impossible

/-- A trimmed text that is scanned into one word is that word. -/
theorem eq_of_scan_eq_word {chars : List Char} {word : String} (trimmed : Trimmed chars)
    (scanned : scan chars = .ok [.word word]) : chars = word.toList := by
  cases chars with
  | nil =>
      rw [scan] at scanned
      cases scanned
  | cons first rest =>
      rcases scan_cons_cases scanned with
        ⟨blank, _⟩ | ⟨_, _, _, _, impossible⟩ | ⟨_, _, _, _, _, _, _, _, _, impossible⟩ |
        ⟨tail, after, found, rfl, _, _, more, same⟩
      · rw [trimmed.head first rfl] at blank
        cases blank
      · cases impossible
      · cases impossible
      · cases same
        have nothing : after = [] := by
          rcases List.eq_nil_or_concat after with none | ⟨before, last, rfl⟩
          · exact none
          · have blank := blank_of_scan_eq_nil more last (by simp)
            have ends : (first :: (tail ++ before.concat last)).getLast? = some last := by
              rw [List.concat_eq_append, ← List.append_assoc, ← List.cons_append,
                List.getLast?_concat]
            rw [trimmed.last last ends] at blank
            cases blank
        rw [nothing, List.append_nil, String.toList_ofList]

/-! ## Connectives -/

/-- Behind a connective there is always an operand. -/
theorem connect_connective_ne_nil (token : Token) (items : List Item) :
    connect (.connective token) items ≠ .ok [] := by
  cases items with
  | nil => simp [connect]
  | cons item rest =>
      cases item with
      | dash => simp [connect]
      | quoted words => cases more : connect .operand rest <;> simp [connect, more, Except.map]
      | word word => cases more : connect .operand rest <;> simp [connect, more, Except.map]

/-- Only nothing is connected into nothing. -/
theorem eq_nil_of_connect {before : Before} {items : List Item}
    (connected : connect before items = .ok []) : items = [] := by
  have added {more : Except ParseError (List Token)} {front : List Token} (operand : Token) :
      more.map (fun tokens => front ++ operand :: tokens) ≠ .ok [] := by
    cases more <;> simp [Except.map]
  fun_induction connect before items with
  | case1 => rfl
  | case2 => rfl
  | case3 => exact absurd connected (connect_connective_ne_nil _ _)
  | case4 => cases connected
  | case5 => exact absurd connected (added _)
  | case6 => exact absurd connected (connect_connective_ne_nil _ _)
  | case7 => exact absurd connected (added _)

/-- A query of one word is scanned into that word. -/
theorem eq_word_of_connect {items : List Item} {word : String}
    (connected : connect .start items = .ok [.term word]) : items = [.word word] := by
  cases items with
  | nil => simp [connect] at connected
  | cons item rest =>
      cases item with
      | dash => simp [connect] at connected
      | quoted words =>
          cases more : connect .operand rest <;>
            simp [connect, more, Except.map, Before.link] at connected
      | word own =>
          cases more : connect .operand rest with
          | error e => simp [connect, more, Except.map] at connected
          | ok tokens =>
              simp [connect, more, Except.map, Before.link] at connected
              obtain ⟨rfl, rfl⟩ := connected
              rw [eq_nil_of_connect more]

/-! ## Queries -/

theorem tokenize_eq_ok_iff {query : String} {tokens : List Token} :
    tokenize query = .ok tokens ↔
      ∃ items, scan query.toList = .ok items ∧ connect .start items = .ok tokens := by
  unfold tokenize
  cases scan query.toList with
  | error e => simp [bind, Except.bind]
  | ok items => simp [bind, Except.bind]

/-- No accepted query holds an at sign. -/
theorem at_notMem_of_tokenize {query : String} {tokens : List Token}
    (lexed : tokenize query = .ok tokens) : '@' ∉ query.toList := by
  intro member
  obtain ⟨items, scanned, _⟩ := tokenize_eq_ok_iff.1 lexed
  have refused : ¬ Readable '@' := by
    unfold Readable
    decide
  exact refused (readable_of_scan scanned '@' member)

/-- A plan is that of one word, or named by its query. -/
theorem query_of_plan {query : String} {tokens : List Token} {p : Plan}
    (planned : plan query tokens = .ok p) :
    (∃ word, tokens = [.term word] ∧ p = .term word) ∨
      ∃ op children, p = .branch query op children := by
  have single {p : Plan} (planned : planOperand query tokens = .ok p) :
      (∃ word, tokens = [.term word] ∧ p = .term word) ∨
        ∃ op children, p = .branch query op children := by
    rcases planOperand_eq_ok_iff.1 planned with ⟨word, same, rfl⟩ | ⟨words, _, _, rfl⟩
    · exact Or.inl ⟨word, same, rfl⟩
    · exact Or.inr ⟨_, _, rfl⟩
  rcases plan_eq_ok_cases planned with ⟨_, grouped⟩ | ⟨_, _, _, _, _, _, _, _, _, _, rfl⟩
  · rcases planGroups_eq_ok_iff.1 grouped with ⟨_, whole⟩ | ⟨_, _, _, _, rfl⟩
    · rcases planAlternatives_eq_ok_iff.1 whole with ⟨_, one⟩ | ⟨_, _, _, _, rfl⟩
      · exact single one
      · exact Or.inr ⟨_, _, rfl⟩
    · exact Or.inr ⟨_, _, rfl⟩
  · exact Or.inr ⟨_, _, rfl⟩

theorem normalize_trimmed (raw : String) : Trimmed (normalize raw).toList := by
  rw [normalize, trim, String.toList_ofList]
  exact trimChars_trimmed _

end Query

namespace Search

/-- **A search is named by its query.** -/
theorem query_growSearch {catalog : Index.Catalog} {raw : String} {p : Plan}
    (planned : planQuery (normalize raw) = .ok p) (indexes : List (String × Index.Backend)) :
    (growSearch catalog (normalize raw) p indexes).query = normalize raw := by
  by_cases one : indexes.length = 1
  · obtain ⟨index, rfl⟩ := List.length_eq_one_iff.1 one
    obtain ⟨tokens, lexed, made⟩ := planQuery_eq_ok_iff.1 planned
    rw [growSearch_one]
    rcases query_of_plan made with ⟨word, rfl, rfl⟩ | ⟨op, children, rfl⟩
    · obtain ⟨items, scanned, connected⟩ := tokenize_eq_ok_iff.1 lexed
      rw [eq_word_of_connect connected] at scanned
      exact (String.toList_inj.1 (eq_of_scan_eq_word (normalize_trimmed raw) scanned)).symm
    · rw [grow_branch]
      rfl
  · rw [growSearch_several catalog _ p one]
    rfl

end Search

end Concordance
