/-
# Concordance.Proofs.Chunks -- how a query is written

A query is written as chunks with blanks between them.  A chunk is an operand, a word
or a quoted list of words, with a dash right before it or without.  `Spaced` says what
it means to write things one after another; it is used for the chunks of a query and
for the words between two quotes.

Two facts tie this to the scanner.  Chunks that are written so are scanned into their
items, whatever the blanks are (`scan_of_spaced`); and whatever is scanned without two
dashes in a row is written so (`exists_chunks_of_scan`).  That the blanks themselves do
not matter holds for refused queries too: `scan_regap`.
-/
import Concordance.Proofs.Words
import Mathlib.Data.List.Chain

namespace Concordance.Query

open Concordance.Text

set_option autoImplicit false

/-! ## Things with blanks between them -/

section Spacing

variable {α : Type} {written : α → List Char → Prop}

/-- A text in which things are written one after another: blanks may stand anywhere around them,
and what follows one of them starts with a blank. -/
inductive Spaced (written : α → List Char → Prop) : List α → List Char → Prop
  | nil {gap : List Char} (blank : ∀ c ∈ gap, isBlank c = true) : Spaced written [] gap
  | cons {gap text rest : List Char} {a : α} {more : List α} (blank : ∀ c ∈ gap, isBlank c = true)
      (first : written a text) (apart : ∀ c, rest.head? = some c → isBlank c = true)
      (later : Spaced written more rest) : Spaced written (a :: more) (gap ++ (text ++ rest))

theorem Spaced.first {text rest : List Char} {a : α} {more : List α} (first : written a text)
    (apart : ∀ c, rest.head? = some c → isBlank c = true) (later : Spaced written more rest) :
    Spaced written (a :: more) (text ++ rest) :=
  .cons (List.forall_mem_nil _) first apart later

theorem Spaced.alone {text : List Char} {a : α} (only : written a text) : Spaced written [a] text := by
  have nothing : Spaced written ([] : List α) [] := .nil (List.forall_mem_nil _)
  simpa using Spaced.first only (by simp) nothing

theorem Spaced.gap_append {gap s : List Char} {as : List α} (blank : ∀ c ∈ gap, isBlank c = true)
    (spaced : Spaced written as s) : Spaced written as (gap ++ s) := by
  cases spaced with
  | nil more =>
      apply Spaced.nil
      intro c member
      rcases List.mem_append.1 member with front | back
      · exact blank c front
      · exact more c back
  | cons more first apart later =>
      rw [← List.append_assoc]
      refine .cons ?_ first apart later
      intro c member
      rcases List.mem_append.1 member with front | back
      · exact blank c front
      · exact more c back

/-- If the text does not start with a blank, the first thing does. -/
theorem Spaced.exists_first {s : List Char} {as : List α} (onward : goesOn s = true)
    (spaced : Spaced written as s) :
    ∃ a more text rest, as = a :: more ∧ s = text ++ rest ∧ written a text ∧
      (∀ c, rest.head? = some c → isBlank c = true) ∧ Spaced written more rest := by
  cases spaced with
  | nil blank =>
      cases s with
      | nil => simp [goesOn] at onward
      | cons c rest => simp [goesOn, blank c] at onward
  | @cons gap text rest a more blank first apart later =>
      cases gap with
      | nil => exact ⟨a, more, text, rest, rfl, rfl, first, apart, later⟩
      | cons c others => simp [goesOn, blank c] at onward

end Spacing

theorem goesOn_eq_false_iff {s : List Char} :
    goesOn s = false ↔ ∀ c, s.head? = some c → isBlank c = true := by
  cases s <;> simp [goesOn]

/-- Some blanks, and at least one. -/
structure IsGap (s : List Char) : Prop where
  some : s ≠ []
  blank : ∀ c ∈ s, isBlank c = true

theorem goesOn_gap {gap : List Char} (isGap : IsGap gap) (rest : List Char) :
    goesOn (gap ++ rest) = false := by
  obtain ⟨c, others, rfl⟩ := List.exists_cons_of_ne_nil isGap.some
  simp [goesOn, isGap.blank c]

/-! ## The words between blanks -/

theorem splitBlank_gap {gap : List Char} (blank : ∀ c ∈ gap, isBlank c = true) (s : List Char) :
    splitBlank (gap ++ s) = splitBlank s := by
  induction gap with
  | nil => rfl
  | cons c rest ih =>
      have here := blank c List.mem_cons_self
      rw [← ih fun d member => blank d (List.mem_cons_of_mem _ member), List.cons_append, splitBlank,
        runs, List.splitOnP_cons_eq_if_modifyHead, if_pos here]
      simp [splitBlank, runs]

/-- Blanks between two texts keep their words apart. -/
theorem splitBlank_append_gap {gap : List Char} (isGap : IsGap gap) (front back : List Char) :
    splitBlank (front ++ (gap ++ back)) = splitBlank front ++ splitBlank back := by
  obtain ⟨c, others, rfl⟩ := List.exists_cons_of_ne_nil isGap.some
  have first := isGap.blank c List.mem_cons_self
  have blank : ∀ d ∈ others, isBlank d = true :=
    fun d member => isGap.blank d (List.mem_cons_of_mem _ member)
  rw [← splitBlank_gap blank back, List.cons_append, splitBlank, runs,
    List.splitOnP_append_cons front _ first, List.filter_append]
  rfl

theorem splitBlank_of_unbroken {text : List Char} (some : text ≠ [])
    (unbroken : ∀ c ∈ text, isBlank c = false) : splitBlank text = [text] := by
  rw [splitBlank, runs, List.splitOnP_eq_singleton unbroken]
  simp [some]

/-- The word that a text starts with is the first of its words. -/
theorem splitBlank_append {text rest : List Char} (some : text ≠ [])
    (unbroken : ∀ c ∈ text, isBlank c = false)
    (apart : ∀ c, rest.head? = Option.some c → isBlank c = true) :
    splitBlank (text ++ rest) = text :: splitBlank rest := by
  cases rest with
  | nil =>
      rw [List.append_nil, splitBlank_of_unbroken some unbroken]
      simp [splitBlank, runs]
  | cons c others =>
      have blank : isBlank c = true := apart c rfl
      have isGap : IsGap [c] := ⟨by simp, by simpa using blank⟩
      have cut := splitBlank_append_gap isGap text others
      have same := splitBlank_gap isGap.blank others
      rw [List.singleton_append] at cut same
      rw [cut, same, splitBlank_of_unbroken some unbroken]
      rfl

/-- A word is written as it is. -/
def WordWritten (word : String) (text : List Char) : Prop := text = word.toList

theorem isWord_chars {word : String} (isWord : Text.isWord word = true) :
    word.toList ≠ [] ∧ ∀ c ∈ word.toList, isBlank c = false ∧ c ≠ '"' ∧ c ≠ '-' := by
  obtain ⟨some, chars⟩ := isWord_iff.1 isWord
  refine ⟨some, ?_⟩
  intro c member
  have isQuery := chars c member
  have signs : isQueryChar '"' = false ∧ isQueryChar '-' = false := by decide
  refine ⟨not_isBlank_of_isQueryChar isQuery, ?_, ?_⟩
  · rintro rfl
    simp [signs] at isQuery
  · rintro rfl
    simp [signs] at isQuery

/-- Words that are written one after another are the words between the blanks. -/
theorem splitBlank_of_spaced {words : List String} {inside : List Char}
    (areWords : ∀ word ∈ words, isWord word = true) (spaced : Spaced WordWritten words inside) :
    splitBlank inside = words.map String.toList := by
  induction spaced with
  | nil blank =>
      have none := splitBlank_gap blank []
      rw [List.append_nil] at none
      rw [none]
      simp [splitBlank, runs]
  | @cons gap text rest word more blank first apart later ih =>
      obtain ⟨some, chars⟩ := isWord_chars (areWords word List.mem_cons_self)
      have unbroken : ∀ c ∈ word.toList, isBlank c = false := fun c member => (chars c member).1
      rw [splitBlank_gap blank, show text = word.toList from first, List.map_cons,
        ← ih fun other member => areWords other (List.mem_cons_of_mem _ member)]
      exact splitBlank_append some unbroken apart

/-- The words between the blanks of a text are written in it one after another. -/
theorem spaced_splitBlank (inside : List Char) :
    Spaced WordWritten ((splitBlank inside).map String.ofList) inside := by
  induction count : inside.length using Nat.strongRecOn generalizing inside with
  | ind size ih =>
      cases inside with
      | nil => exact .nil (by simp)
      | cons c rest =>
          by_cases blank : isBlank c = true
          · have isGap : IsGap [c] := ⟨by simp, by simpa using blank⟩
            have later := ih rest.length (by simp [← count]) rest rfl
            rw [← splitBlank_gap isGap.blank rest] at later
            exact later.gap_append isGap.blank
          · -- The word goes on up to the next blank.
            have cut := List.takeWhile_append_dropWhile (p := fun d => !isBlank d) (l := c :: rest)
            have some : (c :: rest).takeWhile (fun d => !isBlank d) ≠ [] := by simp [blank]
            have unbroken : ∀ d ∈ (c :: rest).takeWhile (fun d => !isBlank d), isBlank d = false := by
              intro d member
              simpa using List.mem_takeWhile_imp member
            have apart : ∀ d, ((c :: rest).dropWhile (fun d => !isBlank d)).head? = Option.some d →
                isBlank d = true := by
              intro d first
              have stops := List.head?_dropWhile_not (fun d => !isBlank d) (c :: rest)
              rw [first] at stops
              simpa using stops
            have positive := List.length_pos_iff.2 some
            have parts := congrArg List.length cut
            rw [List.length_append] at parts
            have later := ih _ (by omega) ((c :: rest).dropWhile fun d => !isBlank d) rfl
            have split := splitBlank_append some unbroken apart
            rw [cut] at split
            rw [split, List.map_cons]
            conv_rhs => rw [← cut]
            exact .first (by simp [WordWritten]) apart later

/-- **Between quotes** stand words with blanks around them. -/
theorem phraseWords_eq_ok_iff {inside : List Char} {words : List String} :
    phraseWords inside = .ok words ↔
      Spaced WordWritten words inside ∧ ∀ word ∈ words, isWord word = true := by
  unfold phraseWords
  dsimp only
  constructor
  · intro read
    split at read
    · cases read
    · rename_i noBad
      cases read
      refine ⟨spaced_splitBlank inside, ?_⟩
      intro word member
      simpa using List.find?_eq_none.1 noBad word member
  · rintro ⟨spaced, areWords⟩
    have same : (splitBlank inside).map String.ofList = words := by
      rw [splitBlank_of_spaced areWords spaced, List.map_map]
      simp
    have noBad : words.find? (fun word => !isWord word) = none := by
      rw [List.find?_eq_none]
      intro word member
      simp [areWords word member]
    rw [same, noBad]

/-! ## Chunks -/

/-- A word, or a quoted list of words. -/
inductive Operand
  | word (text : String) (isWord : Text.isWord text = true)
  | quoted (words : List String) (areWords : ∀ word ∈ words, Text.isWord word = true)

namespace Operand

/-- The token that an operand is. -/
def token : Operand → Token
  | word text _ => .term text
  | quoted words _ => .phrase words

/-- The item as which an operand is scanned. -/
def item : Operand → Item
  | word text _ => .word text
  | quoted words _ => .quoted words

/-- How an operand is written. -/
inductive Written : Operand → List Char → Prop
  | word (text : String) (isWord : Text.isWord text = true) :
      Written (.word text isWord) text.toList
  | quoted (words : List String) (areWords : ∀ word ∈ words, Text.isWord word = true)
      {inside : List Char} (spaced : Spaced WordWritten words inside) :
      Written (.quoted words areWords) ('"' :: (inside ++ ['"']))

end Operand

/-- An operand with a dash right before it, or without. -/
structure Chunk where
  dashed : Bool
  operand : Operand

namespace Chunk

/-- How a chunk is written. -/
def Written (chunk : Chunk) (text : List Char) : Prop :=
  ∃ body, chunk.operand.Written body ∧ text = if chunk.dashed then '-' :: body else body

/-- The items as which a chunk is scanned. -/
def items (chunk : Chunk) : List Item :=
  if chunk.dashed then [.dash, chunk.operand.item] else [chunk.operand.item]

end Chunk

/-- An operand is a chunk without a dash. -/
theorem Operand.Written.plain {operand : Operand} {body : List Char} (own : operand.Written body) :
    Chunk.Written ⟨false, operand⟩ body := ⟨body, own, by simp⟩

/-! ## Scanning what is written -/

theorem scan_gap {gap : List Char} (blank : ∀ c ∈ gap, isBlank c = true) (s : List Char) :
    scan (gap ++ s) = scan s := by
  induction gap with
  | nil => rfl
  | cons c rest ih =>
      rw [List.cons_append, scan, if_pos (blank c List.mem_cons_self)]
      exact ih fun d member => blank d (List.mem_cons_of_mem _ member)

theorem scan_dash (rest : List Char) :
    scan ('-' :: rest) =
      if goesOn rest then (scan rest).map (Item.dash :: ·) else .error .danglingDash := by
  rw [scan, if_neg (by decide), if_pos rfl]

/-- A quote that is never closed is refused. -/
theorem scan_unclosed {inside : List Char} (unquoted : '"' ∉ inside) :
    scan ('"' :: inside) = .error .unclosedQuote := by
  have none : inside.dropWhile (fun c => decide (c ≠ '"')) = [] := by
    rw [List.dropWhile_eq_nil_iff]
    intro c member
    simpa using ne_of_mem_of_not_mem member unquoted
  rw [scan, if_neg (by decide), if_neg (by decide), if_pos rfl]
  split
  · rfl
  · rename_i cut
    rw [none] at cut
    cases cut

/-- What the scanner does with a quoted phrase and the text behind it. -/
theorem scan_quoted {inside : List Char} (unquoted : '"' ∉ inside) (after : List Char) :
    scan ('"' :: (inside ++ '"' :: after)) =
      if goesOn after then .error .textAfterQuote
      else match phraseWords inside with
        | .error e => .error e
        | .ok words => (scan after).map (Item.quoted words :: ·) := by
  have goes : ∀ c ∈ inside, decide (c ≠ '"') = true := by
    intro c member
    simpa using ne_of_mem_of_not_mem member unquoted
  have taken : (inside ++ '"' :: after).takeWhile (fun c => decide (c ≠ '"')) = inside := by
    rw [List.takeWhile_append_of_pos goes]
    simp
  have dropped : (inside ++ '"' :: after).dropWhile (fun c => decide (c ≠ '"')) = '"' :: after := by
    rw [List.dropWhile_append_of_pos goes]
    simp
  rw [scan, if_neg (by decide), if_neg (by decide), if_pos rfl]
  split
  · rename_i cut
    rw [dropped] at cut
    cases cut
  · rename_i first rest cut
    rw [dropped] at cut
    cases cut
    rewrite [taken]
    rfl

/-- What the scanner does with a run of other characters and the text behind it. -/
theorem scan_run {c : Char} {tail after : List Char} (blank : isBlank c = false) (notDash : c ≠ '-')
    (notQuote : c ≠ '"') (runs : ∀ d ∈ tail, inWord d = true)
    (ends : ∀ d, after.head? = some d → inWord d = false) :
    scan (c :: (tail ++ after)) =
      if goesOn after then .error .textBeforeQuote
      else if isWord (String.ofList (c :: tail)) then
        (scan after).map (Item.word (String.ofList (c :: tail)) :: ·)
      else .error (.termWord (String.ofList (c :: tail))) := by
  have taken : (tail ++ after).takeWhile inWord = tail := by
    rw [List.takeWhile_append_of_pos runs]
    cases after with
    | nil => simp
    | cons d rest => simp [ends d rfl]
  have dropped : (tail ++ after).dropWhile inWord = after := by
    rw [List.dropWhile_append_of_pos runs]
    cases after with
    | nil => simp
    | cons d rest => simp [ends d rfl]
  rw [scan, if_neg (by simp [blank]), if_neg notDash, if_neg notQuote]
  dsimp only
  rw [taken, dropped]

/-- No quote stands between the words of a phrase. -/
theorem quote_notMem_of_spaced {words : List String} {inside : List Char}
    (areWords : ∀ word ∈ words, isWord word = true) (spaced : Spaced WordWritten words inside) :
    '"' ∉ inside := by
  have notBlank : isBlank '"' = false := by decide
  have notInGap {gap : List Char} (blank : ∀ c ∈ gap, isBlank c = true) : '"' ∉ gap := by
    intro member
    simpa [notBlank] using blank _ member
  induction spaced with
  | nil blank => exact notInGap blank
  | @cons gap text rest word more blank first apart later ih =>
      have chars := (isWord_chars (areWords word List.mem_cons_self)).2
      have rest := ih fun other member => areWords other (List.mem_cons_of_mem _ member)
      rw [show text = word.toList from first]
      simp only [List.mem_append, not_or]
      exact ⟨notInGap blank, fun member => (chars _ member).2.1 rfl, rest⟩

theorem scan_operand {operand : Operand} {text rest : List Char} (written : operand.Written text)
    (apart : ∀ c, rest.head? = some c → isBlank c = true) :
    scan (text ++ rest) = (scan rest).map (operand.item :: ·) := by
  have ends : goesOn rest = false := goesOn_eq_false_iff.2 apart
  cases written with
  | word word good =>
      obtain ⟨some, chars⟩ := isWord_chars good
      obtain ⟨c, tail, cut⟩ := List.exists_cons_of_ne_nil some
      have whole : String.ofList (c :: tail) = word := by rw [← cut, String.ofList_toList]
      rw [cut] at chars ⊢
      obtain ⟨blank, notQuote, notDash⟩ := chars c List.mem_cons_self
      have runs : ∀ d ∈ tail, inWord d = true := by
        intro d member
        obtain ⟨blank, notQuote, _⟩ := chars d (List.mem_cons_of_mem _ member)
        simp [inWord, blank, notQuote]
      have stops : ∀ d, rest.head? = Option.some d → inWord d = false := by
        intro d first
        simp [inWord, apart d first]
      rw [List.cons_append, scan_run blank notDash notQuote runs stops, whole]
      simp [ends, good, Operand.item]
  | quoted words good spaced =>
      rw [List.cons_append, List.append_assoc, List.singleton_append,
        scan_quoted (quote_notMem_of_spaced good spaced), phraseWords_eq_ok_iff.2 ⟨spaced, good⟩]
      simp [ends, Operand.item]

/-- An operand starts with a character of its own, be it a quote. -/
theorem Operand.Written.goesOn {operand : Operand} {text : List Char}
    (written : operand.Written text) (rest : List Char) : goesOn (text ++ rest) = true := by
  cases written with
  | word word good =>
      obtain ⟨some, chars⟩ := isWord_chars good
      obtain ⟨c, tail, cut⟩ := List.exists_cons_of_ne_nil some
      rw [cut] at chars ⊢
      simp [Query.goesOn, (chars c List.mem_cons_self).1]
  | quoted words good spaced =>
      show (!isBlank '"') = true
      decide

theorem scan_chunk {chunk : Chunk} {text rest : List Char} (written : chunk.Written text)
    (apart : ∀ c, rest.head? = some c → isBlank c = true) :
    scan (text ++ rest) = (scan rest).map (chunk.items ++ ·) := by
  obtain ⟨body, own, rfl⟩ := written
  by_cases dashed : chunk.dashed = true
  · rw [if_pos dashed, List.cons_append, scan_dash, if_pos (own.goesOn rest), scan_operand own apart,
      Chunk.items, if_pos dashed]
    cases scan rest <;> simp [Except.map]
  · rw [if_neg dashed, scan_operand own apart, Chunk.items, if_neg dashed]
    cases scan rest <;> simp [Except.map]

/-- **Chunks are scanned as they are written**, whatever blanks stand between them. -/
theorem scan_of_spaced {chunks : List Chunk} {text : List Char}
    (spaced : Spaced Chunk.Written chunks text) : scan text = .ok (chunks.flatMap Chunk.items) := by
  induction spaced with
  | nil blank =>
      have none := scan_gap blank []
      rw [List.append_nil] at none
      rw [none]
      simp [scan]
  | cons blank first apart later ih =>
      rw [scan_gap blank, scan_chunk first apart, ih]
      rfl

/-! ## Whatever is scanned was written -/

/-- Two dashes in a row are what chunks cannot be scanned into. -/
def NotBothDashes (first second : Item) : Prop := ¬ (first = .dash ∧ second = .dash)

/-- A text that starts with an operand goes on with chunks, and the operand is the first of them. -/
theorem exists_chunks_cons {operand : Operand} {body after : List Char} {more : List Item}
    (own : operand.Written body) (ends : goesOn after = false)
    (later : ∃ chunks, Spaced Chunk.Written chunks after ∧ more = chunks.flatMap Chunk.items) :
    ∃ chunks, Spaced Chunk.Written chunks (body ++ after) ∧
      operand.item :: more = chunks.flatMap Chunk.items := by
  obtain ⟨chunks, spaced, rfl⟩ := later
  refine ⟨⟨false, operand⟩ :: chunks, ?_, by simp [Chunk.items]⟩
  exact .first own.plain (goesOn_eq_false_iff.1 ends) spaced

/-- **Whatever is scanned is written in chunks**, unless there are two dashes in a row. -/
theorem exists_chunks_of_scan {text : List Char} {items : List Item} (scanned : scan text = .ok items)
    (dashes : items.IsChain NotBothDashes) :
    ∃ chunks, Spaced Chunk.Written chunks text ∧ items = chunks.flatMap Chunk.items := by
  induction count : text.length using Nat.strongRecOn generalizing text items with
  | ind size ih =>
      cases text with
      | nil =>
          rw [scan] at scanned
          cases scanned
          exact ⟨[], .nil (by simp), rfl⟩
      | cons first rest =>
          have shorter : rest.length < size := by simp [← count]
          rcases scan_cons_cases scanned with
            ⟨blank, more⟩ | ⟨rfl, onward, found, more, rfl⟩ |
            ⟨rfl, inside, after, words, found, rfl, read, ends, more, rfl⟩ |
            ⟨tail, after, found, rfl, good, ends, more, rfl⟩
          · obtain ⟨chunks, spaced, same⟩ := ih _ shorter more dashes rfl
            have isGap : ∀ c ∈ [first], isBlank c = true := by simpa using blank
            exact ⟨chunks, spaced.gap_append isGap, same⟩
          · obtain ⟨chunks, spaced, rfl⟩ := ih _ shorter more dashes.tail rfl
            obtain ⟨chunk, others, body, behind, rfl, rfl, own, apart, later⟩ :=
              spaced.exists_first onward
            have plain : chunk.dashed = false := by
              cases dashed : chunk.dashed with
              | false => rfl
              | true => simp [Chunk.items, dashed, NotBothDashes] at dashes
            obtain ⟨body, operandWritten, rfl⟩ := own
            have written : Chunk.Written ⟨true, chunk.operand⟩ ('-' :: body) :=
              ⟨body, operandWritten, by simp⟩
            refine ⟨⟨true, chunk.operand⟩ :: others, ?_, by simp [Chunk.items, plain]⟩
            simp only [plain]
            exact .first written apart later
          · rw [List.length_append, List.length_cons] at shorter
            obtain ⟨spaced, areWords⟩ := phraseWords_eq_ok_iff.1 read
            have own := Operand.Written.quoted words areWords spaced
            have result := exists_chunks_cons own ends (ih _ (by omega) more dashes.tail rfl)
            rw [List.cons_append, List.append_assoc, List.singleton_append] at result
            exact result
          · rw [List.length_append] at shorter
            have own := Operand.Written.word _ good
            rw [String.toList_ofList] at own
            exact exists_chunks_cons own ends (ih _ (by omega) more dashes.tail rfl)

/-! ## Other blanks -/

/-- Other blanks within quotes make the same words, or the same refusal. -/
theorem phraseWords_regap {gap other : List Char} (isGap : IsGap gap) (isOther : IsGap other)
    (front back : List Char) :
    phraseWords (front ++ (gap ++ back)) = phraseWords (front ++ (other ++ back)) := by
  unfold phraseWords
  rw [splitBlank_append_gap isGap, splitBlank_append_gap isOther]

theorem goesOn_regap {gap other : List Char} (isGap : IsGap gap) (isOther : IsGap other)
    (front back : List Char) : goesOn (front ++ (gap ++ back)) = goesOn (front ++ (other ++ back)) := by
  cases front with
  | nil => rw [List.nil_append, List.nil_append, goesOn_gap isGap, goesOn_gap isOther]
  | cons c rest => rfl

theorem quote_notMem_gap {gap : List Char} (isGap : IsGap gap) : '"' ∉ gap := by
  intro member
  have blank := isGap.blank _ member
  revert blank
  decide

/-- **It does not matter which blanks there are**: with others in their place the query is scanned
into the same items, or refused for the same reason. -/
theorem scan_regap {gap other : List Char} (isGap : IsGap gap) (isOther : IsGap other)
    (front back : List Char) :
    scan (front ++ (gap ++ back)) = scan (front ++ (other ++ back)) := by
  induction count : front.length using Nat.strongRecOn generalizing front with
  | ind size ih =>
      cases front with
      | nil => rw [List.nil_append, List.nil_append, scan_gap isGap.blank, scan_gap isOther.blank]
      | cons c rest =>
          have shorter : rest.length < size := by simp [← count]
          rw [List.cons_append, List.cons_append]
          by_cases blank : isBlank c = true
          · rw [scan, scan, if_pos blank, if_pos blank]
            exact ih _ shorter rest rfl
          by_cases isDash : c = '-'
          · subst isDash
            rw [scan_dash, scan_dash, goesOn_regap isGap isOther, ih _ shorter rest rfl]
          by_cases isQuote : c = '"'
          · subst isQuote
            by_cases inFront : '"' ∈ rest
            · -- The phrase ends before the blanks.
              obtain ⟨inside, after, rfl, unquoted⟩ := List.eq_append_cons_of_mem inFront
              rw [List.length_append, List.length_cons] at shorter
              rw [List.append_assoc, List.append_assoc, List.cons_append, List.cons_append,
                scan_quoted unquoted, scan_quoted unquoted, goesOn_regap isGap isOther,
                ih _ (by omega) after rfl]
            by_cases inBack : '"' ∈ back
            · -- The blanks stand in the phrase.
              obtain ⟨inside, after, rfl, unquoted⟩ := List.eq_append_cons_of_mem inBack
              have notInGap := quote_notMem_gap isGap
              have notInOther := quote_notMem_gap isOther
              have whole (s : List Char) : rest ++ (s ++ (inside ++ '"' :: after)) =
                  (rest ++ (s ++ inside)) ++ '"' :: after := by simp
              rw [whole, whole, scan_quoted (by simp [inFront, notInGap, unquoted]),
                scan_quoted (by simp [inFront, notInOther, unquoted]),
                phraseWords_regap isGap isOther]
            · rw [scan_unclosed (by simp [inFront, inBack, quote_notMem_gap isGap]),
                scan_unclosed (by simp [inFront, inBack, quote_notMem_gap isOther])]
          · -- A run of other characters ends at the blanks at the latest.
            have cut := List.takeWhile_append_dropWhile (p := inWord) (l := rest)
            have runs : ∀ d ∈ rest.takeWhile inWord, inWord d = true :=
              fun d member => List.mem_takeWhile_imp member
            have ends {s : List Char} (isGap : IsGap s) : ∀ d,
                (rest.dropWhile inWord ++ (s ++ back)).head? = some d → inWord d = false := by
              intro d first
              have stops := List.head?_dropWhile_not inWord rest
              cases left : rest.dropWhile inWord with
              | nil =>
                  obtain ⟨e, others, rfl⟩ := List.exists_cons_of_ne_nil isGap.some
                  rw [left] at first
                  have same : e = d := by simpa using first
                  simp [inWord, ← same, isGap.blank e]
              | cons e others =>
                  rw [left] at first stops
                  have same : e = d := by simpa using first
                  simpa [← same] using stops
            have left := List.length_dropWhile_le inWord rest
            rw [← cut, List.append_assoc, List.append_assoc,
              scan_run (by simpa using blank) isDash isQuote runs (ends isGap),
              scan_run (by simpa using blank) isDash isQuote runs (ends isOther),
              goesOn_regap isGap isOther, ih _ (by omega) _ rfl]

end Concordance.Query
