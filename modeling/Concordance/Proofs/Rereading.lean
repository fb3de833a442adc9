/-
# Concordance.Proofs.Rereading -- tokens that are written out can be read back

Not every list of tokens reads back as itself: written out, a term spelled `or` looks like
the connective.  `Legible` says which lists do.  Operands and connectives take turns, and
behind an `and` a word for a connective stands only at the very end, where it cannot be
taken for one; at the start and behind another connective it is safe anyway.

The two halves of the round trip meet there: whatever is read is legible
(`legible_of_tokenize`), and what is legible is read back as it is
(`tokenize_render_of_legible`).
-/
import Concordance.Proofs.Grammar

namespace Concordance.Query

open Concordance.Text

set_option autoImplicit false

/-! ## Legible tokens -/

/-- The tokens start with a word for a connective, and do not end with it. -/
def StartsAmbiguously (tokens : List Token) : Prop :=
  ∃ word link rest, tokens = .term word :: link :: rest ∧ connectiveWord? word ≠ none

/-- Operands with a connective between any two, none of which could be taken for a connective. -/
inductive Legible : List Token → Prop
  | single (operand : Operand) : Legible [operand.token]
  | join (operand : Operand) (link : Token) {rest : List Token} (joins : link.isOperand = false)
      (later : Legible rest) (plain : link = .and → ¬ StartsAmbiguously rest) :
      Legible (operand.token :: link :: rest)

/-- What may stand behind an operand: nothing, or a connective and what it joins. -/
def Joined (tokens : List Token) : Prop :=
  tokens = [] ∨ ∃ link rest, tokens = link :: rest ∧ link.isOperand = false ∧ Legible rest ∧
    (link = .and → ¬ StartsAmbiguously rest)

theorem Joined.legible {tokens : List Token} (joined : Joined tokens) (operand : Operand) :
    Legible (operand.token :: tokens) := by
  rcases joined with rfl | ⟨link, rest, rfl, joins, later, plain⟩
  · exact .single operand
  · exact .join operand link joins later plain

theorem connectiveWord?_joins {word : String} {token : Token}
    (spelled : connectiveWord? word = some token) : token.isOperand = false ∧ token ≠ .and := by
  unfold connectiveWord? at spelled
  split at spelled
  · cases spelled
    exact ⟨rfl, by simp⟩
  · split at spelled
    · cases spelled
      exact ⟨rfl, by simp⟩
    · cases spelled

/-! ## Whatever is read is legible -/

/-- What is read from some chunks, given what has been read before them. -/
def ReadsOn (before : Before) (tokens : List Token) : Prop :=
  match before with
  | .start => tokens = [] ∨ Legible tokens
  | .operand => Joined tokens
  | .connective token => token.isOperand = false → token ≠ .and →
      ∃ rest, tokens = token :: rest ∧ Legible rest

/-- An operand that is no connective where it stands is joined so that it reads back. -/
theorem readsOn_joined {before : Before} {chunk : Chunk} {last : Prop} [Decidable last]
    {more : List Token} (placed : chunk.dashed = true → before = .operand)
    (stands : chunk.standsFor before last = none) (ends : last → more = []) (joined : Joined more) :
    ReadsOn before (chunk.joined before ++ more) := by
  have legible := joined.legible chunk.operand
  obtain ⟨dashed, operand⟩ := chunk
  cases before with
  | start => exact Or.inr legible
  | connective token => exact fun _ _ => ⟨_, rfl, legible⟩
  | operand =>
      refine Or.inr ⟨Before.operand.join dashed, operand.token :: more, rfl, ?_, legible, ?_⟩
      · cases dashed <;> rfl
      · -- Joined by `and` and not last, it spells no connective.
        rintro isAnd ⟨word, link, rest, same, spells⟩
        rw [List.cons.injEq] at same
        obtain ⟨isTerm, rfl⟩ := same
        have notLast : ¬ last := by
          intro isLast
          cases ends isLast
        cases dashed with
        | true => cases isAnd
        | false =>
            cases operand with
            | quoted words areWords => cases isTerm
            | word text isWord =>
                cases isTerm
                simp [Chunk.standsFor, notLast, Chunk.connective?, spells] at stands

theorem readsOn_of_connect {before : Before} {chunks : List Chunk} {tokens : List Token}
    (connected : connect before (chunks.flatMap Chunk.items) = .ok tokens) :
    ReadsOn before tokens := by
  induction chunks generalizing before tokens with
  | nil =>
      cases before with
      | start =>
          cases connected
          exact Or.inl rfl
      | operand =>
          cases connected
          exact Or.inl rfl
      | connective token => cases connected
  | cons chunk rest ih =>
      rw [List.flatMap_cons, connect_chunk_iff] at connected
      obtain ⟨placed, connected⟩ := connected
      cases stands : chunk.standsFor before (rest.flatMap Chunk.items = []) with
      | some token =>
          rw [stands] at connected
          -- Only a plain word directly behind an operand stands for a connective.
          obtain ⟨dashed, operand⟩ := chunk
          unfold Chunk.standsFor Chunk.connective? at stands
          split at stands
          · rename_i between
            obtain ⟨rfl, _⟩ := between
            split at stands
            · obtain ⟨joins, notAnd⟩ := connectiveWord?_joins stands
              obtain ⟨later, rfl, legible⟩ := ih connected joins notAnd
              exact Or.inr ⟨token, later, rfl, joins, legible, fun isAnd => absurd isAnd notAnd⟩
            · cases stands
          · cases stands
      | none =>
          rw [stands] at connected
          obtain ⟨more, later, rfl⟩ := connected
          refine readsOn_joined placed stands ?_ (ih later)
          intro nothing
          rw [nothing] at later
          cases later
          rfl

/-- **Whatever is read is legible**, if it is anything at all. -/
theorem legible_of_tokenize {query : String} {tokens : List Token}
    (lexed : tokenize query = .ok tokens) : tokens = [] ∨ Legible tokens := by
  obtain ⟨items, scanned, connected⟩ := tokenize_eq_ok_iff.1 lexed
  obtain ⟨chunks, _, rfl⟩ := exists_chunks_of_scan scanned (isChain_of_connect connected)
  exact readsOn_of_connect connected

/-! ## What is legible is read back -/

theorem render_cons (token : Token) (tokens : List Token) :
    (render (token :: tokens)).toList = token.text.toList ++ (render tokens).toList := by
  rw [render, List.map_cons, String.join_cons, String.toList_append]
  rfl

theorem blank_space : ∀ c ∈ [' '], isBlank c = true := List.all_eq_true.1 rfl

/-- Words with single spaces between them are words with blanks between them. -/
theorem spaced_intercalate (words : List String) :
    Spaced WordWritten words (String.intercalate " " words).toList := by
  have space : (" " : String).toList = [' '] := rfl
  rw [String.toList_intercalate, space]
  induction words with
  | nil => exact .nil (by simp)
  | cons word rest ih =>
      cases rest with
      | nil =>
          have alone : Spaced WordWritten [word] word.toList := .alone rfl
          simpa using alone
      | cons next others =>
          rw [List.map_cons, List.map_cons, List.intercalate_cons_cons, List.append_assoc]
          exact .first rfl (by simpa using blank_space) (ih.gap_append blank_space)

/-- An operand is written as the text of its token. -/
theorem Operand.written_text (operand : Operand) : operand.Written operand.token.text.toList := by
  cases operand with
  | word text isWord => exact .word text isWord
  | quoted words areWords =>
      have text : (Token.phrase words).text.toList =
          '"' :: ((String.intercalate " " words).toList ++ ['"']) := by
        simp [Token.text]
      rw [Operand.token, text]
      exact .quoted words areWords (spaced_intercalate words)

/-- A connective is written as a blank, or as its word between blanks. -/
theorem link_cases {link : Token} (joins : link.isOperand = false) :
    link = .and ∨ ∃ word, isWord word = true ∧ connectiveWord? word = some link ∧
      link.text.toList = ' ' :: (word.toList ++ [' ']) := by
  cases link with
  | term word => cases joins
  | phrase words => cases joins
  | and => exact Or.inl rfl
  | or => exact Or.inr ⟨"or", by decide, rfl, rfl⟩
  | not => exact Or.inr ⟨"not", by decide, rfl, rfl⟩

theorem standsFor_of_clear {before : Before} {operand : Operand} {last : Prop} [Decidable last]
    {link : Token} {rest : List Token}
    (clear : before = .operand → ¬ StartsAmbiguously (operand.token :: link :: rest)) :
    (Chunk.mk false operand).standsFor before last = none := by
  unfold Chunk.standsFor
  split
  · rename_i between
    cases operand with
    | quoted words areWords => rfl
    | word text isWord =>
        by_contra spells
        exact clear between.1 ⟨text, link, rest, rfl, spells⟩
  · rfl

/-- The chunks as which some tokens are written out, and read back behind anything that does not
change what they mean. -/
structure WrittenOut (tokens : List Token) (chunks : List Chunk) : Prop where
  some : chunks ≠ []
  spaced : Spaced Chunk.Written chunks (render tokens).toList
  read : ∀ before, (before = .operand → ¬ StartsAmbiguously tokens) →
    connect before (chunks.flatMap Chunk.items) = .ok (before.link ++ tokens)

theorem writtenOut_single (operand : Operand) :
    WrittenOut [operand.token] [⟨false, operand⟩] where
  some := by simp
  spaced := by
    rw [render_cons]
    simpa [render] using Spaced.alone operand.written_text.plain
  read before _ := by
    have plain : (Chunk.mk false operand).standsFor before (([] : List Item) = []) = none := by
      simp [Chunk.standsFor]
    exact connect_operand plain

/-- Behind an operand, what is written out after a blank is read with `and`. -/
theorem writtenOut_and {operand : Operand} {rest : List Token} {chunks : List Chunk}
    (later : WrittenOut rest chunks) (plain : ¬ StartsAmbiguously rest) :
    WrittenOut (operand.token :: .and :: rest) (⟨false, operand⟩ :: chunks) where
  some := by simp
  spaced := by
    have space : Token.and.text.toList = [' '] := rfl
    rw [render_cons, render_cons, space]
    exact .first operand.written_text.plain (by simpa using blank_space)
      (later.spaced.gap_append blank_space)
  read before clear := by
    rw [List.flatMap_cons]
    show connect before (operand.item :: chunks.flatMap Chunk.items) = _
    rw [connect_operand (standsFor_of_clear clear), later.read .operand fun _ => plain]
    rfl

/-- Behind an operand, what is written out after the word for a connective is read with that. -/
theorem writtenOut_word {operand : Operand} {word : String} {link : Token} {rest : List Token}
    {chunks : List Chunk} (later : WrittenOut rest chunks) (isWord : Text.isWord word = true)
    (spelled : connectiveWord? word = some link)
    (text : link.text.toList = ' ' :: (word.toList ++ [' '])) :
    WrittenOut (operand.token :: link :: rest)
      (⟨false, operand⟩ :: ⟨false, .word word isWord⟩ :: chunks) where
  some := by simp
  spaced := by
    have connective : Operand.Written (.word word isWord) word.toList := .word word isWord
    have behind := Spaced.cons blank_space connective.plain (by simpa using blank_space)
      (later.spaced.gap_append blank_space)
    have spaced := Spaced.first operand.written_text.plain (by simpa using blank_space) behind
    rw [render_cons, render_cons, text]
    simpa using spaced
  read before clear := by
    have notLast : chunks.flatMap Chunk.items ≠ [] := by
      obtain ⟨first, others, rfl⟩ := List.exists_cons_of_ne_nil later.some
      simp [Chunk.items]
      split <;> simp
    rw [List.flatMap_cons, List.flatMap_cons]
    show connect before (operand.item :: .word word :: chunks.flatMap Chunk.items) = _
    rw [connect_operand (standsFor_of_clear clear), connect, if_pos ⟨rfl, notLast⟩, spelled]
    dsimp only
    rw [later.read (.connective link) (by simp)]
    rfl

theorem exists_writtenOut {tokens : List Token} (legible : Legible tokens) :
    ∃ chunks, WrittenOut tokens chunks := by
  induction legible with
  | single operand => exact ⟨_, writtenOut_single operand⟩
  | join operand link joins _ plain ih =>
      obtain ⟨chunks, later⟩ := ih
      rcases link_cases joins with rfl | ⟨word, isWord, spelled, text⟩
      · exact ⟨_, writtenOut_and later (plain rfl)⟩
      · exact ⟨_, writtenOut_word later isWord spelled text⟩

/-- **What is legible is read back.** -/
theorem tokenize_render_of_legible {tokens : List Token} (legible : Legible tokens) :
    tokenize (render tokens) = .ok tokens := by
  obtain ⟨chunks, written⟩ := exists_writtenOut legible
  have read := written.read .start (by simp)
  exact tokenize_eq_ok_iff.2 ⟨_, scan_of_spaced written.spaced, read⟩

/-- **Whatever was read can be written out and read again**: the tokens are the same. -/
theorem tokenize_render {query : String} {tokens : List Token}
    (lexed : tokenize query = .ok tokens) : tokenize (render tokens) = .ok tokens := by
  rcases legible_of_tokenize lexed with rfl | legible
  · cbv
  · exact tokenize_render_of_legible legible

/-- Terms that are spelled like connectives, first, behind connectives and last. -/
def connectiveTerms : List Token :=
  [.term "or", .not, .phrase [], .not, .term "not", .or, .term "not", .and, .term "or"]

theorem tokenize_render_connectiveTerms :
    tokenize "or not  \"\" -not or\tnot or" = .ok connectiveTerms ∧
      tokenize (render connectiveTerms) = .ok connectiveTerms := by
  have lexed : tokenize "or not  \"\" -not or\tnot or" = .ok connectiveTerms := by
    rw [connectiveTerms]
    cbv
  exact ⟨lexed, tokenize_render lexed⟩

end Concordance.Query
