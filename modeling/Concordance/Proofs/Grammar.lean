/-
# Concordance.Proofs.Grammar -- which queries are read, and as what

A query is accepted exactly when it is written in chunks and every dash comes directly
after an operand.  Which chunks are operands is a matter of their places: a plain `or` or
`not` is a connective if it directly follows an operand and is not the last chunk
(`connectiveAt`), and everything else is an operand.  The tokens are the operands in
order, with what joins each to the one before it (`tokensOf`).

The reader goes over the chunks once and remembers what stood before.  What it remembers
at a place is what the places before it say (`connectiveAt_eq`), so one step of it is one
chunk (`connect_chunk_iff`) and a whole run is the grammar (`connect_chunks_iff`).
-/
import Concordance.Proofs.Chunks

namespace Concordance.Query

open Concordance.Text

set_option autoImplicit false

/-! ## Connectives and operands, by their places -/

/-- The connective that a chunk spells, if it is a plain word for one. -/
def Chunk.connective? : Chunk → Option Token
  | ⟨false, .word text _⟩ => connectiveWord? text
  | _ => none

/-- The connective that the chunk at a place stands for. It is one only if the chunk before it is an
operand and another chunk comes behind it. -/
def connectiveAt (chunks : List Chunk) : Nat → Option Token
  | 0 => none
  | i + 1 =>
      if connectiveAt chunks i = none ∧ i + 2 < chunks.length then
        chunks[i + 1]?.bind Chunk.connective?
      else none

/-- Every dash comes directly after an operand. -/
def DashesFollow (chunks : List Chunk) : Prop :=
  ∀ i chunk, chunks[i]? = some chunk → chunk.dashed = true →
    ∃ j, i = j + 1 ∧ connectiveAt chunks j = none

/-- What joins the operand at a place to the one before it: the connective between them, or else
`not` for a dash and `and` without one. -/
def joinAt (chunks : List Chunk) (dashed : Bool) : Nat → List Token
  | 0 => []
  | i + 1 => [(connectiveAt chunks i).getD (if dashed then .not else .and)]

/-- The tokens for the chunk at a place: none if it is a connective. -/
def tokensAt (chunks : List Chunk) (place : Chunk × Nat) : List Token :=
  if connectiveAt chunks place.2 = none then
    joinAt chunks place.1.dashed place.2 ++ [place.1.operand.token]
  else []

/-- The tokens of a query: its operands in order, each behind what joins it to the one before. -/
def tokensOf (chunks : List Chunk) : List Token := chunks.zipIdx.flatMap (tokensAt chunks)

/-! ## One chunk -/

/-- What joins an operand to what has been read before it. -/
def Before.join (before : Before) (dashed : Bool) : Token :=
  match before with
  | .connective token => token
  | _ => if dashed then .not else .and

/-- The connective that a chunk stands for, given what has been read before it and what comes
behind it. -/
def Chunk.standsFor (chunk : Chunk) (before : Before) (last : Prop) [Decidable last] : Option Token :=
  if before = .operand ∧ ¬ last then chunk.connective? else none

/-- The tokens with which an operand is read. -/
def Chunk.joined (chunk : Chunk) (before : Before) : List Token :=
  if before = .start then [chunk.operand.token]
  else [before.join chunk.dashed, chunk.operand.token]

theorem map_eq_ok_iff {ε α β : Type} {f : α → β} {result : Except ε α} {b : β} :
    result.map f = .ok b ↔ ∃ a, result = .ok a ∧ b = f a := by
  cases result <;> simp [Except.map, eq_comm]

/-- An operand that is not a connective is read as its token. -/
theorem connect_operand {operand : Operand} {before : Before} {rest : List Item}
    (plain : (Chunk.mk false operand).standsFor before (rest = []) = none) :
    connect before (operand.item :: rest) =
      (connect .operand rest).map (before.link ++ operand.token :: ·) := by
  cases operand with
  | quoted words areWords => cases before <;> rfl
  | word text isWord =>
      simp only [Operand.item, Operand.token]
      unfold Chunk.standsFor at plain
      cases before <;> rw [connect] <;> simp_all [Chunk.connective?]

/-- **What the reader does with a chunk**: a dash needs an operand before it, a connective is
remembered, and an operand is read behind what joins it. -/
theorem connect_chunk_iff {before : Before} {chunk : Chunk} {rest : List Item} {tokens : List Token} :
    connect before (chunk.items ++ rest) = .ok tokens ↔
      (chunk.dashed = true → before = .operand) ∧
        match chunk.standsFor before (rest = []) with
        | some token => connect (.connective token) rest = .ok tokens
        | none => ∃ more, connect .operand rest = .ok more ∧ tokens = chunk.joined before ++ more := by
  obtain ⟨dashed, operand⟩ := chunk
  cases dashed with
  | false =>
      cases stands : (Chunk.mk false operand).standsFor before (rest = []) with
      | none =>
          show connect before (operand.item :: rest) = .ok tokens ↔ _
          rw [connect_operand stands, map_eq_ok_iff]
          cases before <;> simp [Chunk.joined, Before.join, Before.link]
      | some token =>
          -- Only a plain word directly behind an operand stands for anything.
          unfold Chunk.standsFor at stands
          split at stands
          · rename_i between
            obtain ⟨rfl, notLast⟩ := between
            cases operand with
            | quoted words areWords => simp [Chunk.connective?] at stands
            | word text isWord =>
                have spelled : connectiveWord? text = some token := stands
                show connect .operand (.word text :: rest) = .ok tokens ↔ _
                rw [connect, if_pos ⟨rfl, notLast⟩, spelled]
                simp
          · cases stands
  | true =>
      have plain : (Chunk.mk true operand).standsFor before (rest = []) = none := by
        simp [Chunk.standsFor, Chunk.connective?]
      rw [plain]
      show connect before (.dash :: operand.item :: rest) = .ok tokens ↔ _
      cases before with
      | start => simp [connect]
      | connective token => simp [connect]
      | operand =>
          have undashed : (Chunk.mk false operand).standsFor (.connective .not) (rest = []) = none := by
            simp [Chunk.standsFor]
          rw [connect, connect_operand undashed, map_eq_ok_iff]
          simp [Chunk.joined, Before.join, Before.link]

/-! ## All chunks -/

/-- What has been read before the chunk at a place. -/
def beforeAt (chunks : List Chunk) : Nat → Before
  | 0 => .start
  | i + 1 =>
      match connectiveAt chunks i with
      | some token => .connective token
      | none => .operand

theorem beforeAt_eq_operand_iff {chunks : List Chunk} {i : Nat} :
    beforeAt chunks i = .operand ↔ ∃ j, i = j + 1 ∧ connectiveAt chunks j = none := by
  cases i with
  | zero => simp [beforeAt]
  | succ j =>
      rw [beforeAt]
      cases known : connectiveAt chunks j <;> simp [known]

/-- What is remembered when a chunk is reached tells what it stands for. -/
theorem connectiveAt_eq {chunks : List Chunk} {i : Nat} {chunk : Chunk}
    (placed : chunks[i]? = some chunk) :
    connectiveAt chunks i = chunk.standsFor (beforeAt chunks i) (chunks.length ≤ i + 1) := by
  unfold Chunk.standsFor
  cases i with
  | zero => simp [connectiveAt, beforeAt]
  | succ j =>
      rw [connectiveAt, placed, beforeAt]
      cases connectiveAt chunks j with
      | none => by_cases last : chunks.length ≤ j + 2 <;> simp [last]
      | some token => simp

theorem joined_beforeAt (chunks : List Chunk) (chunk : Chunk) (i : Nat) :
    chunk.joined (beforeAt chunks i) =
      joinAt chunks chunk.dashed i ++ [chunk.operand.token] := by
  cases i with
  | zero => rfl
  | succ j =>
      rw [beforeAt, joinAt]
      cases connectiveAt chunks j <;> simp [Chunk.joined, Before.join]

/-- The last chunk is an operand. -/
theorem beforeAt_length (chunks : List Chunk) (token : Token) :
    beforeAt chunks chunks.length ≠ .connective token := by
  have last : connectiveAt chunks (chunks.length - 1) = none := by
    cases length : chunks.length - 1 with
    | zero => rfl
    | succ i =>
        rw [connectiveAt, if_neg]
        omega
  cases length : chunks.length with
  | zero => simp [beforeAt]
  | succ i =>
      rw [length, Nat.add_sub_cancel] at last
      simp [beforeAt, last]

/-- **What the reader does with the chunks from a place on**: every dash among them needs an operand
right before it, and their tokens are those for their places. -/
theorem connect_chunks_iff {front back : List Chunk} {tokens : List Token} :
    connect (beforeAt (front ++ back) front.length) (back.flatMap Chunk.items) = .ok tokens ↔
      (∀ place ∈ back.zipIdx front.length, place.1.dashed = true →
        beforeAt (front ++ back) place.2 = .operand) ∧
      tokens = (back.zipIdx front.length).flatMap (tokensAt (front ++ back)) := by
  induction back generalizing front tokens with
  | nil =>
      have read : connect (beforeAt front front.length) [] = .ok [] := by
        cases before : beforeAt front front.length with
        | start => rfl
        | operand => rfl
        | connective token => exact absurd before (beforeAt_length front token)
      rw [List.append_nil, List.flatMap_nil, read]
      constructor
      · intro same
        cases same
        simp
      · rintro ⟨_, rfl⟩
        rfl
  | cons chunk back ih =>
      -- The chunk belongs to the front once it has been read.
      have shift : front ++ chunk :: back = (front ++ [chunk]) ++ back := by simp
      have placed : (front ++ chunk :: back)[front.length]? = some chunk := by simp
      have nothing : back.flatMap Chunk.items = [] ↔
          (front ++ chunk :: back).length ≤ front.length + 1 := by
        cases back with
        | nil => simp
        | cons next others =>
            have some : next.items ≠ [] := by
              unfold Chunk.items
              split <;> simp
            simp [some]
      have stands := connectiveAt_eq placed
      simp only [← nothing] at stands
      have rest := @ih (front ++ [chunk])
      rw [← shift, List.length_append, List.length_singleton, beforeAt] at rest
      rw [List.flatMap_cons, connect_chunk_iff, ← stands, List.zipIdx_cons, List.forall_mem_cons,
        List.flatMap_cons, joined_beforeAt]
      rw [and_assoc]
      refine and_congr_right fun _ => ?_
      cases known : connectiveAt (front ++ chunk :: back) front.length with
      | some token =>
          rw [known] at rest
          simp [rest, tokensAt, known]
      | none =>
          rw [known] at rest
          simp only [rest, tokensAt, known]
          constructor
          · rintro ⟨more, ⟨dashes, rfl⟩, rfl⟩
            exact ⟨dashes, by simp⟩
          · rintro ⟨dashes, rfl⟩
            exact ⟨_, ⟨dashes, rfl⟩, by simp⟩

/-- **Chunks are accepted** when their dashes follow operands, and read as their tokens. -/
theorem connect_start_chunks_iff {chunks : List Chunk} {tokens : List Token} :
    connect .start (chunks.flatMap Chunk.items) = .ok tokens ↔
      DashesFollow chunks ∧ tokens = tokensOf chunks := by
  have whole := @connect_chunks_iff [] chunks tokens
  rw [List.nil_append, List.length_nil] at whole
  refine whole.trans (and_congr_left fun _ => ?_)
  unfold DashesFollow
  simp only [← beforeAt_eq_operand_iff, Prod.forall, List.mem_zipIdx_iff_getElem?]
  exact forall_comm

/-! ## Refusals -/

/-- What the reader accepts holds no two dashes in a row: it asks for an operand behind the first. -/
theorem isChain_of_connect {before : Before} {items : List Item} {tokens : List Token}
    (connected : connect before items = .ok tokens) : items.IsChain NotBothDashes := by
  have consOther {item : Item} {rest : List Item} (other : item ≠ .dash)
      (chain : rest.IsChain NotBothDashes) : (item :: rest).IsChain NotBothDashes := by
    refine List.isChain_cons.2 ⟨?_, chain⟩
    rintro next _ ⟨isDash, _⟩
    exact other isDash
  fun_induction connect before items generalizing tokens with
  | case1 => simp
  | case2 => simp
  | case3 rest ih =>
      refine List.isChain_cons.2 ⟨?_, ih connected⟩
      rintro next first ⟨_, rfl⟩
      obtain ⟨others, rfl⟩ := List.head?_eq_some_iff.1 first
      simp [connect] at connected
  | case4 => cases connected
  | case5 before words rest ih =>
      obtain ⟨more, later, _⟩ := map_eq_ok_iff.1 connected
      exact consOther (by simp) (ih later)
  | case6 before word rest token stands ih => exact consOther (by simp) (ih connected)
  | case7 before word rest stands ih =>
      obtain ⟨more, later, _⟩ := map_eq_ok_iff.1 connected
      exact consOther (by simp) (ih later)

/-- Something comes behind every dash that is scanned. -/
theorem getLast?_of_scan {text : List Char} {items : List Item} (scanned : scan text = .ok items) :
    items.getLast? ≠ some .dash := by
  have consOther {item : Item} {rest : List Item} (other : item ≠ .dash)
      (later : rest.getLast? ≠ some .dash) : (item :: rest).getLast? ≠ some .dash := by
    cases rest with
    | nil => simpa using other
    | cons next others => rwa [List.getLast?_cons_cons]
  induction count : text.length using Nat.strongRecOn generalizing text items with
  | ind size ih =>
      cases text with
      | nil =>
          rw [scan] at scanned
          cases scanned
          simp
      | cons first rest =>
          have shorter : rest.length < size := by simp [← count]
          rcases scan_cons_cases scanned with
            ⟨_, more⟩ | ⟨rfl, onward, found, more, rfl⟩ |
            ⟨rfl, inside, after, words, found, rfl, _, _, more, rfl⟩ |
            ⟨tail, after, found, rfl, _, _, more, rfl⟩
          · exact ih _ shorter more rfl
          · cases found with
            | nil =>
                have blank := blank_of_scan_eq_nil more
                cases rest with
                | nil => simp [goesOn] at onward
                | cons c others => simp [goesOn, blank c] at onward
            | cons next others =>
                rw [List.getLast?_cons_cons]
                exact ih _ shorter more rfl
          · rw [List.length_append, List.length_cons] at shorter
            exact consOther (by simp) (ih _ (by omega) more rfl)
          · rw [List.length_append] at shorter
            exact consOther (by simp) (ih _ (by omega) more rfl)

theorem map_eq_error_iff {ε α β : Type} {f : α → β} {result : Except ε α} {e : ε} :
    result.map f = .error e ↔ result = .error e := by
  cases result <;> simp [Except.map]

/-- A query whose last item is no dash does not end with a connective. -/
theorem connect_ne_connectiveLast {before : Before} {items : List Item}
    (last : items.getLast? ≠ some .dash) (opened : ∀ token, before = .connective token → items ≠ []) :
    connect before items ≠ .error .connectiveLast := by
  have later {item : Item} {rest : List Item} (last : (item :: rest).getLast? ≠ some .dash) :
      rest.getLast? ≠ some .dash := by
    cases rest with
    | nil => simp
    | cons next others => rwa [List.getLast?_cons_cons] at last
  fun_induction connect before items with
  | case1 token => exact absurd rfl (opened token rfl)
  | case2 => simp
  | case3 rest ih =>
      refine ih (later last) ?_
      rintro token _ rfl
      simp at last
  | case4 => simp
  | case5 before words rest ih =>
      rw [Ne, map_eq_error_iff]
      exact ih (later last) (by simp)
  | case6 before word rest token stands ih =>
      refine ih (later last) ?_
      rintro token _ rfl
      simp at stands
  | case7 before word rest stands ih =>
      rw [Ne, map_eq_error_iff]
      exact ih (later last) (by simp)

theorem phraseWords_ne_connectiveLast (inside : List Char) :
    phraseWords inside ≠ .error .connectiveLast := by
  unfold phraseWords
  dsimp only
  split <;> simp

/-- The scanner knows no connectives. -/
theorem scan_ne_connectiveLast (text : List Char) : scan text ≠ .error .connectiveLast := by
  fun_induction scan text with
  | case7 tail quote after cut ends e read =>
      rintro same
      cases same
      exact phraseWords_ne_connectiveLast _ read
  | _ => simp_all [map_eq_error_iff]

/-- **The grammar of queries.** -/
theorem tokenize_grammar :
    (∀ query tokens, tokenize query = .ok tokens ↔
      ∃ chunks, Spaced Chunk.Written chunks query.toList ∧ DashesFollow chunks ∧
        tokens = tokensOf chunks) ∧
    (∀ front gap other back : String, IsGap gap.toList → IsGap other.toList →
      tokenize (front ++ gap ++ back) = tokenize (front ++ other ++ back)) ∧
    ∀ query, tokenize query ≠ .error .connectiveLast := by
  refine ⟨?_, ?_, ?_⟩
  · intro query tokens
    rw [tokenize_eq_ok_iff]
    constructor
    · rintro ⟨items, scanned, connected⟩
      obtain ⟨chunks, spaced, rfl⟩ := exists_chunks_of_scan scanned (isChain_of_connect connected)
      exact ⟨chunks, spaced, connect_start_chunks_iff.1 connected⟩
    · rintro ⟨chunks, spaced, read⟩
      exact ⟨_, scan_of_spaced spaced, connect_start_chunks_iff.2 read⟩
  · intro front gap other back isGap isOther
    have same := scan_regap isGap isOther front.toList back.toList
    unfold tokenize
    simp only [String.toList_append, List.append_assoc, same]
  · intro query refused
    unfold tokenize at refused
    cases scanned : scan query.toList with
    | error e =>
        rw [scanned] at refused
        cases refused
        exact scan_ne_connectiveLast _ scanned
    | ok items =>
        rw [scanned] at refused
        exact connect_ne_connectiveLast (getLast?_of_scan scanned) (by simp) refused

theorem tokenize_grammar_widened :
    IsGap (" " : String).toList ∧ IsGap ("\t\u3000" : String).toList ∧
      tokenize ("cat or" ++ " " ++ "\"big dog\" -or not") =
        tokenize ("cat or" ++ "\t\u3000" ++ "\"big dog\" -or not") := by
  have one : IsGap (" " : String).toList := ⟨by decide, List.all_eq_true.1 rfl⟩
  have two : IsGap ("\t\u3000" : String).toList := ⟨by decide, List.all_eq_true.1 rfl⟩
  exact ⟨one, two, tokenize_grammar.2.1 _ _ _ _ one two⟩

/-- A dash makes an operand of the word behind it, and so does the end of the query. -/
example : tokenize "cat or \"big dog\" -or not" =
    .ok [.term "cat", .or, .phrase ["big", "dog"], .not, .term "or", .and, .term "not"] := by
  cbv

end Concordance.Query
