/-
# Concordance.Proofs.Refusals -- what is wrong with a query that is refused

Whatever is read takes turns: an operand, then a connective and another operand, as often
as there are connectives (`Alternates`).  The planner cuts such tokens apart in three ways,
and every way leaves tokens that take turns, fewer each time.  So none of its stages finds
an exclusion of nothing, operands side by side or no tokens at all, and the one thing left
to go wrong is a phrase of fewer than two words (`plan_settles`).
-/
import Concordance.Proofs.Subqueries

namespace Concordance

open Concordance.Query Concordance.Text

set_option autoImplicit false

namespace Query

/-! ## Taking turns -/

/-- Operands and connectives take turns, and an operand stands at either end. -/
structure Alternates (tokens : List Token) : Prop where
  odd : tokens.length % 2 = 1
  turns : ∀ i token, tokens[i]? = some token → (token.isOperand = true ↔ i % 2 = 0)

theorem Legible.alternates {tokens : List Token} (legible : Legible tokens) :
    Alternates tokens := by
  induction legible with
  | single operand =>
      refine ⟨rfl, fun i token found => ?_⟩
      cases i with
      | zero =>
          cases found
          simp [operand.isOperand_token]
      | succ i => cases found
  | join operand link joins _ _ ih =>
      constructor
      · have odd := ih.odd
        simp only [List.length_cons]
        omega
      · intro i token found
        match i with
        | 0 =>
            cases found
            simp [operand.isOperand_token]
        | 1 =>
            cases found
            simp [joins]
        | i + 2 =>
            rw [ih.turns i token found]
            omega

/-- Legible tokens without any connective are one operand. -/
theorem Legible.single_of_absent {tokens : List Token} (legible : Legible tokens)
    (absent : ∀ token ∈ tokens, token.isOperand = true) :
    ∃ operand : Operand, tokens = [operand.token] := by
  cases legible with
  | single operand => exact ⟨operand, rfl⟩
  | join operand link joins _ _ =>
      have isOperand := absent link (by simp)
      rw [joins] at isOperand
      cases isOperand

/-- The first exclusion in legible tokens has an operand behind it. -/
theorem Legible.exists_splitNot {tokens : List Token} (legible : Legible tokens)
    (negates : Token.not ∈ tokens) :
    ∃ before operand after, splitNot tokens = some (before, operand :: after) ∧
      operand.isOperand = true ∧ tokens = before ++ .not :: operand :: after := by
  cases found : splitNot tokens with
  | none => exact absurd negates (splitNot_eq_none.1 found)
  | some parts =>
      obtain ⟨before, behind⟩ := parts
      obtain ⟨rfl, _⟩ := splitNot_eq_some found
      have alternates := legible.alternates
      -- The exclusion stands at an odd place, so it is not the last token.
      have atNot := alternates.turns before.length .not (by simp)
      have odd := alternates.odd
      rw [List.length_append, List.length_cons] at odd
      simp only [Token.isOperand, Bool.false_eq_true, false_iff] at atNot
      cases behind with
      | nil =>
          rw [List.length_nil] at odd
          omega
      | cons operand after =>
          refine ⟨before, operand, after, rfl, ?_, rfl⟩
          refine (alternates.turns (before.length + 1) operand (by simp)).2 ?_
          omega

/-! ## How planning ends -/

/-- Planning some tokens ends with a plan if all phrases have two words or more, and otherwise with
what is wrong with one that has not. -/
inductive Settles (tokens : List Token) : Except ParseError Plan → Prop
  | planned (p : Plan) (long : ∀ words, .phrase words ∈ tokens → 2 ≤ words.length) :
      Settles tokens (.ok p)
  | short (words : List String) (member : .phrase words ∈ tokens) (few : words.length < 2) :
      Settles tokens (.error (.arity .phrase words.length))

variable {tokens : List Token}

theorem Settles.exists_plan_iff {ending : Except ParseError Plan}
    (settles : Settles tokens ending) :
    (∃ p, ending = .ok p) ↔ ∀ words, .phrase words ∈ tokens → 2 ≤ words.length := by
  cases settles with
  | planned p long => exact ⟨fun _ => long, fun _ => ⟨p, rfl⟩⟩
  | short words member few =>
      constructor
      · rintro ⟨p, impossible⟩
        cases impossible
      · intro long
        have enough := long words member
        omega

theorem Settles.short_of_error {e : ParseError} (settles : Settles tokens (.error e)) :
    ∃ words, .phrase words ∈ tokens ∧ words.length < 2 ∧ e = .arity .phrase words.length := by
  cases settles with
  | short words member few => exact ⟨words, member, few, rfl⟩

/-- What goes wrong with some of the tokens goes wrong with all of them. -/
theorem Settles.of_error {part : List Token} {e : ParseError} (settles : Settles part (.error e))
    (within : part ⊆ tokens) : Settles tokens (.error e) := by
  obtain ⟨words, member, few, rfl⟩ := settles.short_of_error
  exact .short words (within member) few

theorem Settles.long {p : Plan} (settles : Settles tokens (.ok p)) :
    ∀ words, .phrase words ∈ tokens → 2 ≤ words.length :=
  settles.exists_plan_iff.1 ⟨p, rfl⟩

theorem planOperand_settles (query : String) {operand : Token}
    (isOperand : operand.isOperand = true) : Settles [operand] (planOperand query [operand]) := by
  cases operand with
  | term word => exact .planned (.term word) (by simp)
  | phrase words =>
      by_cases long : 2 ≤ words.length
      · have planned : planOperand query [.phrase words] =
            .ok (.branch query .phrase (words.map .term)) :=
          planOperand_eq_ok_iff.2 (.inr ⟨words, rfl, long, rfl⟩)
        rw [planned]
        exact .planned _ (by simpa using long)
      · have refused : planOperand query [.phrase words] =
            .error (.arity .phrase words.length) := by
          simp [planOperand, Plan.build, Operation.accepts, long]
        rw [refused]
        exact .short words List.mem_cons_self (by omega)
  | and => cases isOperand
  | or => cases isOperand
  | not => cases isOperand

/-! ## Cutting tokens at a connective -/

/-- Tokens with a connective are cut there into two pieces or more. -/
theorem two_le_length_splitOn {connective : Token} (member : connective ∈ tokens) :
    2 ≤ (tokens.splitOn connective).length := by
  have whole : [connective].intercalate (tokens.splitOn connective) = tokens :=
    List.intercalate_splitOn connective
  match cut : tokens.splitOn connective with
  | [] => exact absurd cut (List.splitOn_ne_nil connective tokens)
  | [piece] =>
      rw [cut, List.intercalate_singleton] at whole
      have isPiece : piece ∈ tokens.splitOn connective := by
        rw [cut]
        exact List.mem_cons_self
      have uncut := (piece_of_mem_splitOn isPiece).1
      rw [whole] at uncut
      exact absurd member uncut
  | _ :: _ :: _ => simp

/-- **Cutting at a connective** goes wrong only if the plan of a piece does. -/
theorem settles_splitOn (query : String) {op : Operation} {connective : Token}
    (joins : connective.isOperand = false) (several : ∀ n, op.accepts n = decide (2 ≤ n))
    (member : connective ∈ tokens) {planPiece : List Token → Except ParseError Plan}
    (each : ∀ piece ∈ tokens.splitOn connective, Settles piece (planPiece piece)) :
    Settles tokens (do Plan.build query op (← (tokens.splitOn connective).mapM planPiece)) := by
  cases made : (tokens.splitOn connective).mapM planPiece with
  | error e =>
      obtain ⟨piece, isPiece, failed⟩ := exists_of_mapM_eq_error made
      have settles := each piece isPiece
      rw [failed] at settles
      exact settles.of_error (piece_of_mem_splitOn isPiece).2
  | ok children =>
      have related := mapM_eq_ok_iff.1 made
      have enough : 2 ≤ children.length := by
        rw [← related.length_eq]
        exact two_le_length_splitOn member
      have built : Plan.build query op children = .ok (.branch query op children) :=
        Plan.build_eq_ok_iff.2 ⟨(several _).trans (decide_eq_true enough), rfl⟩
      have bound : (Except.ok children >>= fun plans => Plan.build query op plans) =
          .ok (.branch query op children) := built
      rw [bound]
      refine .planned _ fun words inTokens => ?_
      have apart : (Token.phrase words == connective) = false := by
        rw [beq_eq_false_iff_ne]
        rintro rfl
        cases joins
      have somewhere : ∃ piece ∈ tokens.splitOnP (· == connective), Token.phrase words ∈ piece :=
        exists_piece_of_mem inTokens apart
      obtain ⟨piece, isPiece, inPiece⟩ := somewhere
      rw [← List.splitOn_eq_splitOnP] at isPiece
      obtain ⟨child, _, planned⟩ := exists_of_forall₂ related
        (Q := fun child => planPiece piece = .ok child)
        (fun _ _ planned (same : _ = piece) => same ▸ planned) ⟨piece, isPiece, rfl⟩
      have settles := each piece isPiece
      rw [planned] at settles
      exact settles.long words inPiece

/-! ## The stages -/

theorem planAlternatives_settles (query : String) (legible : Legible tokens)
    (noAnd : Token.and ∉ tokens) (noNot : Token.not ∉ tokens) :
    Settles tokens (planAlternatives query tokens) := by
  have single {query : String} {piece : List Token} (legible : Legible piece)
      (noOr : Token.or ∉ piece) (within : piece ⊆ tokens) :
      Settles piece (planOperand query piece) := by
    obtain ⟨operand, rfl⟩ := legible.single_of_absent fun token member => by
      cases token with
      | term word => rfl
      | phrase words => rfl
      | and => exact absurd (within member) noAnd
      | or => exact absurd member noOr
      | not => exact absurd (within member) noNot
    exact planOperand_settles query operand.isOperand_token
  by_cases splits : Token.or ∈ tokens
  · rw [planAlternatives, if_pos splits]
    refine settles_splitOn query rfl (fun _ => rfl) splits fun piece isPiece => ?_
    obtain ⟨noOr, within⟩ := piece_of_mem_splitOn isPiece
    exact single (legible.splitOn rfl piece isPiece) noOr within
  · rw [planAlternatives_of_no_or splits]
    exact single legible splits (List.Subset.refl _)

theorem planGroups_settles (query : String) (legible : Legible tokens)
    (noNot : Token.not ∉ tokens) : Settles tokens (planGroups query tokens) := by
  by_cases splits : Token.and ∈ tokens
  · rw [planGroups, if_pos splits]
    refine settles_splitOn query rfl (fun _ => rfl) splits fun piece isPiece => ?_
    obtain ⟨noAnd, within⟩ := piece_of_mem_splitOn isPiece
    exact planAlternatives_settles _ (legible.splitOn rfl piece isPiece) noAnd
      fun negates => noNot (within negates)
  · rw [planGroups_of_no_and splits]
    exact planAlternatives_settles query legible splits noNot

theorem plan_of_splitNot (query : String) {before after : List Token} {operand : Token}
    (found : splitNot tokens = some (before, operand :: after))
    (isOperand : operand.isOperand = true) :
    plan query tokens = (do
      let kept ← plan (render (before ++ after)) (before ++ after)
      let excluded ← planOperand (render [operand]) [operand]
      Plan.build query .difference [kept, excluded]) := by
  rw [plan]
  split
  · rename_i none
    rw [found] at none
    cases none
  · rename_i last
    rw [found] at last
    cases last
  · rename_i same
    rw [found] at same
    cases same
    rw [if_pos isOperand]

/-- Taking an exclusion out goes wrong only if the plan without it or the plan of its operand does. -/
theorem settles_excluding (query : String) {before after : List Token} {operand : Token}
    {kept excluded : Except ParseError Plan} (keptSettles : Settles (before ++ after) kept)
    (excludedSettles : Settles [operand] excluded) :
    Settles (before ++ .not :: operand :: after) (do
      let keptPlan ← kept
      let excludedPlan ← excluded
      Plan.build query .difference [keptPlan, excludedPlan]) := by
  cases keptSettles with
  | short words member few =>
      refine .short words ?_ few
      rcases List.mem_append.1 member with here | here <;> simp [here]
  | planned keptPlan keptLong =>
      cases excludedSettles with
      | short words member few =>
          refine .short words ?_ few
          simp [List.mem_singleton.1 member]
      | planned excludedPlan excludedLong =>
          refine .planned (.branch query .difference [keptPlan, excludedPlan]) ?_
          intro words member
          simp only [List.mem_append, List.mem_cons, reduceCtorEq, false_or] at member
          rcases member with early | same | later
          · exact keptLong words (List.mem_append_left _ early)
          · exact excludedLong words (List.mem_singleton.2 same)
          · exact keptLong words (List.mem_append_right _ later)

/-- **Planning ends with a plan, unless a phrase is too short.** -/
theorem plan_settles (query : String) (legible : Legible tokens) :
    Settles tokens (plan query tokens) := by
  -- Taking an exclusion out leaves fewer tokens to plan.
  induction count : tokens.length using Nat.strongRecOn generalizing query tokens with
  | ind size ih =>
      by_cases negates : Token.not ∈ tokens
      · obtain ⟨before, operand, after, found, isOperand, rfl⟩ := legible.exists_splitNot negates
        have shorter : (before ++ after).length < size := by
          rw [← count]
          simp only [List.length_append, List.length_cons]
          omega
        have kept := ih _ shorter (render (before ++ after)) legible.withoutNot rfl
        rw [plan_of_splitNot query found isOperand]
        exact settles_excluding query kept (planOperand_settles (render [operand]) isOperand)
      · rw [plan_of_no_not negates]
        exact planGroups_settles query legible negates

/-! ## Queries of blanks -/

/-- A query without any tokens is one of blanks. -/
theorem tokenize_eq_nil_iff {query : String} :
    tokenize query = .ok [] ↔ ∀ c ∈ query.toList, isBlank c = true := by
  rw [tokenize_eq_ok_iff]
  constructor
  · rintro ⟨items, scanned, connected⟩
    rw [eq_nil_of_connect connected] at scanned
    exact blank_of_scan_eq_nil scanned
  · intro blank
    refine ⟨[], ?_, rfl⟩
    have nothing := scan_gap blank []
    rwa [List.append_nil, scan] at nothing

end Query

/-! ## Queries that are not read -/

/-- Whether a query is refused for how it is written, before any planning. -/
def ParseError.isLexical : ParseError → Bool
  | .danglingDash | .unclosedQuote | .textAfterQuote | .textBeforeQuote | .phraseWord _
  | .termWord _ | .negationFirst | .connectiveLast => true
  | _ => false

namespace Query

theorem phraseWords_lexical {inside : List Char} {e : ParseError}
    (refused : phraseWords inside = .error e) : e.isLexical = true := by
  unfold phraseWords at refused
  dsimp only at refused
  split at refused
  · cases refused
    rfl
  · cases refused

theorem scan_lexical {text : List Char} {e : ParseError} (refused : scan text = .error e) :
    e.isLexical = true := by
  fun_induction scan text with
  | case1 => cases refused
  | case2 first rest blank ih => exact ih refused
  | case3 rest notBlank onward ih => exact ih (map_eq_error_iff.1 refused)
  | case7 rest quote after cut ends e' read =>
      cases refused
      exact phraseWords_lexical read
  | case8 rest quote after cut ends words read notBlank notDash ih =>
      exact ih (map_eq_error_iff.1 refused)
  | case10 first rest notBlank notDash notQuote word after ends isWord ih =>
      exact ih (map_eq_error_iff.1 refused)
  | case4 | case5 | case6 | case9 | case11 =>
      cases refused
      rfl

theorem connect_lexical {before : Before} {items : List Item} {e : ParseError}
    (refused : connect before items = .error e) : e.isLexical = true := by
  fun_induction connect before items with
  | case1 => cases refused; rfl
  | case2 => cases refused
  | case3 rest ih => exact ih refused
  | case4 => cases refused; rfl
  | case5 before words rest ih => exact ih (map_eq_error_iff.1 refused)
  | case6 before word rest token stands ih => exact ih refused
  | case7 before word rest stands ih => exact ih (map_eq_error_iff.1 refused)

/-- A query that is not read is refused for how it is written. -/
theorem tokenize_lexical {query : String} {e : ParseError} (refused : tokenize query = .error e) :
    e.isLexical = true := by
  unfold tokenize at refused
  cases scanned : scan query.toList with
  | error e' =>
      rw [scanned] at refused
      cases refused
      exact scan_lexical scanned
  | ok items =>
      rw [scanned] at refused
      exact connect_lexical refused

end Query

namespace Search

/-! ## Searches that are refused -/

/-- **A search whose query is refused** has no query or no index, or cannot be planned. -/
theorem parse_error_cases {catalog : Index.Catalog} {query : String} {locators : List String}
    {e : ParseError} (refused : (openSearch catalog query locators).search = .error (.parse e)) :
    (e = .blank ∧ query = "") ∨ (e = .noIndex ∧ locators = []) ∨ planQuery query = .error e := by
  rcases openSearch_cases catalog query locators with
    ⟨nothing, same⟩ | ⟨none, same⟩ | ⟨_, _, _, same⟩ | ⟨_, _, e', _, unplanned, same⟩ |
    ⟨_, _, _, _, _, _, same⟩ <;> rw [same] at refused <;> cases refused
  · exact Or.inl ⟨rfl, nothing⟩
  · exact Or.inr (Or.inl ⟨rfl, none⟩)
  · exact Or.inr (Or.inr unplanned)

/-- **Why a query cannot be planned**: it is not read, or nothing is read in it, or a phrase in it
has fewer than two words. -/
theorem planQuery_error_cases {query : String} {e : ParseError}
    (refused : planQuery query = .error e) :
    e.isLexical = true ∨ (e = .emptySubQuery ∧ ∀ c ∈ query.toList, isBlank c = true) ∨
      ∃ tokens words, tokenize query = .ok tokens ∧ .phrase words ∈ tokens ∧ words.length < 2 ∧
        e = .arity .phrase words.length := by
  unfold planQuery at refused
  cases lexed : tokenize query with
  | error e' =>
      rw [lexed] at refused
      cases refused
      exact Or.inl (tokenize_lexical lexed)
  | ok tokens =>
      rw [lexed] at refused
      have unplanned : plan query tokens = .error e := refused
      rcases legible_of_tokenize lexed with rfl | legible
      · rw [plan_of_no_not List.not_mem_nil, planGroups_of_no_and List.not_mem_nil,
          planAlternatives_of_no_or List.not_mem_nil] at unplanned
        cases unplanned
        exact Or.inr (Or.inl ⟨rfl, tokenize_eq_nil_iff.1 lexed⟩)
      · have settles := plan_settles query legible
        rw [unplanned] at settles
        obtain ⟨words, member, few, rfl⟩ := settles.short_of_error
        exact Or.inr (Or.inr ⟨tokens, words, rfl, member, few, rfl⟩)

/-- **Planning fails for short phrases only.**  A query in which nothing is read is one of blanks.
In any other that is read, operands and connectives take turns, and it can be planned exactly when
all of its phrases, whether excluded or not, have two words or more; a refusal names the number of
words in one that has not.  No search is refused for an exclusion of nothing or for operands side by
side, and none for a part without tokens unless its query is blank. -/
theorem tokenize_plannable :
    (∀ query, tokenize query = .ok [] ↔ ∀ c ∈ query.toList, isBlank c = true) ∧
    (∀ query tokens, tokenize query = .ok tokens → tokens ≠ [] → Alternates tokens ∧
      ((∃ p, plan query tokens = .ok p) ↔ ∀ words, .phrase words ∈ tokens → 2 ≤ words.length) ∧
      ∀ e, plan query tokens = .error e → ∃ words, .phrase words ∈ tokens ∧ words.length < 2 ∧
        e = .arity .phrase words.length) ∧
    ∀ catalog query locators e, (openSearch catalog query locators).search = .error (.parse e) →
      (∀ named, e ≠ .nothingToNegate named) ∧ (∀ named, e ≠ .unsplittable named) ∧
        (e = .emptySubQuery → ∀ c ∈ query.toList, isBlank c = true) := by
  refine ⟨fun query => tokenize_eq_nil_iff, ?_, ?_⟩
  · intro query tokens lexed some
    have legible := (legible_of_tokenize lexed).resolve_left some
    have settles := plan_settles query legible
    refine ⟨legible.alternates, settles.exists_plan_iff, fun e unplanned => ?_⟩
    rw [unplanned] at settles
    exact settles.short_of_error
  · intro catalog query locators e refused
    rcases parse_error_cases refused with ⟨rfl, _⟩ | ⟨rfl, _⟩ | unplanned
    · simp
    · simp
    · rcases planQuery_error_cases unplanned with lexical | ⟨rfl, blank⟩ | ⟨_, _, _, _, _, rfl⟩
      · have apart {other : ParseError} (planner : other.isLexical = false) : e ≠ other := by
          rintro rfl
          rw [planner] at lexical
          cases lexical
        exact ⟨fun _ => apart rfl, fun _ => apart rfl, fun same => absurd same (apart rfl)⟩
      · exact ⟨by simp, by simp, fun _ => blank⟩
      · simp

/-- A query that excludes a phrase of one word. -/
def bigDogNotCat : String := "\"big dog\" -\"cat\""

theorem tokenize_bigDogNotCat :
    tokenize bigDogNotCat = .ok [.phrase ["big", "dog"], .not, .phrase ["cat"]] := by
  cbv

theorem tokenize_catNotBigDog :
    tokenize "cat -\"big dog\"" = .ok [.term "cat", .not, .phrase ["big", "dog"]] := by
  cbv

theorem openSearch_bigDogNotCat :
    (openSearch notesAlone bigDogNotCat ["notes"]).search = .error (.parse (.arity .phrase 1)) := by
  have resolved : notesAlone.resolveAll ["notes"] = (notesAlone, .ok [.held "notes"]) := rfl
  have unplanned : planQuery bigDogNotCat = .error (.arity .phrase 1) := by
    rw [planQuery, tokenize_bigDogNotCat]
    cbv
  rw [openSearch, if_neg (by decide), if_neg (by decide), resolved, unplanned]

theorem tokenize_plannable_bigDogNotCat :
    tokenize bigDogNotCat = .ok [.phrase ["big", "dog"], .not, .phrase ["cat"]] ∧
      Alternates [.phrase ["big", "dog"], .not, .phrase ["cat"]] ∧
      (¬ ∃ p, plan bigDogNotCat [.phrase ["big", "dog"], .not, .phrase ["cat"]] = .ok p) ∧
      (∃ p, plan "cat -\"big dog\"" [.term "cat", .not, .phrase ["big", "dog"]] = .ok p) ∧
      (openSearch notesAlone bigDogNotCat ["notes"]).search = .error (.parse (.arity .phrase 1)) ∧
      ∀ named, ParseError.arity .phrase 1 ≠ .nothingToNegate named := by
  obtain ⟨_, plans, refuses⟩ := tokenize_plannable
  obtain ⟨turns, short, _⟩ := plans bigDogNotCat _ tokenize_bigDogNotCat (by simp)
  obtain ⟨_, long, _⟩ := plans _ _ tokenize_catNotBigDog (by simp)
  refine ⟨tokenize_bigDogNotCat, turns, ?_, long.2 (by simp), openSearch_bigDogNotCat,
    (refuses _ _ _ _ openSearch_bigDogNotCat).1⟩
  rw [short]
  simp

end Search

end Concordance
