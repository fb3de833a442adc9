/-
# Concordance.Proofs.Planning -- what a plan is made of

The planner takes a query apart in four stages: the first exclusion, the groups,
the alternatives, and the single operand.  For each stage an `iff` says which
plans it gives (`plan_eq_ok_iff` and its siblings), so nothing after this module
opens the planner again.

Plans come in layers, since the planner works from the outside in: every stage stays
within a layer of its own, and what an operation joins lies further in
(`plan_within`).  Plans in layers can be planted (`Plan.Within.sound`).

A plan's operands are its words and phrases, from the left (`Plan.operands`).  They
are the operands of the query, in the order of `askingOrder`: `plan_asks`.
-/
import Concordance.Proofs.Reading
import Mathlib.Data.List.Forall2

namespace Concordance

set_option autoImplicit false

/-- How far out an operation stands in a search, words innermost. -/
def Operation.layer : Operation → Nat
  | .term => 0
  | .phrase => 1
  | .union => 2
  | .intersection => 3
  | .difference => 4
  | .merge => 5

namespace Query

universe u v

/-! ## Lists in step -/

/-- What follows from being related to an item of one list holds of every item of the other. -/
theorem forall_of_forall₂ {α : Type u} {β : Type v} {R : α → β → Prop} {P : β → Prop}
    {items : List α} {others : List β} (related : List.Forall₂ R items others)
    (step : ∀ a ∈ items, ∀ b, R a b → P b) : ∀ b ∈ others, P b := by
  induction related with
  | nil =>
      intro b member
      cases member
  | cons first _ ih =>
      intro b member
      rcases List.mem_cons.1 member with rfl | later
      · exact step _ List.mem_cons_self _ first
      · exact ih (fun a isItem => step a (List.mem_cons_of_mem _ isItem)) b later

/-- What follows from being related to a chosen item holds of a chosen item of the other list. -/
theorem exists_of_forall₂ {α : Type u} {β : Type v} {R : α → β → Prop} {P : α → Prop} {Q : β → Prop}
    {items : List α} {others : List β} (related : List.Forall₂ R items others)
    (step : ∀ a b, R a b → P a → Q b) (some : ∃ a ∈ items, P a) : ∃ b ∈ others, Q b := by
  induction related with
  | nil =>
      obtain ⟨a, member, _⟩ := some
      cases member
  | cons first _ ih =>
      obtain ⟨a, member, holds⟩ := some
      rcases List.mem_cons.1 member with rfl | later
      · exact ⟨_, List.mem_cons_self, step _ _ first holds⟩
      · obtain ⟨b, isOther, follows⟩ := ih ⟨a, later, holds⟩
        exact ⟨b, List.mem_cons_of_mem _ isOther, follows⟩

theorem forall_iff_of_forall₂ {α : Type u} {β : Type v} {R : α → β → Prop} {P : α → Prop}
    {Q : β → Prop} {items : List α} {others : List β} (related : List.Forall₂ R items others)
    (step : ∀ a b, R a b → (P a ↔ Q b)) : (∀ a ∈ items, P a) ↔ ∀ b ∈ others, Q b :=
  ⟨fun all => forall_of_forall₂ related fun a member b holds => (step a b holds).1 (all a member),
    fun all => forall_of_forall₂ related.flip fun b member a holds =>
      (step a b holds).2 (all b member)⟩

theorem exists_iff_of_forall₂ {α : Type u} {β : Type v} {R : α → β → Prop} {P : α → Prop}
    {Q : β → Prop} {items : List α} {others : List β} (related : List.Forall₂ R items others)
    (step : ∀ a b, R a b → (P a ↔ Q b)) : (∃ a ∈ items, P a) ↔ ∃ b ∈ others, Q b :=
  ⟨exists_of_forall₂ related fun a b holds => (step a b holds).1,
    exists_of_forall₂ related.flip fun b a holds => (step a b holds).2⟩

/-- If every item is related to something, a list of such things is in step with the items. -/
theorem exists_forall₂ {α : Type u} {β : Type v} {R : α → β → Prop} {items : List α}
    (each : ∀ a ∈ items, ∃ b, R a b) : ∃ others, List.Forall₂ R items others := by
  induction items with
  | nil => exact ⟨[], .nil⟩
  | cons a rest ih =>
      obtain ⟨b, related⟩ := each a List.mem_cons_self
      obtain ⟨others, more⟩ := ih fun c member => each c (List.mem_cons_of_mem _ member)
      exact ⟨b :: others, .cons related more⟩

/-- Lists that are in step, cut at the same length, are in step before and behind the cut. -/
theorem forall₂_append_split {α : Type u} {β : Type v} {R : α → β → Prop} {front back : List α}
    {first last : List β} (related : List.Forall₂ R (front ++ back) (first ++ last))
    (same : front.length = first.length) :
    List.Forall₂ R front first ∧ List.Forall₂ R back last := by
  have start := List.forall₂_take_append _ _ _ related
  have rest := List.forall₂_drop_append _ _ _ related
  rw [List.take_left' same] at start
  rw [List.drop_left' same] at rest
  exact ⟨start, rest⟩

/-! ## Collecting results -/

/-- Collecting succeeds exactly when every item gives a result. -/
theorem mapM_eq_ok_iff {ε α β : Type} {f : α → Except ε β} {items : List α} {results : List β} :
    items.mapM f = .ok results ↔ List.Forall₂ (fun a b => f a = .ok b) items results := by
  induction items generalizing results with
  | nil =>
      rw [List.mapM_nil, List.forall₂_nil_left_iff]
      constructor
      · intro same
        cases same
        rfl
      · rintro rfl
        rfl
  | cons a rest ih =>
      rw [List.mapM_cons, List.forall₂_cons_left_iff]
      simp only [← ih]
      cases f a with
      | error e => simp [bind, Except.bind]
      | ok b =>
          cases rest.mapM f with
          | error e => simp [bind, Except.bind]
          | ok more =>
              simp only [bind, Except.bind, pure, Except.pure, Except.ok.injEq]
              constructor
              · rintro rfl
                exact ⟨b, more, rfl, rfl, rfl⟩
              · rintro ⟨_, _, rfl, rfl, rfl⟩
                rfl

/-- Collecting fails with what one of the items fails with. -/
theorem exists_of_mapM_eq_error {ε α β : Type} {f : α → Except ε β} {items : List α} {e : ε}
    (failed : items.mapM f = .error e) : ∃ a ∈ items, f a = .error e := by
  induction items with
  | nil => cases failed
  | cons a rest ih =>
      rw [List.mapM_cons] at failed
      cases first : f a with
      | error e' =>
          rw [first] at failed
          cases failed
          exact ⟨a, List.mem_cons_self, first⟩
      | ok b =>
          cases more : rest.mapM f with
          | error e' =>
              rw [first, more] at failed
              cases failed
              obtain ⟨c, member, same⟩ := ih more
              exact ⟨c, List.mem_cons_of_mem _ member, same⟩
          | ok others =>
              rw [first, more] at failed
              cases failed

/-! ## The stages of planning -/

theorem Plan.build_eq_ok_iff {query : String} {op : Operation} {children : List Plan} {p : Plan} :
    Plan.build query op children = .ok p ↔
      op.accepts children.length = true ∧ p = .branch query op children := by
  unfold Plan.build
  split
  · rename_i accepted
    simp [accepted, eq_comm]
  · rename_i refused
    simp [refused]

theorem planOperand_eq_ok_iff {query : String} {tokens : List Token} {p : Plan} :
    planOperand query tokens = .ok p ↔
      (∃ word, tokens = [.term word] ∧ p = .term word) ∨
        ∃ words, tokens = [.phrase words] ∧ 2 ≤ words.length ∧
          p = .branch query .phrase (words.map .term) := by
  unfold planOperand
  split
  · simp
  · simp [eq_comm]
  · rw [Plan.build_eq_ok_iff]
    simp [Operation.accepts, eq_comm]
  · rename_i notEmpty notTerm notPhrase
    constructor
    · intro impossible
      cases impossible
    · rintro (⟨word, same, _⟩ | ⟨words, same, _⟩)
      · exact absurd same (notTerm word)
      · exact absurd same (notPhrase words)

theorem planAlternatives_eq_ok_iff {query : String} {tokens : List Token} {p : Plan} :
    planAlternatives query tokens = .ok p ↔
      (Token.or ∉ tokens ∧ planOperand query tokens = .ok p) ∨
        (Token.or ∈ tokens ∧ ∃ children,
          List.Forall₂ (fun piece child => planOperand (render piece) piece = .ok child)
            (tokens.splitOn .or) children ∧
          2 ≤ children.length ∧ p = .branch query .union children) := by
  unfold planAlternatives
  split
  · rename_i splits
    simp only [splits, not_true_eq_false, false_and, true_and, false_or, ← mapM_eq_ok_iff]
    cases (tokens.splitOn .or).mapM (fun piece => planOperand (render piece) piece) with
    | error e => simp [bind, Except.bind]
    | ok children => simp [bind, Except.bind, Plan.build_eq_ok_iff, Operation.accepts]
  · rename_i whole
    simp [whole]

theorem planGroups_eq_ok_iff {query : String} {tokens : List Token} {p : Plan} :
    planGroups query tokens = .ok p ↔
      (Token.and ∉ tokens ∧ planAlternatives query tokens = .ok p) ∨
        (Token.and ∈ tokens ∧ ∃ children,
          List.Forall₂ (fun piece child => planAlternatives (render piece) piece = .ok child)
            (tokens.splitOn .and) children ∧
          2 ≤ children.length ∧ p = .branch query .intersection children) := by
  unfold planGroups
  split
  · rename_i splits
    simp only [splits, not_true_eq_false, false_and, true_and, false_or, ← mapM_eq_ok_iff]
    cases (tokens.splitOn .and).mapM (fun piece => planAlternatives (render piece) piece) with
    | error e => simp [bind, Except.bind]
    | ok children => simp [bind, Except.bind, Plan.build_eq_ok_iff, Operation.accepts]
  · rename_i whole
    simp [whole]

/-- A plan without exclusions comes from the groups; any other takes the first `not` out of the
query with the operand behind it. -/
theorem plan_eq_ok_cases {query : String} {tokens : List Token} {p : Plan}
    (planned : plan query tokens = .ok p) :
    (Token.not ∉ tokens ∧ planGroups query tokens = .ok p) ∨
      ∃ before operand after keptPlan excludedPlan,
        tokens = before ++ .not :: operand :: after ∧ Token.not ∉ before ∧
        operand.isOperand = true ∧
        plan (render (before ++ after)) (before ++ after) = .ok keptPlan ∧
        planOperand (render [operand]) [operand] = .ok excludedPlan ∧
        p = .branch query .difference [keptPlan, excludedPlan] := by
  unfold plan at planned
  split at planned
  · rename_i absent
    exact Or.inl ⟨splitNot_eq_none.1 absent, planned⟩
  · cases planned
  · rename_i before operand after found
    split at planned
    · rename_i isOperand
      obtain ⟨same, absent⟩ := splitNot_eq_some found
      cases rest : plan (render (before ++ after)) (before ++ after) with
      | error e =>
          rw [rest] at planned
          cases planned
      | ok keptPlan =>
          cases single : planOperand (render [operand]) [operand] with
          | error e =>
              rw [rest, single] at planned
              cases planned
          | ok excludedPlan =>
              rw [rest, single] at planned
              have whole : Plan.build query .difference [keptPlan, excludedPlan] = .ok p := planned
              obtain ⟨_, built⟩ := Plan.build_eq_ok_iff.1 whole
              exact Or.inr ⟨before, operand, after, keptPlan, excludedPlan, same, absent,
                isOperand, rest, single, built⟩
    · cases planned

/-! ## Plans as trees -/

/-- What holds of every word, and of a branch if it holds of its children, holds of every plan. -/
@[elab_as_elim, induction_eliminator]
theorem Plan.induction {motive : Plan → Prop} (term : ∀ word, motive (.term word))
    (branch : ∀ query op children, (∀ child ∈ children, motive child) →
      motive (.branch query op children)) : ∀ p, motive p
  | .term word => term word
  | .branch _ _ children => branch _ _ children fun child _ => Plan.induction term branch child

/-! ## Plans in layers -/

/-- How a plan derives its result. -/
def Plan.operation : Plan → Operation
  | .term _ => .term
  | .branch _ op _ => op

/-- The plan goes no further out than a layer. What it joins lies further in, and so does what it
excludes; what it excludes that from may be an exclusion itself. -/
inductive Plan.Within : Nat → Plan → Prop
  | term {layer : Nat} (word : String) : Within layer (.term word)
  | joined {layer inside : Nat} (query : String) {op : Operation} {children : List Plan}
      (outward : op.layer = inside + 1) (joins : inside < 3) (reached : inside < layer)
      (several : 2 ≤ children.length) (below : ∀ child ∈ children, child.Within inside) :
      Within layer (.branch query op children)
  | excluding {layer : Nat} (query : String) {kept excluded : Plan} (reached : 3 < layer)
      (first : kept.Within 4) (second : excluded.Within 1) :
      Within layer (.branch query .difference [kept, excluded])

theorem Plan.Within.mono {inner outer : Nat} {p : Plan} (within : p.Within inner)
    (further : inner ≤ outer) : p.Within outer := by
  cases within with
  | term word => exact .term word
  | joined query outward joins reached several below =>
      exact .joined query outward joins (Nat.lt_of_lt_of_le reached further) several below
  | excluding query reached first second =>
      exact .excluding query (Nat.lt_of_lt_of_le reached further) first second

theorem Plan.Within.layer_le {layer : Nat} {p : Plan} (within : p.Within layer) :
    p.operation.layer ≤ layer := by
  cases within with
  | term word => exact Nat.zero_le layer
  | joined query outward joins reached several below =>
      rw [Plan.operation, outward]
      exact reached
  | excluding query reached first second => exact reached

theorem planOperand_within {query : String} {tokens : List Token} {p : Plan}
    (planned : planOperand query tokens = .ok p) : p.Within 1 := by
  rcases planOperand_eq_ok_iff.1 planned with ⟨word, _, rfl⟩ | ⟨words, _, several, rfl⟩
  · exact .term word
  · refine .joined query rfl (by decide) (by decide) (by simpa using several) ?_
    intro child member
    obtain ⟨word, _, rfl⟩ := List.mem_map.1 member
    exact .term word

theorem planAlternatives_within {query : String} {tokens : List Token} {p : Plan}
    (planned : planAlternatives query tokens = .ok p) : p.Within 2 := by
  rcases planAlternatives_eq_ok_iff.1 planned with ⟨_, single⟩ | ⟨_, children, each, several, rfl⟩
  · exact (planOperand_within single).mono (by decide)
  · exact .joined query rfl (by decide) (by decide) several
      (forall_of_forall₂ each fun _ _ _ => planOperand_within)

theorem planGroups_within {query : String} {tokens : List Token} {p : Plan}
    (planned : planGroups query tokens = .ok p) : p.Within 3 := by
  rcases planGroups_eq_ok_iff.1 planned with ⟨_, single⟩ | ⟨_, children, each, several, rfl⟩
  · exact (planAlternatives_within single).mono (by decide)
  · exact .joined query rfl (by decide) (by decide) several
      (forall_of_forall₂ each fun _ _ _ => planAlternatives_within)

/-- **Induction on a plan's exclusions.**  What holds of plans without exclusions, and of one with
an exclusion if it holds of the plan without it, holds of every plan. -/
theorem plan_ok_induction {motive : List Token → Plan → Prop}
    (grouped : ∀ {query : String} {tokens : List Token} {p : Plan}, Token.not ∉ tokens →
      planGroups query tokens = .ok p → motive tokens p)
    (excluding : ∀ {query : String} {before after : List Token} {operand : Token}
      {kept excluded : Plan}, Token.not ∉ before →
      plan (render (before ++ after)) (before ++ after) = .ok kept → motive (before ++ after) kept →
      planOperand (render [operand]) [operand] = .ok excluded →
      motive (before ++ .not :: operand :: after) (.branch query .difference [kept, excluded]))
    {query : String} {tokens : List Token} {p : Plan} (planned : plan query tokens = .ok p) :
    motive tokens p := by
  -- Taking an exclusion out leaves fewer tokens to plan.
  induction count : tokens.length using Nat.strongRecOn generalizing query tokens p with
  | ind size ih =>
      rcases plan_eq_ok_cases planned with
        ⟨noNot, whole⟩ | ⟨before, operand, after, kept, excluded, rfl, noNot, _, rest, single, rfl⟩
      · exact grouped noNot whole
      · have shorter : (before ++ after).length < size := by
          rw [← count]
          simp only [List.length_append, List.length_cons]
          omega
        exact excluding noNot rest (ih _ shorter rest rfl) single

/-- **Plans come in layers.** -/
theorem plan_within {query : String} {tokens : List Token} {p : Plan}
    (planned : plan query tokens = .ok p) : p.Within 4 := by
  refine plan_ok_induction (motive := fun _ p => p.Within 4) ?_ ?_ planned
  · intro query tokens p _ whole
    exact (planGroups_within whole).mono (by decide)
  · intro query before after operand kept excluded _ _ keptWithin single
    exact .excluding query (by decide) keptWithin (planOperand_within single)

/-! ## Plans that can be planted -/

/-- Every operation of the plan takes as many children as it has, and none is a word's. -/
inductive Plan.Sound : Plan → Prop
  | term (word : String) : Sound (.term word)
  | branch (query : String) (op : Operation) (children : List Plan) (notTerm : op ≠ .term)
      (accepted : op.accepts children.length = true)
      (below : ∀ child ∈ children, child.Sound) : Sound (.branch query op children)

/-- What comes in layers can be planted. -/
theorem Plan.Within.sound {layer : Nat} {p : Plan} (within : p.Within layer) : p.Sound := by
  induction within with
  | term word => exact .term word
  | @joined layer inside query op children outward joins reached several below ih =>
      have notTerm : op ≠ .term := by
        rintro rfl
        cases outward
      have accepted : op.accepts children.length = true := by
        cases op with
        | difference =>
            cases outward
            exact absurd joins (Nat.lt_irrefl _)
        | term => exact absurd rfl notTerm
        | phrase | union | intersection | merge => simpa [Operation.accepts] using several
      exact .branch query op children notTerm accepted ih
  | excluding query reached first second firstSound secondSound =>
      exact .branch query _ _ (by simp) rfl (by simp [firstSound, secondSound])

/-- Whatever the planner accepts can be planted. -/
theorem plan_sound {query : String} {tokens : List Token} {p : Plan}
    (planned : plan query tokens = .ok p) : p.Sound :=
  (plan_within planned).sound

/-! ## The operands of a plan -/

/-- The plan looks up that operand: a word, or the words of a phrase. -/
inductive Plan.Asks : Plan → Token → Prop
  | term (word : String) : Asks (.term word) (.term word)
  | phrase (query : String) (words : List String) :
      Asks (.branch query .phrase (words.map .term)) (.phrase words)

mutual

/-- The words and phrases of a plan, from the left. -/
def Plan.operands : Plan → List Plan
  | .term word => [.term word]
  | .branch query op children =>
      if op = .phrase then [.branch query op children] else operandsOf children

/-- The words and phrases of some plans, from the left. -/
def Plan.operandsOf : List Plan → List Plan
  | [] => []
  | p :: rest => p.operands ++ operandsOf rest

end

theorem Plan.operandsOf_eq_flatMap (plans : List Plan) :
    Plan.operandsOf plans = plans.flatMap Plan.operands := by
  induction plans with
  | nil => rfl
  | cons p rest ih => simp [Plan.operandsOf, ih]

theorem Plan.operands_branch {query : String} {op : Operation} (notPhrase : op ≠ .phrase)
    (children : List Plan) :
    (Plan.branch query op children).operands = children.flatMap Plan.operands := by
  simp [Plan.operands, notPhrase, Plan.operandsOf_eq_flatMap]

/-- The operands of a plan that can be planted can be planted. -/
theorem Plan.Sound.operands {p : Plan} (sound : p.Sound) : ∀ o ∈ p.operands, o.Sound := by
  induction sound with
  | term word =>
      intro o member
      rw [List.mem_singleton.1 member]
      exact .term word
  | branch query op children notTerm accepted below ih =>
      intro o member
      by_cases isPhrase : op = .phrase
      · subst isPhrase
        rw [Plan.operands, if_pos rfl, List.mem_singleton] at member
        rw [member]
        exact .branch query _ children notTerm accepted below
      · rw [Plan.operands_branch isPhrase, List.mem_flatMap] at member
        obtain ⟨child, isChild, member⟩ := member
        exact ih child isChild o member

mutual

/-- The words that a plan looks up, from the left. -/
def Plan.words : Plan → List String
  | .term word => [word]
  | .branch _ _ children => wordsOf children

/-- The words that some plans look up, from the left. -/
def Plan.wordsOf : List Plan → List String
  | [] => []
  | p :: rest => p.words ++ wordsOf rest

end

theorem Plan.words_branch (query : String) (op : Operation) (children : List Plan) :
    (Plan.branch query op children).words = children.flatMap Plan.words := by
  rw [Plan.words]
  induction children with
  | nil => rfl
  | cons p rest ih => rw [Plan.wordsOf, List.flatMap_cons, ih]

/-- The words of a plan are those of its operands. -/
theorem Plan.words_eq_flatMap_operands (p : Plan) : p.words = p.operands.flatMap Plan.words := by
  induction p with
  | term word => rfl
  | branch query op children ih =>
      by_cases isPhrase : op = .phrase
      · rw [Plan.operands, if_pos isPhrase, List.flatMap_singleton]
      · rw [Plan.operands_branch isPhrase, List.flatMap_assoc, Plan.words_branch]
        exact List.flatMap_congr ih

theorem Plan.Asks.words {p : Plan} {t : Token} (asks : p.Asks t) : p.words = t.words := by
  cases asks with
  | term word => rfl
  | phrase query words =>
      rw [Plan.words_branch, List.flatMap_map]
      exact List.flatMap_singleton' words

section Items

variable {α : Type u} (tok : α → Token)

/-- Cutting items at a connective cuts their tokens. -/
theorem map_splitOn (connective : Token) (items : List α) :
    (items.map tok).splitOn connective =
      (items.splitOnP (fun a => decide (tok a = connective))).map (List.map tok) := by
  induction items with
  | nil => simp [List.splitOn_eq_splitOnP]
  | cons a rest ih =>
      rw [List.map_cons, List.splitOn_cons_eq_if_modifyHead, List.splitOnP_cons_eq_if_modifyHead,
        ih]
      by_cases same : tok a = connective
      · simp [same]
      · obtain ⟨piece, pieces, cut⟩ := List.exists_cons_of_ne_nil
          (List.splitOnP_ne_nil (fun a => decide (tok a = connective)) rest)
        simp [same, cut]

/-- The operands of a plan look up those items, one by one. -/
def AsksInTurn (p : Plan) (items : List α) : Prop :=
  List.Forall₂ (fun operand a => operand.Asks (tok a)) p.operands items

theorem planOperand_operands {query : String} (items : List α) {p : Plan}
    (planned : planOperand query (items.map tok) = .ok p) :
    p.operands = [p] ∧ ∃ a, items = [a] ∧ (tok a).isOperand = true ∧ p.Asks (tok a) := by
  rcases planOperand_eq_ok_iff.1 planned with ⟨word, single, rfl⟩ | ⟨words, single, _, rfl⟩
  · obtain ⟨a, rfl, same⟩ := List.map_eq_singleton_iff.1 single
    exact ⟨rfl, a, rfl, by rw [same]; rfl, by rw [same]; exact .term word⟩
  · obtain ⟨a, rfl, same⟩ := List.map_eq_singleton_iff.1 single
    exact ⟨by simp [Plan.operands], a, rfl, by rw [same]; rfl, by rw [same]; exact .phrase _ words⟩

theorem planOperand_asks {query : String} {items : List α} {p : Plan}
    (planned : planOperand query (items.map tok) = .ok p) :
    AsksInTurn tok p (operands tok items) := by
  obtain ⟨alone, a, rfl, isOperand, asks⟩ := planOperand_operands tok _ planned
  have only : operands tok [a] = [a] := List.filter_eq_self.2 (by simpa using isOperand)
  rw [AsksInTurn, alone, only]
  exact .cons asks .nil

/-- A branch over the pieces of a query asks for what its pieces ask for. -/
theorem branch_asks {query : String} {op : Operation} (notPhrase : op ≠ .phrase)
    {connective : Token} (joins : connective.isOperand = false) {items : List α}
    {children : List Plan} {f : List Token → Except ParseError Plan}
    (each : List.Forall₂ (fun piece child => f piece = .ok child)
      ((items.map tok).splitOn connective) children)
    (asks : ∀ piece p, f (piece.map tok) = .ok p → AsksInTurn tok p (operands tok piece)) :
    AsksInTurn tok (.branch query op children) (operands tok items) := by
  rw [map_splitOn, List.forall₂_map_left_iff] at each
  rw [AsksInTurn, Plan.operands_branch notPhrase, operands_splitOnP tok joins]
  exact List.rel_flatMap (each.flip.imp fun p piece planned => asks piece p planned)
    fun _ _ asked => asked

theorem planAlternatives_asks {query : String} {items : List α} {p : Plan}
    (planned : planAlternatives query (items.map tok) = .ok p) :
    AsksInTurn tok p (operands tok items) := by
  rcases planAlternatives_eq_ok_iff.1 planned with ⟨_, single⟩ | ⟨_, children, each, _, rfl⟩
  · exact planOperand_asks tok single
  · exact branch_asks tok (by simp) rfl each fun _ _ => planOperand_asks tok

theorem planGroups_asks {query : String} {items : List α} {p : Plan}
    (planned : planGroups query (items.map tok) = .ok p) :
    AsksInTurn tok p (operands tok items) := by
  rcases planGroups_eq_ok_iff.1 planned with ⟨_, single⟩ | ⟨_, children, each, _, rfl⟩
  · exact planAlternatives_asks tok single
  · exact branch_asks tok (by simp) rfl each fun _ _ => planAlternatives_asks tok

/-- Items whose tokens have a first `not` have it where their tokens do. -/
theorem map_eq_first_not {items : List α} {before after : List Token} {operand : Token}
    (same : items.map tok = before ++ .not :: operand :: after) (absent : Token.not ∉ before) :
    ∃ front sign a back, items = front ++ sign :: a :: back ∧ tok sign = .not ∧ tok a = operand ∧
      front.map tok = before ∧ back.map tok = after ∧ ∀ b ∈ front, tok b ≠ .not := by
  obtain ⟨front, others, rfl, rfl, tail⟩ := List.map_eq_append_iff.1 same
  obtain ⟨sign, more, rfl, isNot, tail⟩ := List.map_eq_cons_iff.1 tail
  obtain ⟨a, back, rfl, isOperand, tail⟩ := List.map_eq_cons_iff.1 tail
  exact ⟨front, sign, a, back, rfl, isNot, isOperand, rfl, tail,
    fun b member isNot => absent (List.mem_map.2 ⟨b, member, isNot⟩)⟩

theorem forall_ne_not_of_notMem {items : List α} (absent : Token.not ∉ items.map tok) :
    ∀ a ∈ items, tok a ≠ .not :=
  fun a member isNot => absent (List.mem_map.2 ⟨a, member, isNot⟩)

/-- **The operands of a plan are those of its query.**  From the left they are the operands that the
query keeps, in order, and behind them those that it excludes, the last one first. -/
theorem plan_asks {query : String} {items : List α} {p : Plan}
    (planned : plan query (items.map tok) = .ok p) :
    AsksInTurn tok p (askingOrder tok items) := by
  refine plan_ok_induction (motive := fun tokens p => ∀ items : List α, items.map tok = tokens →
    AsksInTurn tok p (askingOrder tok items)) ?_ ?_ planned items rfl
  · rintro query _ p absent grouped items rfl
    rw [askingOrder_of_no_not tok (forall_ne_not_of_notMem tok absent)]
    exact planGroups_asks tok grouped
  · intro query before after operand kept excluded absent _ keptAsks single items same
    obtain ⟨front, sign, a, back, rfl, isNot, rfl, rfl, rfl, keeps⟩ :=
      map_eq_first_not tok same absent
    have frontAsks := keptAsks (front ++ back) List.map_append
    obtain ⟨alone, b, one, _, excludedAsks⟩ := planOperand_operands tok [a] single
    cases one
    rw [AsksInTurn, Plan.operands_branch (by simp), askingOrder_first_not tok keeps isNot,
      List.flatMap_cons, List.flatMap_cons, List.flatMap_nil, List.append_nil, alone]
    exact List.rel_append frontAsks (.cons excludedAsks .nil)

end Items

/-- A plan looks up the words of its query in the order of asking. -/
theorem plan_words {query : String} {tokens : List Token} {p : Plan}
    (planned : plan query tokens = .ok p) :
    p.words = (askingOrder id tokens).flatMap Token.words := by
  have whole : plan query (tokens.map id) = .ok p := by
    rw [List.map_id]
    exact planned
  have same := List.rel_flatMap (plan_asks id whole) fun operand token asks =>
    List.forall₂_eq_eq_eq ▸ Plan.Asks.words asks
  rw [p.words_eq_flatMap_operands]
  exact List.forall₂_eq_eq_eq ▸ same

end Query

end Concordance
