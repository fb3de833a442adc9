/-
# Concordance.Proofs.Reading -- a query read flat

A plan is a tree, but what a query asks for can be read off its tokens without
one.  Strike out every `not` with the operand behind it: the struck operands are
`excluded`, and what is left is `kept`.  Cut what is left at every `and` into
`groups`.  A document is wanted when some operand of every group holds for it and
no excluded operand does (`Wanted`).

The same reading is used for tokens alone and for tokens that carry something (a
place, a result), so it is stated for items of any kind that have a token.
-/
import Concordance.Query.Plan

namespace Concordance.Query

set_option autoImplicit false

universe u

section Items

variable {α : Type u} (tok : α → Token)

/-- What is left when every `not` is struck out with the item behind it. -/
def kept : List α → List α
  | [] => []
  | [a] => if tok a = .not then [] else [a]
  | a :: b :: rest => if tok a = .not then kept rest else a :: kept (b :: rest)

/-- The items that are struck out behind a `not`. -/
def excluded : List α → List α
  | [] => []
  | [_] => []
  | a :: b :: rest => if tok a = .not then b :: excluded rest else excluded (b :: rest)

/-- The operands among the items. -/
def operands (items : List α) : List α := items.filter (fun a => (tok a).isOperand)

/-- The operands in the order in which a search asks for them: those that are kept, and then the
excluded ones from the last to the first. -/
def askingOrder (items : List α) : List α := operands tok (kept tok items) ++ (excluded tok items).reverse

/-- The groups between which `and` stands, without exclusions. -/
def groups (items : List α) : List (List α) := (kept tok items).splitOnP (fun a => decide (tok a = .and))

/-- Some operand of the group holds. -/
def SomeHolds (holds : α → Prop) (group : List α) : Prop :=
  ∃ a ∈ group, (tok a).isOperand = true ∧ holds a

/-- Some operand of every group holds, and no excluded operand does. -/
def Wanted (holds : α → Prop) (items : List α) : Prop :=
  (∀ group ∈ groups tok items, SomeHolds tok holds group) ∧ ∀ a ∈ excluded tok items, ¬ holds a

/-! ## Striking out -/

theorem kept_of_no_not {items : List α} (none : ∀ a ∈ items, tok a ≠ .not) :
    kept tok items = items := by
  induction items with
  | nil => rfl
  | cons a rest ih =>
      have here := none a List.mem_cons_self
      have later := ih (fun b member => none b (List.mem_cons_of_mem _ member))
      cases rest with
      | nil => simp [kept, here]
      | cons b rest => simp [kept, here, later]

theorem excluded_of_no_not {items : List α} (none : ∀ a ∈ items, tok a ≠ .not) :
    excluded tok items = [] := by
  induction items with
  | nil => rfl
  | cons a rest ih =>
      have here := none a List.mem_cons_self
      have later := ih (fun b member => none b (List.mem_cons_of_mem _ member))
      cases rest with
      | nil => rfl
      | cons b rest => simp [excluded, here, later]

theorem kept_cons {a : α} (keeps : tok a ≠ .not) (rest : List α) :
    kept tok (a :: rest) = a :: kept tok rest := by
  cases rest <;> simp [kept, keeps]

theorem excluded_cons {a : α} (keeps : tok a ≠ .not) (rest : List α) :
    excluded tok (a :: rest) = excluded tok rest := by
  cases rest <;> simp [excluded, keeps]

/-- The first exclusion of a query is struck out of it. -/
theorem kept_first_not {before : List α} (none : ∀ a ∈ before, tok a ≠ .not) {sign : α}
    (isNot : tok sign = .not) (operand : α) (after : List α) :
    kept tok (before ++ sign :: operand :: after) = kept tok (before ++ after) := by
  induction before with
  | nil => simp [kept, isNot]
  | cons a rest ih =>
      have here := none a List.mem_cons_self
      rw [List.cons_append, List.cons_append, kept_cons tok here, kept_cons tok here,
        ih (fun b member => none b (List.mem_cons_of_mem _ member))]

/-- The operand behind the first `not` is the first that is excluded. -/
theorem excluded_first_not {before : List α} (none : ∀ a ∈ before, tok a ≠ .not) {sign : α}
    (isNot : tok sign = .not) (operand : α) (after : List α) :
    excluded tok (before ++ sign :: operand :: after) =
      operand :: excluded tok (before ++ after) := by
  induction before with
  | nil => simp [excluded, isNot]
  | cons a rest ih =>
      have here := none a List.mem_cons_self
      rw [List.cons_append, List.cons_append, excluded_cons tok here, excluded_cons tok here,
        ih (fun b member => none b (List.mem_cons_of_mem _ member))]

theorem askingOrder_of_no_not {items : List α} (none : ∀ a ∈ items, tok a ≠ .not) :
    askingOrder tok items = operands tok items := by
  simp [askingOrder, kept_of_no_not tok none, excluded_of_no_not tok none]

/-- The operand behind the first `not` is asked for last. -/
theorem askingOrder_first_not {before : List α} (none : ∀ a ∈ before, tok a ≠ .not) {sign : α}
    (isNot : tok sign = .not) (operand : α) (after : List α) :
    askingOrder tok (before ++ sign :: operand :: after) =
      askingOrder tok (before ++ after) ++ [operand] := by
  rw [askingOrder, askingOrder, kept_first_not tok none isNot, excluded_first_not tok none isNot,
    List.reverse_cons, List.append_assoc]

theorem groups_of_no_not {items : List α} (none : ∀ a ∈ items, tok a ≠ .not) :
    groups tok items = items.splitOnP (fun a => decide (tok a = .and)) := by
  rw [groups, kept_of_no_not tok none]

theorem groups_first_not {before : List α} (none : ∀ a ∈ before, tok a ≠ .not) {sign : α}
    (isNot : tok sign = .not) (operand : α) (after : List α) :
    groups tok (before ++ sign :: operand :: after) = groups tok (before ++ after) := by
  rw [groups, groups, kept_first_not tok none isNot]

/-- There is always a group, be it one without items. -/
theorem groups_ne_nil (items : List α) : groups tok items ≠ [] := List.splitOnP_ne_nil _ _

/-- Without exclusions only the groups matter. -/
theorem wanted_of_no_not {items : List α} (none : ∀ a ∈ items, tok a ≠ .not) (holds : α → Prop) :
    Wanted tok holds items ↔
      ∀ group ∈ items.splitOnP (fun a => decide (tok a = .and)), SomeHolds tok holds group := by
  simp [Wanted, groups_of_no_not tok none, excluded_of_no_not tok none]

/-- An exclusion wants what the rest wants and its operand does not. -/
theorem wanted_first_not {before : List α} (none : ∀ a ∈ before, tok a ≠ .not) {sign : α}
    (isNot : tok sign = .not) (operand : α) (after : List α) (holds : α → Prop) :
    Wanted tok holds (before ++ sign :: operand :: after) ↔
      Wanted tok holds (before ++ after) ∧ ¬ holds operand := by
  rw [Wanted, Wanted, groups_first_not tok none isNot, excluded_first_not tok none isNot,
    List.forall_mem_cons, and_assoc]
  exact and_congr_right fun _ => and_comm

/-! ## Cutting at a connective -/

theorem operands_append (items others : List α) :
    operands tok (items ++ others) = operands tok items ++ operands tok others :=
  List.filter_append ..

/-- No operand is lost when items are cut at a connective. -/
theorem operands_splitOnP {connective : Token} (joins : connective.isOperand = false)
    (items : List α) :
    operands tok items =
      (items.splitOnP (fun a => decide (tok a = connective))).flatMap (operands tok) := by
  induction items with
  | nil => simp [operands]
  | cons a rest ih =>
      obtain ⟨piece, pieces, cut⟩ :=
        List.exists_cons_of_ne_nil (List.splitOnP_ne_nil (fun a => decide (tok a = connective)) rest)
      rw [List.splitOnP_cons_eq_if_modifyHead]
      by_cases same : tok a = connective
      · rw [if_pos (decide_eq_true same), List.flatMap_cons, ← ih]
        simp [operands, same, joins]
      · rw [if_neg (by simpa using same), cut]
        rw [cut] at ih
        rw [show a :: rest = [a] ++ rest from rfl, operands_append, ih]
        by_cases isOperand : (tok a).isOperand <;> simp [operands, isOperand]

theorem someHolds_iff {holds : α → Prop} {items : List α} :
    SomeHolds tok holds items ↔ ∃ a ∈ operands tok items, holds a := by
  simp only [SomeHolds, operands, List.mem_filter, and_assoc]

/-- Some operand holds in items cut at a connective exactly when one holds in some piece. -/
theorem someHolds_splitOnP (connective : Token) (joins : connective.isOperand = false)
    (holds : α → Prop) (items : List α) :
    SomeHolds tok holds items ↔
      ∃ piece ∈ items.splitOnP (fun a => decide (tok a = connective)), SomeHolds tok holds piece := by
  simp only [someHolds_iff, operands_splitOnP tok joins items, List.mem_flatMap]
  constructor
  · rintro ⟨a, ⟨piece, isPiece, member⟩, held⟩
    exact ⟨piece, isPiece, a, member, held⟩
  · rintro ⟨piece, isPiece, a, member, held⟩
    exact ⟨a, ⟨piece, isPiece, member⟩, held⟩

end Items

end Concordance.Query
