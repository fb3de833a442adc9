/-
# Concordance.Data.SortedSet -- finite sets listed in increasing order

A `SortedSet α` is a strictly increasing list, so a set has one representation:
two sets with the same members are equal (`SortedSet.ext_mem`).  Word offsets
inside a document are kept in such sets, and are always listed in order.

Each operation is described by its members: `mem_insert`, `mem_union`,
`mem_ofList`, `mem_filter`.
-/

namespace Concordance.Data

set_option autoImplicit false

universe u

/-- Members in strictly increasing order. -/
structure SortedSet (α : Type u) [LT α] where
  toList : List α
  sorted : toList.Pairwise (· < ·)

namespace SortedSet

variable {α : Type u}

/-- Adds `x` to an increasing list, unless it is there. -/
def place [LT α] [DecidableLT α] [DecidableEq α] (x : α) : List α → List α
  | [] => [x]
  | y :: rest =>
      if x < y then x :: y :: rest
      else if x = y then y :: rest
      else y :: place x rest

theorem mem_place [LT α] [DecidableLT α] [DecidableEq α] {x z : α} {l : List α} :
    z ∈ place x l ↔ z = x ∨ z ∈ l := by
  induction l with
  | nil => simp [place]
  | cons y rest ih =>
      simp only [place]
      split
      · simp
      · split
        · rename_i same
          subst same
          simp
        · simp only [List.mem_cons, ih]
          constructor
          · rintro (h | h | h)
            · exact Or.inr (Or.inl h)
            · exact Or.inl h
            · exact Or.inr (Or.inr h)
          · rintro (h | h | h)
            · exact Or.inr (Or.inl h)
            · exact Or.inl h
            · exact Or.inr (Or.inr h)

variable [LT α]

instance [DecidableEq α] : DecidableEq (SortedSet α) := fun a b =>
  if h : a.toList = b.toList then
    .isTrue (by cases a; cases b; cases h; rfl)
  else .isFalse (fun e => h (e ▸ rfl))

/-- The set with no members. -/
def empty : SortedSet α := ⟨[], List.Pairwise.nil⟩

instance : EmptyCollection (SortedSet α) := ⟨empty⟩

instance : Inhabited (SortedSet α) := ⟨empty⟩

instance : Membership α (SortedSet α) := ⟨fun s x => x ∈ s.toList⟩

/-- Whether `x` is a member. -/
def contains [DecidableEq α] (s : SortedSet α) (x : α) : Bool := decide (x ∈ s.toList)

/-- How many members there are. -/
def size (s : SortedSet α) : Nat := s.toList.length

/-- Whether there are no members. -/
def isEmpty (s : SortedSet α) : Bool := s.toList.isEmpty

/-- Keeps the members that pass. -/
def filter (keep : α → Bool) (s : SortedSet α) : SortedSet α :=
  ⟨s.toList.filter keep, s.sorted.filter _⟩

theorem mem_def {s : SortedSet α} {x : α} : x ∈ s ↔ x ∈ s.toList := Iff.rfl

@[simp] theorem not_mem_empty (x : α) : ¬ x ∈ (empty : SortedSet α) := by
  simp [mem_def, empty]

theorem contains_iff [DecidableEq α] {s : SortedSet α} {x : α} :
    s.contains x = true ↔ x ∈ s := by
  simp [contains, mem_def]

theorem mem_filter {keep : α → Bool} {s : SortedSet α} {x : α} :
    x ∈ s.filter keep ↔ x ∈ s ∧ keep x = true := by
  simp [filter, mem_def]

theorem isEmpty_iff {s : SortedSet α} : s.isEmpty = true ↔ ∀ x, ¬ x ∈ s := by
  rw [isEmpty, List.isEmpty_iff, List.eq_nil_iff_forall_not_mem]
  exact Iff.rfl

variable [LE α] [DecidableLT α] [DecidableEq α] [Std.IsLinearOrder α] [Std.LawfulOrderLT α]

theorem place_sorted (x : α) {l : List α} (h : l.Pairwise (· < ·)) :
    (place x l).Pairwise (· < ·) := by
  induction l with
  | nil => simp [place]
  | cons y rest ih =>
      have head := (List.pairwise_cons.1 h).1
      have tail := (List.pairwise_cons.1 h).2
      simp only [place]
      split
      · rename_i before
        refine List.pairwise_cons.2 ⟨fun z member => ?_, h⟩
        rcases List.mem_cons.1 member with rfl | inRest
        · exact before
        · exact Std.lt_trans before (head z inRest)
      · split
        · exact h
        · rename_i notBefore different
          refine List.pairwise_cons.2 ⟨fun z member => ?_, ih tail⟩
          rcases mem_place.1 member with rfl | inRest
          · rcases Std.lt_trichotomy z y with lt | eq | gt
            · exact absurd lt notBefore
            · exact absurd eq different
            · exact gt
          · exact head z inRest

/-- Adds a member. -/
def insert (s : SortedSet α) (x : α) : SortedSet α :=
  ⟨place x s.toList, place_sorted x s.sorted⟩

/-- The members of a list. -/
def ofList (l : List α) : SortedSet α := l.foldr (fun x s => s.insert x) empty

/-- The members of either set. -/
def union (s t : SortedSet α) : SortedSet α := s.toList.foldr (fun x r => r.insert x) t

theorem mem_insert {s : SortedSet α} {x z : α} : z ∈ s.insert x ↔ z = x ∨ z ∈ s :=
  mem_place

theorem mem_ofList {l : List α} {x : α} : x ∈ ofList l ↔ x ∈ l := by
  induction l with
  | nil => simp [ofList]
  | cons y rest ih =>
      simp only [ofList, List.foldr_cons, List.mem_cons] at ih ⊢
      rw [mem_insert, ih]

theorem mem_union {s t : SortedSet α} {x : α} : x ∈ s.union t ↔ x ∈ s ∨ x ∈ t := by
  obtain ⟨l, h⟩ := s
  simp only [union, mem_def]
  clear h
  induction l with
  | nil => simp
  | cons y rest ih =>
      simp only [List.foldr_cons, List.mem_cons, or_assoc]
      rw [← ih]
      exact mem_place

omit [DecidableLT α] [DecidableEq α] in
/-- **One set, one representation.**  Sets with the same members are equal. -/
theorem ext_mem {s t : SortedSet α} (same : ∀ x, x ∈ s ↔ x ∈ t) : s = t := by
  obtain ⟨l₁, h₁⟩ := s
  obtain ⟨l₂, h₂⟩ := t
  have members : ∀ x, x ∈ l₁ ↔ x ∈ l₂ := same
  have : l₁ = l₂ := by
    clear same
    induction l₁ generalizing l₂ with
    | nil =>
        cases l₂ with
        | nil => rfl
        | cons y _ => exact absurd ((members y).2 List.mem_cons_self) (by simp)
    | cons x rest ih =>
        cases l₂ with
        | nil => exact absurd ((members x).1 List.mem_cons_self) (by simp)
        | cons y rest' =>
            have hx := List.pairwise_cons.1 h₁
            have hy := List.pairwise_cons.1 h₂
            have heads : x = y := by
              rcases List.mem_cons.1 ((members x).1 List.mem_cons_self) with e | inRest'
              · exact e
              · rcases List.mem_cons.1 ((members y).2 List.mem_cons_self) with e | inRest
                · exact e.symm
                · exact absurd (Std.lt_trans (hx.1 y inRest) (hy.1 x inRest')) Std.lt_irrefl
            subst heads
            have tails : rest = rest' := by
              refine ih hx.2 rest' hy.2 fun z => ⟨fun member => ?_, fun member => ?_⟩
              · rcases List.mem_cons.1 ((members z).1 (List.mem_cons_of_mem _ member)) with e | m
                · exact absurd (e ▸ hx.1 z member) Std.lt_irrefl
                · exact m
              · rcases List.mem_cons.1 ((members z).2 (List.mem_cons_of_mem _ member)) with e | m
                · exact absurd (e ▸ hy.1 z member) Std.lt_irrefl
                · exact m
            rw [tails]
  subst this
  rfl

end SortedSet

end Concordance.Data
