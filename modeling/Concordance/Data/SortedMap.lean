/-
# Concordance.Data.SortedMap -- finite maps listed in key order

A `SortedMap κ ν` is a list of pairs whose keys strictly increase.  The order is
part of what the library answers with (result sets, catalogs and registries are
all listed by key), so it is part of the type.  Because the representation is
unique, two maps that answer every `find?` alike are equal (`SortedMap.ext_find?`).

The main statements say what each operation does to `find?`: `find?_insert`,
`find?_erase`, `find?_map`, `find?_filter`.
-/

namespace Concordance.Data

set_option autoImplicit false

universe u v w

/-- Pairs in strictly increasing key order. -/
structure SortedMap (κ : Type u) (ν : Type v) [LT κ] where
  toList : List (κ × ν)
  sorted : toList.Pairwise (fun a b => a.1 < b.1)

namespace SortedMap

variable {κ : Type u} {ν : Type v} {μ : Type w}

/-! ## Lists of pairs -/

/-- The value filed under `k` in a list of pairs. -/
def find [DecidableEq κ] (k : κ) : List (κ × ν) → Option ν
  | [] => none
  | (k', v) :: rest => if k = k' then some v else find k rest

/-- Puts `v` under `k`, in order, replacing what was there. -/
def place [LT κ] [DecidableLT κ] [DecidableEq κ] (k : κ) (v : ν) : List (κ × ν) → List (κ × ν)
  | [] => [(k, v)]
  | (k', v') :: rest =>
      if k < k' then (k, v) :: (k', v') :: rest
      else if k = k' then (k, v) :: rest
      else (k', v') :: place k v rest

section Place

variable [LT κ] [DecidableLT κ] [DecidableEq κ]

theorem mem_place {k : κ} {v : ν} {l : List (κ × ν)} {p : κ × ν} (h : p ∈ place k v l) :
    p = (k, v) ∨ p ∈ l := by
  induction l with
  | nil => simpa [place] using h
  | cons q rest ih =>
      obtain ⟨k', v'⟩ := q
      simp only [place] at h
      split at h
      · simpa using h
      · split at h
        · rcases List.mem_cons.1 h with rfl | inRest
          · exact Or.inl rfl
          · exact Or.inr (List.mem_cons_of_mem _ inRest)
        · rcases List.mem_cons.1 h with rfl | inRest
          · exact Or.inr List.mem_cons_self
          · exact (ih inRest).imp_right (List.mem_cons_of_mem _)

theorem find_place_self (k : κ) (v : ν) (l : List (κ × ν)) : find k (place k v l) = some v := by
  induction l with
  | nil => simp [place, find]
  | cons q rest ih =>
      obtain ⟨k', v'⟩ := q
      simp only [place]
      split
      · simp [find]
      · split
        · simp [find]
        · rename_i different
          simp [find, different, ih]

theorem find_place_ne {k j : κ} (ne : j ≠ k) (v : ν) (l : List (κ × ν)) :
    find j (place k v l) = find j l := by
  induction l with
  | nil => simp [place, find, ne]
  | cons q rest ih =>
      obtain ⟨k', v'⟩ := q
      simp only [place]
      split
      · simp [find, ne]
      · split
        · rename_i same
          subst same
          simp [find, ne]
        · by_cases h : j = k' <;> simp [find, h, ih]

end Place

theorem find_filter [DecidableEq κ] (keep : κ → Bool) (k : κ) (l : List (κ × ν)) :
    find k (l.filter (fun p => keep p.1)) = if keep k then find k l else none := by
  induction l with
  | nil => simp [find]
  | cons q rest ih =>
      obtain ⟨k', v'⟩ := q
      by_cases kept : keep k' <;> by_cases same : k = k' <;> simp_all [find]

theorem find_mapValue [DecidableEq κ] (f : ν → μ) (k : κ) (l : List (κ × ν)) :
    find k (l.map (fun p => (p.1, f p.2))) = (find k l).map f := by
  induction l with
  | nil => simp [find]
  | cons q rest ih =>
      obtain ⟨k', v'⟩ := q
      by_cases same : k = k' <;> simp_all [find]

theorem mem_of_find [DecidableEq κ] {k : κ} {v : ν} {l : List (κ × ν)} (h : find k l = some v) :
    (k, v) ∈ l := by
  induction l with
  | nil => simp [find] at h
  | cons q rest ih =>
      obtain ⟨k', v'⟩ := q
      simp only [find] at h
      split at h
      · rename_i same
        cases h
        subst same
        exact List.mem_cons_self
      · exact List.mem_cons_of_mem _ (ih h)

/-! ## Operations -/

section Ops

variable [LT κ]

/-- The map with nothing in it. -/
def empty : SortedMap κ ν := ⟨[], List.Pairwise.nil⟩

instance [DecidableEq κ] [DecidableEq ν] : DecidableEq (SortedMap κ ν) := fun a b =>
  if h : a.toList = b.toList then isTrue (by cases a; cases b; cases h; rfl)
  else isFalse (fun e => h (e ▸ rfl))

instance : EmptyCollection (SortedMap κ ν) := ⟨empty⟩

instance : Inhabited (SortedMap κ ν) := ⟨empty⟩

/-- The value under `k`, if there is one. -/
def find? [DecidableEq κ] (m : SortedMap κ ν) (k : κ) : Option ν := find k m.toList

/-- Whether anything is filed under `k`. -/
def contains [DecidableEq κ] (m : SortedMap κ ν) (k : κ) : Bool := (m.find? k).isSome

/-- The keys, in increasing order. -/
def keys (m : SortedMap κ ν) : List κ := m.toList.map Prod.fst

/-- The values, in the order of their keys. -/
def values (m : SortedMap κ ν) : List ν := m.toList.map Prod.snd

/-- How many keys there are. -/
def size (m : SortedMap κ ν) : Nat := m.toList.length

/-- Whether there are no keys. -/
def isEmpty (m : SortedMap κ ν) : Bool := m.toList.isEmpty

/-- Changes every value and keeps the keys. -/
def map (f : ν → μ) (m : SortedMap κ ν) : SortedMap κ μ :=
  ⟨m.toList.map (fun p => (p.1, f p.2)), by
    rw [List.pairwise_map]; exact m.sorted⟩

/-- Keeps the pairs that pass. -/
def filter (keep : κ → ν → Bool) (m : SortedMap κ ν) : SortedMap κ ν :=
  ⟨m.toList.filter (fun p => keep p.1 p.2), m.sorted.filter _⟩

/-- Removes what is filed under `k`. -/
def erase [DecidableEq κ] (m : SortedMap κ ν) (k : κ) : SortedMap κ ν :=
  m.filter (fun j _ => decide (j ≠ k))

variable [LE κ] [DecidableLT κ] [DecidableEq κ] [Std.IsLinearOrder κ] [Std.LawfulOrderLT κ]

theorem place_sorted (k : κ) (v : ν) {l : List (κ × ν)}
    (h : l.Pairwise (fun a b => a.1 < b.1)) :
    (place k v l).Pairwise (fun a b => a.1 < b.1) := by
  induction l with
  | nil => simp [place]
  | cons q rest ih =>
      obtain ⟨k', v'⟩ := q
      have head := (List.pairwise_cons.1 h).1
      have tail := (List.pairwise_cons.1 h).2
      simp only [place]
      split
      · rename_i before
        refine List.pairwise_cons.2 ⟨?_, h⟩
        intro p member
        rcases List.mem_cons.1 member with rfl | inRest
        · exact before
        · exact Std.lt_trans before (head p inRest)
      · split
        · rename_i same
          subst same
          exact List.pairwise_cons.2 ⟨head, tail⟩
        · rename_i notBefore different
          refine List.pairwise_cons.2 ⟨?_, ih tail⟩
          intro p member
          rcases mem_place member with rfl | inRest
          · rcases Std.lt_trichotomy k k' with lt | eq | gt
            · exact absurd lt notBefore
            · exact absurd eq different
            · exact gt
          · exact head p inRest

/-- Files `v` under `k`, replacing what was there. -/
def insert (m : SortedMap κ ν) (k : κ) (v : ν) : SortedMap κ ν :=
  ⟨place k v m.toList, place_sorted k v m.sorted⟩

/-- Files the pairs one after another, so of two under one key the later stays. -/
def ofList (l : List (κ × ν)) : SortedMap κ ν :=
  l.foldl (fun m p => m.insert p.1 p.2) empty

/-! ## What each operation does to `find?` -/

omit [LE κ] [DecidableLT κ] [Std.IsLinearOrder κ] [Std.LawfulOrderLT κ] in
@[simp] theorem find?_empty (k : κ) : (empty : SortedMap κ ν).find? k = none := rfl

omit [LE κ] [DecidableLT κ] [Std.IsLinearOrder κ] [Std.LawfulOrderLT κ] in
theorem find?_of_isEmpty {m : SortedMap κ ν} (nothing : m.isEmpty = true) (k : κ) :
    m.find? k = none := by
  rw [find?, List.isEmpty_iff.1 nothing, find]

theorem find?_insert (m : SortedMap κ ν) (k j : κ) (v : ν) :
    (m.insert k v).find? j = if j = k then some v else m.find? j := by
  by_cases h : j = k
  · subst h
    simp [find?, insert, find_place_self]
  · simp [find?, insert, find_place_ne h, h]

omit [LE κ] [DecidableLT κ] [Std.IsLinearOrder κ] [Std.LawfulOrderLT κ] in
theorem find?_erase (m : SortedMap κ ν) (k j : κ) :
    (m.erase k).find? j = if j = k then none else m.find? j := by
  have := find_filter (fun i => decide (i ≠ k)) j m.toList
  simp only [find?, erase, filter]
  rw [this]
  by_cases h : j = k <;> simp [h]

omit [LE κ] [DecidableLT κ] [Std.IsLinearOrder κ] [Std.LawfulOrderLT κ] in
theorem find?_map (f : ν → μ) (m : SortedMap κ ν) (k : κ) :
    (m.map f).find? k = (m.find? k).map f :=
  find_mapValue f k m.toList

/-! ## Extensionality -/

omit [DecidableLT κ] [Std.IsLinearOrder κ] in
theorem find_eq_some_iff {l : List (κ × ν)} (h : l.Pairwise (fun a b => a.1 < b.1))
    {k : κ} {v : ν} : find k l = some v ↔ (k, v) ∈ l := by
  refine ⟨mem_of_find, fun member => ?_⟩
  induction l with
  | nil => simp at member
  | cons q rest ih =>
      obtain ⟨k', v'⟩ := q
      rcases List.mem_cons.1 member with same | inRest
      · cases same
        simp [find]
      · have lt : k' < k := (List.pairwise_cons.1 h).1 _ inRest
        have ne : k ≠ k' := fun e => Std.lt_irrefl (e ▸ lt)
        simpa [find, ne] using ih (List.pairwise_cons.1 h).2 inRest

omit [DecidableLT κ] [Std.IsLinearOrder κ] in
theorem find?_eq_some_iff (m : SortedMap κ ν) {k : κ} {v : ν} :
    m.find? k = some v ↔ (k, v) ∈ m.toList :=
  find_eq_some_iff m.sorted

omit [DecidableLT κ] [Std.IsLinearOrder κ] in
theorem find?_filter (keep : κ → ν → Bool) (m : SortedMap κ ν) (k : κ) :
    (m.filter keep).find? k = (m.find? k).filter (keep k) := by
  apply Option.ext
  intro v
  rw [find?_eq_some_iff, Option.filter_eq_some_iff, find?_eq_some_iff]
  exact List.mem_filter

omit [DecidableLT κ] in
theorem list_ext {l₁ l₂ : List (κ × ν)} (h₁ : l₁.Pairwise (fun a b => a.1 < b.1))
    (h₂ : l₂.Pairwise (fun a b => a.1 < b.1)) (same : ∀ k, find k l₁ = find k l₂) : l₁ = l₂ := by
  have members : ∀ p, p ∈ l₁ ↔ p ∈ l₂ := fun p => by
    rw [← find_eq_some_iff h₁ (k := p.1) (v := p.2), ← find_eq_some_iff h₂, same]
  clear same
  induction l₁ generalizing l₂ with
  | nil =>
      cases l₂ with
      | nil => rfl
      | cons q _ => exact absurd ((members q).2 List.mem_cons_self) (by simp)
  | cons p rest ih =>
      cases l₂ with
      | nil => exact absurd ((members p).1 List.mem_cons_self) (by simp)
      | cons q rest' =>
          have hp := List.pairwise_cons.1 h₁
          have hq := List.pairwise_cons.1 h₂
          have heads : p = q := by
            rcases List.mem_cons.1 ((members p).1 List.mem_cons_self) with e | inRest'
            · exact e
            · rcases List.mem_cons.1 ((members q).2 List.mem_cons_self) with e | inRest
              · exact e.symm
              · exact absurd (Std.lt_trans (hp.1 q inRest) (hq.1 p inRest')) Std.lt_irrefl
          subst heads
          have tails : rest = rest' := by
            refine ih hp.2 hq.2 fun r => ⟨fun member => ?_, fun member => ?_⟩
            · rcases List.mem_cons.1 ((members r).1 (List.mem_cons_of_mem _ member)) with e | inRest'
              · exact absurd (e ▸ hp.1 r member) Std.lt_irrefl
              · exact inRest'
            · rcases List.mem_cons.1 ((members r).2 (List.mem_cons_of_mem _ member)) with e | inRest
              · exact absurd (e ▸ hq.1 r member) Std.lt_irrefl
              · exact inRest
          rw [tails]

omit [DecidableLT κ] in
/-- **One map, one representation.**  Maps with the same lookups are equal. -/
theorem ext_find? {m₁ m₂ : SortedMap κ ν} (same : ∀ k, m₁.find? k = m₂.find? k) : m₁ = m₂ := by
  obtain ⟨l₁, h₁⟩ := m₁
  obtain ⟨l₂, h₂⟩ := m₂
  have : l₁ = l₂ := list_ext h₁ h₂ same
  subst this
  rfl

end Ops

end SortedMap

end Concordance.Data
