/-
# Concordance.Text.Ranges -- character classes as ascending ranges

A character class is a list of ranges of code points, both ends included, in
ascending order and without overlap.  `covered` walks the list and stops at the
first range that starts beyond the character, so a class answers quickly for
small code points; `covered_iff` says that stopping early loses nothing.
-/

namespace Concordance.Text

set_option autoImplicit false

/-- Whether one of the ranges holds the code point `c`. -/
def covered : List (Nat × Nat) → Nat → Bool
  | [], _ => false
  | (lo, hi) :: rest, c => if c < lo then false else decide (c ≤ hi) || covered rest c

/-- Each range ends before the next one starts. -/
def Ascending (ranges : List (Nat × Nat)) : Prop :=
  ranges.Pairwise (fun a b => a.1 < b.1)

instance (ranges : List (Nat × Nat)) : Decidable (Ascending ranges) :=
  inferInstanceAs (Decidable (List.Pairwise _ _))

/-- An early stop is no loss: the class holds exactly what some range holds. -/
theorem covered_iff {ranges : List (Nat × Nat)} (ascending : Ascending ranges) (c : Nat) :
    covered ranges c = true ↔ ∃ r ∈ ranges, r.1 ≤ c ∧ c ≤ r.2 := by
  induction ranges with
  | nil => simp [covered]
  | cons r rest ih =>
      obtain ⟨lo, hi⟩ := r
      obtain ⟨head, tail⟩ := List.pairwise_cons.1 ascending
      simp only [covered]
      split
      · rename_i before
        simp only [Bool.false_eq_true, false_iff, not_exists, not_and]
        intro r member lower
        rcases List.mem_cons.1 member with rfl | inRest
        · simp only at lower
          omega
        · have := head r inRest
          simp only at this
          omega
      · rename_i notBefore
        simp only [Bool.or_eq_true, decide_eq_true_eq, ih tail, List.mem_cons, exists_eq_or_imp]
        constructor
        · rintro (h | h)
          · exact Or.inl ⟨by omega, h⟩
          · exact Or.inr h
        · rintro (h | h)
          · exact Or.inl h.2
          · exact Or.inr h

end Concordance.Text
