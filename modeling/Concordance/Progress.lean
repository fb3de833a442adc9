/-
# Concordance.Progress -- completion counters

Whatever takes time reports how many of its parts are done, out of how many, and
whether that total may still grow.  Counters are 32-bit words, as the answers of
a node carry them.  `Parts.sum` adds the counters of several providers: the first
abort among them is the answer, and a sum that does not fit a word is a fault.
-/
import Concordance.Error

namespace Concordance

set_option autoImplicit false

/-- Completion counters. While `final` is false, `total` is an estimate. -/
structure Parts where
  done : UInt32
  total : UInt32
  final : Bool
  deriving DecidableEq, Repr

namespace Parts

/-- No counters yet. -/
def unknown : Parts := ⟨0, 0, false⟩

/-- One part, not done, and no more to come. -/
def one : Parts := ⟨0, 1, true⟩

/-- Nothing to do. -/
def nothing : Parts := ⟨0, 0, true⟩

/-- Whether the total is final and reached. -/
def isComplete (p : Parts) : Bool := p.final && p.total ≤ p.done

/-- Adds two words, unless the sum needs more than 32 bits. -/
def addWord (a b : UInt32) : Except Fault UInt32 :=
  if a.toNat + b.toNat < UInt32.size then .ok (a + b) else .error .counterOverflow

/-- Adds counters; a total is final only if both are. -/
def add (p q : Parts) : Except Fault Parts := do
  let done ← addWord p.done q.done
  let total ← addWord p.total q.total
  return ⟨done, total, p.final && q.final⟩

/-- Adds the counters of the providers to `acc`, one after another. -/
def sumFrom (acc : Parts) : List (Except Failure Parts) → Except Failure Parts
  | [] => .ok acc
  | .error e :: _ => .error e
  | .ok p :: rest =>
      match acc.add p with
      | .ok acc' => sumFrom acc' rest
      | .error f => .error (.fault f)

/-- The counters of several providers together. -/
def sum (providers : List (Except Failure Parts)) : Except Failure Parts := sumFrom nothing providers

theorem addWord_toNat {a b c : UInt32} (h : addWord a b = .ok c) : c.toNat = a.toNat + b.toNat := by
  simp only [addWord] at h
  split at h
  · rename_i fits
    cases h
    rw [UInt32.toNat_add]
    exact Nat.mod_eq_of_lt fits
  · cases h

end Parts

end Concordance
