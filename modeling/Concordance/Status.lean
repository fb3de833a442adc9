/-
# Concordance.Status -- the life of a search node

A node is busy while lookups below it are open, ready when all of them have
completed, combining from the moment its result is asked for, and done once it
has one.  `Status.rank` is the order in which a node passes through these, and it
never goes back.
-/

namespace Concordance

set_option autoImplicit false

/-- Where a node stands. -/
inductive Status
  | unstarted
  | busy
  | ready
  | combining
  | done
  deriving DecidableEq, Repr

namespace Status

/-- The place of a status in the life of a node. -/
def rank : Status → Nat
  | .unstarted => 0
  | .busy => 1
  | .ready => 2
  | .combining => 3
  | .done => 4

instance : LE Status := ⟨fun a b => a.rank ≤ b.rank⟩

instance : LT Status := ⟨fun a b => a.rank < b.rank⟩

instance (a b : Status) : Decidable (a ≤ b) := inferInstanceAs (Decidable (a.rank ≤ b.rank))

instance (a b : Status) : Decidable (a < b) := inferInstanceAs (Decidable (a.rank < b.rank))

/-- The status's name as it is shown. -/
def name : Status → String
  | .unstarted => "Unstarted"
  | .busy => "Busy"
  | .ready => "Ready"
  | .combining => "Combining"
  | .done => "Done"

/-- Every status once, in order. -/
def all : List Status := [.unstarted, .busy, .ready, .combining, .done]

/-- The status of that name. -/
def ofName? (s : String) : Option Status := all.find? (fun status => status.name = s)

theorem ofName?_name (status : Status) : ofName? status.name = some status := by
  cases status <;> decide

/-- The statuses in the order of a node's life. -/
def sort (statuses : List Status) : List Status :=
  statuses.mergeSort (fun a b => decide (a ≤ b))

end Status

end Concordance
