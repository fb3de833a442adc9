/-
# Concordance.Lookup -- a question put to an index

A lookup is opened for a subject (a word, or the name of a document) and stays
open until whoever holds it completes it with a value or aborts it with a
reason.  Letting go of an open lookup aborts it.  Until then the holder may report
progress.

A resolved lookup never changes again (`Lookup.complete_of_resolved` and its
siblings), so readers may look as often as they like: `isDone`, `result`, `parts`
and `wait` are four views of one outcome.
-/
import Concordance.Progress

namespace Concordance

set_option autoImplicit false

universe u

/-- What became of a lookup. -/
inductive Outcome (α : Type u)
  | pending
  | complete (value : α)
  | aborted (reason : String)

/-- A question put to an index, with its progress and its outcome. -/
structure Lookup (α : Type u) where
  subject : String
  parts : Parts
  outcome : Outcome α

namespace Lookup

variable {α : Type u}

/-- The reason given when a holder lets go of an open lookup. -/
def droppedReason : String := "lookup dropped before completing"

/-! ## The holder's side -/

/-- A fresh lookup: one part, still open. -/
def fresh (subject : String) : Lookup α := ⟨subject, .one, .pending⟩

/-- Whether somebody still holds the lookup. -/
def isOpen (l : Lookup α) : Bool :=
  match l.outcome with
  | .pending => true
  | _ => false

/-- Publishes progress. -/
def report (l : Lookup α) (parts : Parts) : Lookup α :=
  if l.isOpen then { l with parts } else l

/-- Resolves the lookup with a value; the last total counts as reached. -/
def complete (l : Lookup α) (value : α) : Lookup α :=
  if l.isOpen then
    { l with parts := ⟨l.parts.total, l.parts.total, true⟩, outcome := .complete value }
  else l

/-- Resolves the lookup as failed. -/
def abort (l : Lookup α) (reason : String) : Lookup α :=
  if l.isOpen then { l with outcome := .aborted reason } else l

/-- Lets go of the lookup. -/
def drop (l : Lookup α) : Lookup α := l.abort droppedReason

/-- A lookup that was answered as soon as it was asked. -/
def answered (subject : String) : Except String α → Lookup α
  | .ok value => (fresh subject).complete value
  | .error reason => (fresh subject).abort reason

/-! ## The readers' side -/

/-- Whether the lookup has completed; its abort if it failed. -/
def isDone (l : Lookup α) : Except SearchError Bool :=
  match l.outcome with
  | .pending => .ok false
  | .complete _ => .ok true
  | .aborted reason => .error (.abort l.subject reason)

/-- The value, or `none` while the lookup is open. -/
def result (l : Lookup α) : Except SearchError (Option α) :=
  match l.outcome with
  | .pending => .ok none
  | .complete value => .ok (some value)
  | .aborted reason => .error (.abort l.subject reason)

/-- The counters, unless the lookup failed. -/
def progress (l : Lookup α) : Except SearchError Parts :=
  match l.outcome with
  | .aborted reason => .error (.abort l.subject reason)
  | _ => .ok l.parts

/-- What waiting would give now: `none` while the lookup is open. -/
def wait (l : Lookup α) : Option (Except SearchError Unit) :=
  match l.outcome with
  | .pending => none
  | .complete _ => some (.ok ())
  | .aborted reason => some (.error (.abort l.subject reason))

/-- The name of a lookup's state as it is shown. -/
def stateName (l : Lookup α) : String :=
  match l.outcome with
  | .pending => "pending"
  | .complete _ => "complete"
  | .aborted _ => "aborted"

/-! ## Nothing changes a resolved lookup -/

theorem report_of_resolved {l : Lookup α} (resolved : l.isOpen = false) (parts : Parts) :
    l.report parts = l := by simp [report, resolved]

theorem complete_of_resolved {l : Lookup α} (resolved : l.isOpen = false) (value : α) :
    l.complete value = l := by simp [complete, resolved]

theorem abort_of_resolved {l : Lookup α} (resolved : l.isOpen = false) (reason : String) :
    l.abort reason = l := by simp [abort, resolved]

theorem drop_of_resolved {l : Lookup α} (resolved : l.isOpen = false) : l.drop = l :=
  abort_of_resolved resolved _

@[simp] theorem isOpen_fresh (subject : String) : (fresh subject : Lookup α).isOpen = true := rfl

@[simp] theorem isOpen_complete (l : Lookup α) (value : α) : (l.complete value).isOpen = false := by
  cases h : l.isOpen
  · simp [complete, h]
  · simp only [complete, h, if_true]
    rfl

@[simp] theorem isOpen_abort (l : Lookup α) (reason : String) : (l.abort reason).isOpen = false := by
  cases h : l.isOpen
  · simp [abort, h]
  · simp only [abort, h, if_true]
    rfl

end Lookup

end Concordance
