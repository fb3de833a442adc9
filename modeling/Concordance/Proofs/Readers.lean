/-
# Concordance.Proofs.Readers -- one holder and many readers

A lookup has one holder, who reports on it and ends it once, by completing it, by giving it
up or by letting go; and it has any number of readers, each made from an earlier one at any
time.  A holder who completes a lookup or gives it up lets go of it as well, which must not
abort what has just ended.

What readers see is a function of the history alone: of how the lookup ended first
(`ending?`) and of what was reported last before (`known`).  `ended` is the lookup
that both call for, and every run leaves that one (`Shared.run_lookup`), so all readers see
the same, and once the lookup has ended they see the same for ever (`known_append`).
-/
import Concordance.Lookup

namespace Concordance.Lookup

set_option autoImplicit false

universe u

/-! ## A lookup that is shared -/

/-- What is done with a shared lookup: by its holder, or by a reader who makes another one. -/
inductive Move (α : Type u)
  | report (parts : Parts)
  | complete (value : α)
  | abort (reason : String)
  | letGo
  | share (reader : Nat)

/-- A lookup with somebody who may hold it and those who read it.  A reader knows what the lookup is
about. -/
structure Shared (α : Type u) where
  lookup : Lookup α
  held : Bool
  readers : List String

namespace Shared

variable {α : Type u}

/-- A lookup as it is handed out: held, and with one reader. -/
def opened (subject : String) : Shared α := ⟨.fresh subject, true, [subject]⟩

/-- What a reader sees. -/
def seen (s : Shared α) (reader : String) : Lookup α := { s.lookup with subject := reader }

/-- The lookup when its holder has done the last to it, and so lets go. -/
def release (s : Shared α) (lookup : Lookup α) : Shared α :=
  { s with lookup := lookup.drop, held := false }

/-- The lookup after a move. Nobody moves who is not there. -/
def after (s : Shared α) : Move α → Shared α
  | .report parts => if s.held then { s with lookup := s.lookup.report parts } else s
  | .complete value => if s.held then s.release (s.lookup.complete value) else s
  | .abort reason => if s.held then s.release (s.lookup.abort reason) else s
  | .letGo => if s.held then s.release s.lookup else s
  | .share reader => { s with readers := s.readers ++ s.readers[reader]?.toList }

/-- The lookup after some moves. -/
def run (s : Shared α) (moves : List (Move α)) : Shared α := moves.foldl after s

end Shared

/-! ## What the moves come to -/

namespace Move

variable {α : Type u}

/-- How a move ends a lookup, if it does: with a value, or with the reason of an abort. -/
def ending? : Move α → Option (Except String α)
  | .complete value => some (.ok value)
  | .abort reason => some (.error reason)
  | .letGo => some (.error Lookup.droppedReason)
  | .report _ | .share _ => none

end Move

variable {α : Type u}

/-- How moves end a lookup: as the first that ends it does. -/
def ending? (moves : List (Move α)) : Option (Except String α) := moves.findSome? Move.ending?

/-- What is known of the progress of a lookup: what was reported last before it ended. -/
def known (start : Parts) : List (Move α) → Parts
  | [] => start
  | .report parts :: rest => known parts rest
  | .share _ :: rest => known start rest
  | .complete _ :: _ | .abort _ :: _ | .letGo :: _ => start

/-- The lookup that ended in some way after its progress was known. -/
def ended (subject : String) (parts : Parts) : Option (Except String α) → Lookup α
  | none => ⟨subject, parts, .pending⟩
  | some (.ok value) => ⟨subject, ⟨parts.total, parts.total, true⟩, .complete value⟩
  | some (.error reason) => ⟨subject, parts, .aborted reason⟩

/-- A reader who knows the subject sees the lookup as it is. -/
theorem subject_ended (subject : String) (parts : Parts)
    (ending : Option (Except String α)) :
    { ended subject parts ending with subject } = ended subject parts ending := by
  rcases ending with _ | (_ | _) <;> rfl

theorem ending?_append {earlier : List (Move α)} {outcome : Except String α}
    (ended : ending? earlier = some outcome) (more : List (Move α)) :
    ending? (earlier ++ more) = some outcome := by
  rw [ending?, List.findSome?_append, show earlier.findSome? Move.ending? = some outcome from ended]
  rfl

/-- Nothing is known after the end. -/
theorem known_append {start : Parts} {earlier : List (Move α)} (ended : ending? earlier ≠ none)
    (more : List (Move α)) : known start (earlier ++ more) = known start earlier := by
  induction earlier generalizing start with
  | nil => exact absurd rfl ended
  | cons move rest ih =>
      cases move with
      | report parts => exact ih ended
      | share reader => exact ih ended
      | complete value => rfl
      | abort reason => rfl
      | letGo => rfl

namespace Shared

/-! ## What every run leaves -/

/-- Nobody moves a lookup that was let go. -/
theorem run_of_released {s : Shared α} (released : s.held = false) (moves : List (Move α)) :
    (s.run moves).lookup = s.lookup ∧ (s.run moves).held = false := by
  induction moves generalizing s with
  | nil => exact ⟨rfl, released⟩
  | cons move rest ih =>
      have still : (s.after move).lookup = s.lookup ∧ (s.after move).held = false := by
        cases move <;> simp [after, released]
      obtain ⟨same, later⟩ := ih still.2
      exact ⟨same.trans still.1, later⟩

section Held

variable {s : Shared α} {subject : String} {parts : Parts}
variable (waits : s.lookup = .ended subject parts none) (held : s.held = true)
include waits held

/-- The move that ends a lookup leaves what it calls for: that the holder lets go then changes
nothing. -/
theorem after_of_ending {move : Move α} {outcome : Except String α}
    (ends : move.ending? = some outcome) :
    (s.after move).lookup = .ended subject parts (some outcome) ∧
      (s.after move).held = false := by
  cases move with
  | report parts => cases ends
  | share reader => cases ends
  | complete value =>
      cases ends
      rw [after, if_pos held, release, Lookup.drop_of_resolved (Lookup.isOpen_complete _ value), waits]
      exact ⟨rfl, rfl⟩
  | abort reason =>
      cases ends
      rw [after, if_pos held, release, Lookup.drop_of_resolved (Lookup.isOpen_abort _ reason), waits]
      exact ⟨rfl, rfl⟩
  | letGo =>
      cases ends
      rw [after, if_pos held, release, waits]
      exact ⟨rfl, rfl⟩

theorem run_of_ending {move : Move α} {outcome : Except String α}
    (ends : move.ending? = some outcome) (rest : List (Move α)) :
    (s.run (move :: rest)).lookup = .ended subject parts (some outcome) ∧
      (s.run (move :: rest)).held = false := by
  obtain ⟨ended, released⟩ := after_of_ending waits held ends
  obtain ⟨same, still⟩ := run_of_released released rest
  exact ⟨same.trans ended, still⟩

/-- **What a run leaves** of a lookup that is held: how it ended first, and what was known of its
progress before. -/
theorem run_lookup (moves : List (Move α)) :
    (s.run moves).lookup = .ended subject (known parts moves) (ending? moves) ∧
      ((s.run moves).held = true ↔ ending? moves = none) := by
  induction moves generalizing s parts with
  | nil => exact ⟨waits, by simp [run, ending?, held]⟩
  | cons move rest ih =>
      have ended (outcome : Except String α) (ends : move.ending? = some outcome) :
          (s.run (move :: rest)).lookup = .ended subject parts (ending? (move :: rest)) ∧
            ((s.run (move :: rest)).held = true ↔ ending? (move :: rest) = none) := by
        obtain ⟨same, released⟩ := run_of_ending waits held ends rest
        have first : ending? (move :: rest) = some outcome := by
          rw [ending?, List.findSome?_cons, ends]
        rw [first]
        exact ⟨same, by simp [released]⟩
      cases move with
      | report latest =>
          have now : s.after (.report latest) = { s with lookup := s.lookup.report latest } :=
            if_pos held
          refine ih (s := s.after (.report latest)) ?_ ?_
          · rw [now, waits]
            rfl
          · rw [now, held]
      | share reader => exact ih (s := s.after (.share reader)) waits held
      | complete value => exact ended _ rfl
      | abort reason => exact ended _ rfl
      | letGo => exact ended _ rfl

end Held

/-! ## What readers see -/

theorem readers_after (s : Shared α) (move : Move α) :
    s.readers <+: (s.after move).readers ∧
      ∀ reader ∈ (s.after move).readers, reader ∈ s.readers := by
  cases move with
  | share reader =>
      refine ⟨List.prefix_append _ _, fun other member => ?_⟩
      rcases List.mem_append.1 member with old | new
      · exact old
      · exact List.mem_of_getElem? (Option.mem_toList.1 new)
  | _ =>
      -- The holder does nothing to the readers.
      cases held : s.held <;> simp [after, release, held]

/-- Readers stay, and those who come know what the lookup is about from those who were there. -/
theorem readers_run (s : Shared α) (moves : List (Move α)) :
    s.readers <+: (s.run moves).readers ∧ ∀ reader ∈ (s.run moves).readers, reader ∈ s.readers := by
  induction moves generalizing s with
  | nil => exact ⟨List.prefix_rfl, fun _ member => member⟩
  | cons move rest ih =>
      obtain ⟨stay, known⟩ := s.readers_after move
      obtain ⟨stayLater, knownLater⟩ := ih (s.after move)
      exact ⟨stay.trans stayLater, fun reader member => known reader (knownLater reader member)⟩

theorem run_append (s : Shared α) (earlier more : List (Move α)) :
    s.run (earlier ++ more) = (s.run earlier).run more := List.foldl_append

/-- What a lookup shows about a subject, when some progress was known before it ended in some way. -/
structure Shows (l : Lookup α) (subject : String) (parts : Parts)
    (ending : Option (Except String α)) : Prop where
  /-- While it has not ended, the last report is told and there is nothing else to tell. -/
  waiting : ending = none → l.isDone = .ok false ∧ l.result = .ok none ∧ l.wait = none ∧
    l.progress = .ok parts
  /-- Once it has completed, its value is told, and all the parts that were known are done. -/
  completed : ∀ value, ending = some (.ok value) → l.isDone = .ok true ∧
    l.result = .ok (some value) ∧ l.wait = some (.ok ()) ∧
    l.progress = .ok ⟨parts.total, parts.total, true⟩
  /-- Once it was given up or let go, whoever asks for anything is told the same abort. -/
  aborted : ∀ reason, ending = some (.error reason) →
    l.isDone = .error (.abort subject reason) ∧ l.result = .error (.abort subject reason) ∧
    l.wait = some (.error (.abort subject reason)) ∧ l.progress = .error (.abort subject reason)

theorem ended_shows (subject : String) (parts : Parts) (ending : Option (Except String α)) :
    Shows (.ended subject parts ending) subject parts ending := by
  constructor
  · rintro rfl
    exact ⟨rfl, rfl, rfl, rfl⟩
  · rintro value rfl
    exact ⟨rfl, rfl, rfl, rfl⟩
  · rintro reason rfl
    exact ⟨rfl, rfl, rfl, rfl⟩

/-- What a lookup promises to its readers over some moves. -/
structure Promises (subject : String) (moves : List (Move α)) : Prop where
  /-- All readers see the same: how the lookup ended first, and what was reported last before. -/
  shown : ∀ reader ∈ ((opened subject).run moves).readers,
    Shows (((opened subject).run moves).seen reader) subject (known .one moves) (ending? moves)
  /-- What they saw of a lookup that had ended they see for ever. -/
  forever : ∀ earlier, earlier <+: moves → ∀ outcome, ending? earlier = some outcome →
    ∀ reader ∈ ((opened subject).run moves).readers,
      Shows (((opened subject).run moves).seen reader) subject (known .one earlier) (some outcome)
  /-- Whoever was a reader at some time still is one. -/
  stay : ∀ earlier, earlier <+: moves →
    ((opened subject).run earlier).readers <+: ((opened subject).run moves).readers
  /-- The lookup is held until it ends. -/
  held : ((opened subject).run moves).held = true ↔ ending? moves = none

/-- **One outcome for all readers.**  Whatever its holder does, and whenever readers are made, all of
them are told the last report while the lookup is open, and how it ended for ever after. -/
theorem opened_promises (subject : String) (moves : List (Move α)) : Promises subject moves := by
  have left : ((opened subject).run moves).lookup =
      .ended subject (known .one moves) (ending? moves) ∧
        (((opened subject).run moves).held = true ↔ ending? moves = none) :=
    run_lookup rfl rfl moves
  have shown : ∀ reader ∈ ((opened subject).run moves).readers,
      Shows (((opened subject).run moves).seen reader) subject (known .one moves)
        (ending? moves) := by
    intro reader member
    obtain rfl : reader = subject :=
      List.mem_singleton.1 ((readers_run (opened subject) moves).2 reader member)
    rw [seen, left.1, subject_ended]
    exact ended_shows ..
  refine ⟨shown, ?_, ?_, left.2⟩
  · rintro earlier ⟨more, rfl⟩ outcome ended
    rw [ending?_append ended, known_append (by rw [ended]; simp)] at shown
    exact shown
  · rintro earlier ⟨more, rfl⟩
    rw [run_append]
    exact (readers_run _ more).1

/-- A reader who comes after the last report, and one who comes after the end, when nobody is left
to abort the lookup, both see all five parts done. -/
example :
    let s := (opened "cat").run
      [.report ⟨2, 5, false⟩, .share 0, .complete 42, .share 1, .letGo, .abort "late"]
    s.readers.map (fun reader => (reader, (s.seen reader).progress)) =
      .replicate 3 ("cat", .ok ⟨5, 5, true⟩) := by
  rfl

end Shared

end Concordance.Lookup
