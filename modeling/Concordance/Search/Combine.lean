/-
# Concordance.Search.Combine -- results of children into one result

`combine` computes a node's result from the results of its children, in order.
The first failed child is the answer; nothing is combined from the rest.

* A union holds every document of every child, with all positions.
* An intersection holds the documents that are in every child, with all positions.
* A difference holds the documents of the first child that are not in the second.
* A phrase holds the documents in which the words follow one another, with the
  positions at which the phrase starts.  A start so late that a word of the phrase
  would have a number beyond 32 bits is no start.

How many children an operation takes is settled when a node is built, so a wrong
number is a fault.
-/
import Concordance.Error
import Concordance.Search.ResultSet

namespace Concordance.Search

open Concordance.Data

set_option autoImplicit false

/-- Adds the documents of `child` to `acc`. -/
def unionStep (acc : ResultSet) (child : ResultSet) : ResultSet :=
  child.toList.foldl (fun s entry =>
    let positions := match s.get? entry.uri with
      | some old => entry.positions.union old.positions
      | none => entry.positions
    s.put entry.uri positions) acc

/-- The documents of any child. -/
def union (subject : String) (children : List ResultSet) : ResultSet :=
  children.foldl unionStep (ResultSet.empty subject)

/-- The positions of a document in the first child and in the rest, if it is in all of them. -/
def commonPositions (entry : Entry) : List ResultSet → Option Positions
  | [] => some entry.positions
  | child :: rest =>
      match child.get? entry.uri, commonPositions entry rest with
      | some other, some positions => some (positions.union other.positions)
      | _, _ => none

/-- Puts those entries into an empty set for which `choose` gives positions. -/
def select (subject : String) (choose : Entry → Option Positions) (entries : List Entry) :
    ResultSet :=
  entries.foldl (fun s entry =>
    match choose entry with
    | some positions => s.put entry.uri positions
    | none => s) (ResultSet.empty subject)

/-- The documents of all children. -/
def intersection (subject : String) (first : ResultSet) (rest : List ResultSet) : ResultSet :=
  select subject (fun entry => commonPositions entry rest) first.toList

/-- The documents of the first set that are not in the second. -/
def difference (subject : String) (minuend subtrahend : ResultSet) : ResultSet :=
  select subject
    (fun entry => if subtrahend.contains entry.uri then none else some entry.positions)
    minuend.toList

/-- Whether the words numbered from `start + 1` on are at those positions. -/
def followedFrom (start : Nat) : List Positions → Bool
  | [] => true
  | positions :: rest =>
      decide (start + 1 < UInt32.size) && positions.contains (UInt32.ofNat (start + 1)) &&
        followedFrom (start + 1) rest

/-- The positions at which a phrase starts in a document, if it does at all. -/
def phraseStarts (entry : Entry) (rest : List ResultSet) : Option Positions :=
  match rest.mapM (fun child => child.get? entry.uri) with
  | none => none
  | some followers =>
      let starts := entry.positions.filter
        (fun start => followedFrom start.toNat (followers.map Entry.positions))
      if starts.isEmpty then none else some starts

/-- The documents that hold the words of the children in order. -/
def phrase (subject : String) (first : ResultSet) (rest : List ResultSet) : ResultSet :=
  select subject (fun entry => phraseStarts entry rest) first.toList

/-- Combines results; a wrong number of them is a fault. -/
def combineSets (op : Operation) (subject : String) (children : List ResultSet) :
    Except Fault ResultSet :=
  match op, children with
  | .term, [only] => .ok { only with subject }
  | .phrase, first :: second :: rest => .ok (phrase subject first (second :: rest))
  | .intersection, first :: second :: rest => .ok (intersection subject first (second :: rest))
  | .union, first :: second :: rest => .ok (union subject (first :: second :: rest))
  | .merge, first :: second :: rest => .ok (union subject (first :: second :: rest))
  | .difference, [minuend, subtrahend] => .ok (difference subject minuend subtrahend)
  | op, _ => .error (.operands op)

/-- The results of the children, or the first failure among them. -/
def gather : List (Except SearchError ResultSet) → Except SearchError (List ResultSet)
  | [] => .ok []
  | .error e :: _ => .error e
  | .ok s :: rest => (gather rest).map (s :: ·)

/-- Nothing is passed over: all results are sets, and those are the sets in order. -/
theorem gather_eq_ok_iff {results : List (Except SearchError ResultSet)} {sets : List ResultSet} :
    gather results = .ok sets ↔ results = sets.map .ok := by
  induction results generalizing sets with
  | nil => cases sets <;> simp [gather]
  | cons head rest ih =>
      cases head with
      | error e => cases sets <;> simp [gather]
      | ok first =>
          cases more : gather rest with
          | error e =>
              have never (tail : List ResultSet) : rest ≠ tail.map .ok := by
                intro same
                rw [← ih, more] at same
                cases same
              cases sets with
              | nil => simp [gather, more, Except.map]
              | cons set tail => simp [gather, more, Except.map, never tail]
          | ok found =>
              have same := ih.1 more
              subst same
              cases sets with
              | nil => simp [gather, more, Except.map]
              | cons set tail =>
                  simp [gather, more, Except.map,
                    List.map_inj_right (fun _ _ h => Except.ok.inj h)]

/-- Combines the children's results under an operation. -/
def combine (op : Operation) (subject : String) (children : List (Except SearchError ResultSet)) :
    Except Failure ResultSet :=
  match gather children with
  | .error e => .error (.search e)
  | .ok sets =>
      match combineSets op subject sets with
      | .ok set => .ok set
      | .error f => .error (.fault f)

end Concordance.Search
