/-
# Concordance.Search.Registry -- the searches that are live

A live search is found by its name and by the digest of its name.  Of two live
searches with one digest, only the first is found by it.

Nodes are told apart by where they are, not by what they are called: a node leaves
the registry only if it is itself the live search of its name, and not another node
of the same name.
-/
import Concordance.Data.SortedMap

namespace Concordance.Search

open Concordance.Data

set_option autoImplicit false

/-- Where a node is: the number of its search, and the way down from the root. -/
structure NodeRef where
  search : Nat
  path : List Nat
  deriving DecidableEq, Repr

/-- The root of a search. -/
def NodeRef.root (search : Nat) : NodeRef := ⟨search, []⟩

/-- The live searches, by number. -/
structure Registry where
  bySubject : SortedMap String Nat
  byHash : SortedMap UInt64 Nat

namespace Registry

/-- A registry without searches. -/
def empty : Registry := ⟨SortedMap.empty, SortedMap.empty⟩

/-- The live search of that name. -/
def find? (r : Registry) (subject : String) : Option Nat := r.bySubject.find? subject

/-- The live search that is found by that digest. -/
def findHash? (r : Registry) (hash : UInt64) : Option Nat := r.byHash.find? hash

/-- Files a search under its name, and under its digest unless that is taken. -/
def file (r : Registry) (subject : String) (hash : UInt64) (search : Nat) : Registry :=
  { bySubject := r.bySubject.insert subject search
    byHash := if (r.byHash.find? hash).isSome then r.byHash else r.byHash.insert hash search }

/-- Takes a node out, given its name and digest, if it is the live search of that name. -/
def remove (r : Registry) (subject : String) (hash : UInt64) (node : NodeRef) : Registry :=
  if (r.bySubject.find? subject).map NodeRef.root = some node then
    { bySubject := r.bySubject.erase subject
      byHash :=
        if (r.byHash.find? hash).map NodeRef.root = some node then r.byHash.erase hash
        else r.byHash }
  else r

/-- The names of the live searches with their numbers, in the order of the names. -/
def toList (r : Registry) : List (String × Nat) := r.bySubject.toList

/-- How many live searches there are. -/
def size (r : Registry) : Nat := r.bySubject.size

/-- Whether no search is live. -/
def isEmpty (r : Registry) : Bool := r.bySubject.isEmpty

/-! ## Names after each operation -/

@[simp] theorem find?_empty (subject : String) : empty.find? subject = none := rfl

theorem find?_file (r : Registry) (subject other : String) (hash : UInt64) (search : Nat) :
    (r.file subject hash search).find? other =
      if other = subject then some search else r.find? other := by
  simp only [find?, file]
  exact SortedMap.find?_insert ..

/-- Only the node itself is taken out. -/
theorem find?_remove (r : Registry) (subject other : String) (hash : UInt64) (node : NodeRef) :
    (r.remove subject hash node).find? other =
      if other = subject ∧ (r.find? subject).map NodeRef.root = some node then none
      else r.find? other := by
  simp only [find?, remove]
  split
  · rename_i itself
    simp only [SortedMap.find?_erase, itself, and_true]
  · rename_i another
    simp [another]

/-! ## Digests after each operation -/

@[simp] theorem findHash?_empty (hash : UInt64) : empty.findHash? hash = none := rfl

theorem findHash?_file (r : Registry) (subject : String) (hash other : UInt64) (search : Nat) :
    (r.file subject hash search).findHash? other =
      if other = hash ∧ r.findHash? hash = none then some search else r.findHash? other := by
  simp only [findHash?, file]
  by_cases free : r.byHash.find? hash = none
  · simp only [free, and_true]
    exact SortedMap.find?_insert ..
  · simp [free, Option.isSome_iff_ne_none]

theorem findHash?_remove (r : Registry) (subject : String) (hash other : UInt64) (node : NodeRef) :
    (r.remove subject hash node).findHash? other =
      if other = hash ∧ (r.find? subject).map NodeRef.root = some node ∧
          (r.findHash? hash).map NodeRef.root = some node then none
      else r.findHash? other := by
  simp only [find?, findHash?, remove]
  split
  · rename_i itself
    split
    · rename_i found
      simp only [SortedMap.find?_erase, itself, found, and_true]
    · rename_i another
      simp [another]
  · rename_i another
    simp [another]

end Registry

end Concordance.Search
