/-
# Concordance.Proofs.Faults -- asking for a result breaks no promise

How many children an operation takes is settled when a query is planned and when its
search is planted, and relied on when results are combined; whether a node is done is
settled by the lookups below it, and relied on when its children are asked.  A broken
promise would be a `Fault`.  In a search that was opened there is none, whatever the
lookups were given and whoever asked before: a node that is done has a result, and so has
each of its children (`Orderly.keepsPromises`), and as many results as it has children are
combined, whatever they hold (`combine_ne_fault`).
-/
import Concordance.Proofs.Waiting

namespace Concordance.Search

open Concordance.Index Concordance.Query

set_option autoImplicit false

/-- Results are gathered into as many sets. -/
theorem length_of_gather {results : List (Except SearchError ResultSet)} {sets : List ResultSet}
    (gathered : gather results = .ok sets) : sets.length = results.length := by
  rw [gather_eq_ok_iff.1 gathered, List.length_map]

namespace Node

/-! ## Combining -/

/-- How many results a node combines: the one of its lookup, or one for each child. -/
def resultCount (n : Node) : Nat := if n.isLeaf then 1 else n.children.length

/-- Sets in the number of a node's children are combined. -/
theorem combineSets_of_resultCount {n : Node} (sound : n.shape.Sound) {sets : List ResultSet}
    (count : sets.length = n.resultCount) :
    ∃ set, combineSets n.operation n.subject sets = .ok set := by
  cases n with
  | leaf query locator holder lookup memo =>
      obtain ⟨only, rfl⟩ := List.length_eq_one_iff.1 count
      exact ⟨_, rfl⟩
  | branch query locators op children memo =>
      rw [shape_branch] at sound
      cases sound with
      | branch _ _ _ notTerm accepted _ =>
          have same : sets.length = children.length := count
          rw [List.length_map, ← same] at accepted
          exact combineSets_of_accepts notTerm _ accepted

/-- Whatever the children of a node answer, as many answers as there are children are combined. -/
theorem combine_ne_fault {n : Node} (sound : n.shape.Sound)
    {results : List (Except SearchError ResultSet)} (count : results.length = n.resultCount)
    (fault : Fault) : combine n.operation n.subject results ≠ .error (.fault fault) := by
  unfold combine
  cases gathered : Search.gather results with
  | error e => simp
  | ok sets =>
      obtain ⟨set, combined⟩ :=
        combineSets_of_resultCount sound ((length_of_gather gathered).trans count)
      simp [combined]

/-! ## Asking -/

/-- Nothing that a node relies on when it is asked for its result fails it. -/
structure KeepsPromises (n : Node) : Prop where
  /-- It does not answer with a fault. -/
  faultless : ∀ fault, n.take.2 ≠ .error (.fault fault)
  /-- If it is done, it has a result. -/
  result : n.isDone = .ok true → ∃ set, n.take.2 = .ok (some set)
  /-- If it is done, each of its children has a result when they are asked in turn. -/
  children : n.isDone = .ok true →
    ∃ sets, (takeAll n.children).2 = .ok sets ∧ sets.length = n.children.length
  /-- Whatever is answered by its children, or found by its lookup, can be combined. -/
  combines : ∀ results, results.length = n.resultCount →
    ∀ fault, combine n.operation n.subject results ≠ .error (.fault fault)

/-- What is below a node that is done is done. -/
theorem isDone_children {n : Node} (done : n.isDone = .ok true) :
    ∀ child ∈ n.children, child.isDone = .ok true := by
  cases n with
  | leaf query locator holder lookup memo => exact nofun
  | branch query locators op children memo => exact allDone_eq_ok_true_iff.1 done

theorem answered_ne_fault (verdict : Option (Except SearchError ResultSet)) (fault : Fault) :
    answered verdict ≠ .error (.fault fault) := by
  rcases verdict with _ | (e | set) <;> simp [answered, remembered]

/-- **An orderly search keeps its promises.** -/
theorem Orderly.keepsPromises {n : Node} (orderly : n.Orderly) : n.KeepsPromises where
  faultless fault := by
    rw [orderly.honest.take_answer orderly.sound]
    exact answered_ne_fault _ fault
  result := orderly.agreed.ready.2.1
  children done := by
    obtain ⟨sets, each⟩ := exists_forall₂ fun child member =>
      (orderly.ofChildren child member).agreed.ready.2.1 (isDone_children done child member)
    exact ⟨sets, takeAll_eq_ok_iff.2 each, each.length_eq.symm⟩
  combines _ count := combine_ne_fault orderly.sound count

end Node

/-- **Asking for a result breaks no promise.**  Whatever happens to a search, and whatever its
lookups are given, no node of it answers with a fault or relies on anything that fails it. -/
theorem run_keepsPromises {catalog : Catalog} {query : String} {locators : List String}
    {root n : Node} (opened : (openSearch catalog query locators).search = .ok root)
    (events : List Event) {place : List Nat} (placed : (root.run events).at? place = some n) :
    n.KeepsPromises :=
  ((root.run_keeps events (orderly_of_opened opened)).1.at? placed).keepsPromises

/-- The search for a phrase. -/
def bigCat : Node :=
  .branch "\"big cat\"" "idx" .phrase
    [.leaf "big" "idx" (some 0) (.fresh "big") Memo.fresh,
      .leaf "cat" "idx" (some 0) (.fresh "cat") Memo.fresh] Memo.fresh

theorem bigCat_opened : (openSearch idxHeld "\"big cat\"" ["idx"]).search = .ok bigCat := by
  rw [bigCat]
  cbv

/-- The first word stands at the last place that has a number, and is fetched before the second. -/
def foundAtTheEnd : List Event :=
  [⟨[0], .complete [.ofOffsets "big" "a.txt" [4294967295]]⟩, ⟨[0], .result⟩, ⟨[], .result⟩,
    ⟨[1], .complete [.ofOffsets "cat" "a.txt" [0], .ofOffsets "cat" "a.txt" [4294967295]]⟩]

theorem run_keepsPromises_foundAtTheEnd :
    (openSearch idxHeld "\"big cat\"" ["idx"]).search = .ok bigCat ∧
      (bigCat.run foundAtTheEnd).at? [] = some (bigCat.run foundAtTheEnd) ∧
      (bigCat.run foundAtTheEnd).isDone = .ok true ∧ (bigCat.run foundAtTheEnd).KeepsPromises :=
  have placed : (bigCat.run foundAtTheEnd).at? [] = some (bigCat.run foundAtTheEnd) := rfl
  ⟨bigCat_opened, placed, rfl, run_keepsPromises bigCat_opened foundAtTheEnd placed⟩

end Concordance.Search
