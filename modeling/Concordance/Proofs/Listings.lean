/-
# Concordance.Proofs.Listings -- the two tables of a catalog

An index of the node's own stands in one table, and the backend that its name is
resolved to stands in the other.  Creating the index files it in both; registering
writes the second table alone, over whatever stands there.  So the tables agree from
the time an index is created until somebody registers under its name (`Listed.agree`),
and what registering wrote stays, for creating an index that exists does nothing
(`Listed.kept`).  Whoever registered before the index was created is replaced in turn,
and nobody else is (`Listed.created`).

While they agree, the documents that were added to an index are what a search under its
name finds (`Listed.finds`); other nodes, who are served from the first table, are told
of them in any case (`Listed.serves`).
-/
import Concordance.Http.Serve
import Concordance.Proofs.MemorySearch

namespace Concordance

open Concordance.Data Concordance.Index Concordance.Query Concordance.Search Concordance.Text
open Concordance.Wire

set_option autoImplicit false

namespace Index.Catalog

/-! ## Calls -/

/-- What may be done to a catalog. -/
inductive Call
  | register (locator : String) (backend : Backend)
  | create (name : String)
  | resolve (locator : String)
  | addDocument (name uri : String) (title : Option String) (text : String)
  | removeDocument (name uri : String)

/-- The catalog after a call. -/
def step (c : Catalog) : Call → Catalog
  | .register locator backend => c.register locator backend
  | .create name => c.localOrCreate name
  | .resolve locator =>
      match c.resolve locator with
      | .ok (later, _) => later
      | .error _ => c
  | .addDocument name uri title text => (c.addDocument name uri title text).1
  | .removeDocument name uri => ((c.removeDocument name uri).map Prod.fst).getD c

/-- The catalog after some calls. -/
def run (c : Catalog) (calls : List Call) : Catalog := calls.foldl step c

theorem run_append (c : Catalog) (calls more : List Call) :
    c.run (calls ++ more) = (c.run calls).run more := List.foldl_append

/-- The name under which a call sees to it that there is an index. -/
def Call.creates? : Call → Option String
  | .create name => some name
  | .addDocument name _ _ _ => some name
  | _ => none

/-- The change that a call makes to the index of a name. -/
def Call.change? (name : String) : Call → Option Change
  | .addDocument changed uri title text =>
      if name = changed then some (.add uri title text) else none
  | .removeDocument changed uri => if name = changed then some (.remove uri) else none
  | _ => none

/-- The changes that some calls make to the index of a name. -/
def history (name : String) (calls : List Call) : List Change :=
  calls.filterMap (Call.change? name)

/-- The backend that a call registers under a name. -/
def Call.registers? (name : String) : Call → Option Backend
  | .register locator backend => if locator = name then some backend else none
  | _ => none

/-- The backend that was registered last under a name. -/
def registeredLast (name : String) (calls : List Call) : Option Backend :=
  (calls.filterMap (Call.registers? name)).getLast?

theorem registeredLast_append (name : String) (calls : List Call) (call : Call) :
    registeredLast name (calls ++ [call]) =
      (call.registers? name).or (registeredLast name calls) := by
  rw [registeredLast, registeredLast, List.filterMap_append]
  rcases registered : call.registers? name with _ | backend
  · rw [List.filterMap_cons_none registered, List.filterMap_nil, List.append_nil]
    rfl
  · rw [List.filterMap_cons_some registered, List.filterMap_nil, List.getLast?_append]
    rfl

/-! ## What a call does to the tables -/

theorem local?_localOrCreate (c : Catalog) (name other : String) :
    (c.localOrCreate name).local? other =
      if other = name then some (c.localIndex name) else c.local? other := by
  unfold localOrCreate
  rcases held : c.locals.find? name with _ | index
  · have missing : c.locals.contains name = false := by simp [SortedMap.contains, held]
    rw [missing]
    refine (SortedMap.find?_insert ..).trans ?_
    rw [localIndex, local?, held]
    rfl
  · have present : c.locals.contains name = true := by simp [SortedMap.contains, held]
    rw [if_pos present]
    split
    · rename_i here
      subst here
      rw [localIndex, local?, held]
      rfl
    · rfl

/-- Creating an index that exists changes nothing. -/
theorem localOrCreate_of_local? {c : Catalog} {name : String} {index : Memory}
    (held : c.local? name = some index) : c.localOrCreate name = c := by
  have present : c.locals.contains name = true := by
    rw [local?] at held
    simp [SortedMap.contains, held]
  rw [localOrCreate, if_pos present]

/-- Creating an index that does not exist files it under its name, and under no other. -/
theorem find?_localOrCreate {c : Catalog} {name : String} (missing : c.local? name = none)
    (other : String) : (c.localOrCreate name).backends.find? other =
      if other = name then some (.held name) else c.backends.find? other := by
  have absent : ¬ c.locals.contains name = true := by
    rw [local?] at missing
    simp [SortedMap.contains, missing]
  rw [localOrCreate, if_neg absent]
  exact SortedMap.find?_insert ..

theorem local?_putLocal (c : Catalog) (name other : String) (index : Memory) :
    (c.putLocal name index).local? other =
      if other = name then some index else c.local? other := by
  have created := local?_localOrCreate c name other
  refine (SortedMap.find?_insert ..).trans ?_
  split
  · rfl
  · rename_i elsewhere
    rw [if_neg elsewhere] at created
    exact created

/-- An index is there after a call if it was there, or if the call sees to it. -/
theorem exists_local?_step (c : Catalog) (call : Call) (name : String) :
    (∃ index, (c.step call).local? name = some index) ↔
      (∃ index, c.local? name = some index) ∨ call.creates? = some name := by
  have put (other : String) (changed : Memory) :
      (∃ index, (c.putLocal other changed).local? name = some index) ↔
        (∃ index, c.local? name = some index) ∨ some other = some name := by
    rw [local?_putLocal]
    by_cases here : name = other
    · simp [here]
    · simp [here, Ne.symm here]
  have idle {P : Prop} : P ↔ P ∨ (none : Option String) = some name :=
    (or_iff_left (Option.some_ne_none name).symm).symm
  cases call with
  | register locator backend => exact idle
  | create other =>
      rw [step, local?_localOrCreate, ← local?_putLocal]
      exact put other _
  | resolve locator =>
      refine Iff.trans ?_ idle
      rw [step]
      rcases resolved : c.resolve locator with e | ⟨later, backend⟩
      · rfl
      · rw [local?, local?, resolve_locals resolved]
  | addDocument other uri title text => exact put other _
  | removeDocument other uri =>
      refine Iff.trans ?_ idle
      rw [step, removeDocument]
      rcases held : c.local? other with _ | changed
      · rfl
      · refine (put other _).trans (or_iff_left_of_imp fun same => ?_)
        rw [← Option.some.inj same]
        exact ⟨changed, held⟩

/-- The backend that a call files under a name, whatever is listed there: one that it registers, or
the index that it creates. -/
def Call.files? (c : Catalog) (name : String) : Call → Option Backend
  | .register locator backend => if locator = name then some backend else none
  | .create created => if created = name ∧ c.local? name = none then some (.held name) else none
  | .addDocument created _ _ _ =>
      if created = name ∧ c.local? name = none then some (.held name) else none
  | _ => none

/-- **What a name is listed as** changes only if a call files another backend under it. -/
theorem find?_step {c : Catalog} {name : String} {known : Backend}
    (listed : c.backends.find? name = some known) (call : Call) :
    (c.step call).backends.find? name = some ((call.files? c name).getD known) := by
  have created (other : String) : (c.localOrCreate other).backends.find? name =
      some ((if other = name ∧ c.local? name = none then some (.held name) else none).getD
        known) := by
    rcases there : c.local? other with _ | index
    · rw [find?_localOrCreate there]
      by_cases here : name = other
      · subst here
        rw [if_pos rfl, if_pos ⟨rfl, there⟩]
        rfl
      · rw [if_neg here, if_neg (fun both => here both.1.symm), listed]
        rfl
    · rw [localOrCreate_of_local? there, if_neg, listed]
      · rfl
      · rintro ⟨rfl, missing⟩
        rw [there] at missing
        cases missing
  cases call with
  | register locator backend =>
      refine (SortedMap.find?_insert ..).trans ?_
      rw [Call.files?]
      by_cases here : name = locator
      · rw [if_pos here, if_pos here.symm]
        rfl
      · rw [if_neg here, if_neg (Ne.symm here)]
        exact listed
  | create other => exact created other
  | resolve locator =>
      rw [step]
      rcases resolved : c.resolve locator with e | ⟨later, backend⟩
      · exact listed
      · exact resolve_keeps resolved listed
  | addDocument other uri title text => exact created other
  | removeDocument other uri =>
      rw [step, removeDocument]
      rcases held : c.local? other with _ | changed
      · exact listed
      · -- The index is there already, so putting its new state back files nothing.
        refine (created other).trans ?_
        rw [if_neg]
        · rfl
        · rintro ⟨rfl, missing⟩
          rw [held] at missing
          cases missing

/-- Where there is an index, what its name is listed as changes only if somebody registers under it. -/
theorem find?_step_of_local? {c : Catalog} {name : String} {index : Memory} {known : Backend}
    (held : c.local? name = some index) (listed : c.backends.find? name = some known)
    (call : Call) :
    (c.step call).backends.find? name = some ((call.registers? name).getD known) := by
  have same : call.files? c name = call.registers? name := by
    cases call <;> simp [Call.files?, Call.registers?, held]
  rw [find?_step listed, same]

/-- Where there was no index, its name is filed with it. -/
theorem find?_step_of_creates {c : Catalog} {name : String} (missing : c.local? name = none)
    {call : Call} (creates : call.creates? = some name) :
    (c.step call).backends.find? name = some (.held name) := by
  have filed : (c.localOrCreate name).backends.find? name = some (.held name) :=
    (find?_localOrCreate missing name).trans (if_pos rfl)
  cases call with
  | create other =>
      cases creates
      exact filed
  | addDocument other uri title text =>
      cases creates
      exact filed
  | _ => cases creates

/-- An index that was not there was created, and its name is filed with it. -/
theorem step_of_missing {c : Catalog} {name : String} {index : Memory} {call : Call}
    (missing : c.local? name = none) (held : (c.step call).local? name = some index) :
    call.creates? = some name ∧ (c.step call).backends.find? name = some (.held name) := by
  rcases (exists_local?_step c call name).1 ⟨index, held⟩ with ⟨old, before⟩ | creates
  · rw [missing] at before
    cases before
  · exact ⟨creates, find?_step_of_creates missing creates⟩

/-- **What an index's name is resolved to**: the index, or whatever was registered last under its name
since it was created. -/
theorem run_listed {link : Link} {calls : List Call} {name : String} {index : Memory}
    (held : ((empty link).run calls).local? name = some index) :
    ∃ before creating later, calls = before ++ creating :: later ∧
      ((empty link).run before).local? name = none ∧ creating.creates? = some name ∧
      ((empty link).run calls).backends.find? name =
        some ((registeredLast name later).getD (.held name)) := by
  induction calls using List.reverseRecOn generalizing index with
  | nil => cases held
  | append_singleton calls call ih =>
      rw [run_append] at held ⊢
      rcases earlier : ((empty link).run calls).local? name with _ | old
      · obtain ⟨creates, filed⟩ := step_of_missing earlier held
        exact ⟨calls, call, [], rfl, earlier, creates, filed⟩
      · obtain ⟨before, creating, later, cut, fresh, creates, listed⟩ := ih earlier
        refine ⟨before, creating, later ++ [call], ?_, fresh, creates, ?_⟩
        · rw [cut, List.append_assoc, List.cons_append]
        · refine (find?_step_of_local? earlier listed call).trans ?_
          rw [registeredLast_append]
          cases call.registers? name <;> rfl

/-! ## What the index holds -/

theorem localIndex_step (c : Catalog) (call : Call) (name : String) :
    (c.step call).localIndex name =
      (call.change? name).elim (c.localIndex name) (c.localIndex name).change := by
  cases call with
  | register locator backend => rfl
  | create created => exact localIndex_localOrCreate ..
  | resolve locator =>
      rw [step]
      rcases resolved : c.resolve locator with e | ⟨later, backend⟩
      · rfl
      · exact localIndex_of_locals (resolve_locals resolved) name
  | addDocument changed uri title text =>
      refine (localIndex_addDocument ..).trans ?_
      rw [Call.change?]
      split <;> rfl
  | removeDocument changed uri =>
      refine (localIndex_removeDocument ..).trans ?_
      rw [Call.change?]
      split <;> rfl

/-- After some calls an index is what the changes among them leave. -/
theorem localIndex_run (link : Link) (calls : List Call) (name : String) :
    ((empty link).run calls).localIndex name = Memory.after (history name calls) := by
  induction calls using List.reverseRecOn with
  | nil => rfl
  | append_singleton calls call ih =>
      rw [run_append, history, List.filterMap_append, Memory.after, List.foldl_append]
      refine (localIndex_step ..).trans ?_
      rw [ih]
      rcases changed : call.change? name with _ | change
      · rw [List.filterMap_cons_none changed]
        rfl
      · rw [List.filterMap_cons_some changed]
        rfl

/-! ## Both tables -/

/-- The two tables of a catalog that came from another by some calls. -/
structure Listed (first c : Catalog) (calls : List Call) : Prop where
  /-- The name of an index is resolved to the index, or to the backend that was registered last
  under its name since the index was created. -/
  agree : ∀ name index, c.local? name = some index →
    ∃ before creating later, calls = before ++ creating :: later ∧
      (first.run before).local? name = none ∧ creating.creates? = some name ∧
      c.resolve name = .ok (c, (registeredLast name later).getD (.held name))
  /-- The index is what the documents leave that were added and removed. -/
  holds : ∀ name index, c.local? name = some index → index = Memory.after (history name calls)
  /-- Lookups in it are answered from these. -/
  asks : ∀ name index, c.local? name = some index → ∀ word,
    c.ask (.held name) word = .answered word (.ok (index.lookup word)) ∧
      c.describe (.held name) word = .answered word (.ok (index.description? word))
  /-- Other nodes are told the same. -/
  serves : ∀ name index, c.local? name = some index → ∀ s : Service, s.catalog = c → ∀ word,
    Http.terms s name word = .message 200
        (TermAnswer.encode ⟨lowercase word, index.lookup (lowercase word)⟩) ∧
      Http.document s name word = .message 200 (DocumentAnswer.encode ⟨index.description? word⟩)
  /-- A search under the name finds the documents that satisfy it. -/
  finds : ∀ name, c.resolve name = .ok (c, .held name) →
    (∀ change ∈ history name calls, change.IsShort) → ∀ s : Service, s.catalog = c →
      ∀ locators raw tokens p, splitLocators locators = [name] →
        tokenize (normalize raw) = .ok tokens → plan (normalize raw) tokens = .ok p →
        s.find? raw locators = none →
          ∃ started search set, s.startSearch raw locators = (started, .ok search) ∧
            (∀ actions, ((started.run actions).result (.root search)).2 = .ok (some set)) ∧
            ∀ uri, set.contains uri = true ↔ ∃ d, stored (history name calls) uri = some d ∧
              Wanted id (fun t => t.HoldsIn (textWords d.text)) tokens
  /-- Creating an index that exists replaces nobody, and changes nothing else. -/
  kept : ∀ name index, c.local? name = some index → c.localOrCreate name = c
  /-- An index that is created is empty, and takes the place of whoever was registered under its
  name, and of nobody else. -/
  created : ∀ name, c.local? name = none →
    (c.localOrCreate name).local? name = some Memory.empty ∧
      (c.localOrCreate name).resolve name = .ok (c.localOrCreate name, .held name) ∧
      ∀ other, other ≠ name → (c.localOrCreate name).local? other = c.local? other ∧
        (c.localOrCreate name).backends.find? other = c.backends.find? other

/-- **The tables of a catalog agree** until somebody registers under the name of an index. -/
theorem run_tablesListed (link : Link) (calls : List Call) :
    Listed (empty link) ((empty link).run calls) calls where
  agree name index held := by
    obtain ⟨before, creating, later, cut, fresh, creates, listed⟩ := run_listed held
    exact ⟨before, creating, later, cut, fresh, creates, resolve_of_find? listed⟩
  holds name index held := by
    rw [← localIndex_run link, localIndex, held]
    rfl
  asks name index held word := by
    rw [ask, describe, localIndex, held]
    exact ⟨rfl, rfl⟩
  serves name index held s same word := by
    rw [Http.terms, Http.document, same, held]
    exact ⟨rfl, rfl⟩
  finds name resolved short s same locators raw tokens p located lexed planned fresh := by
    have mirrors : (s.catalog.localIndex name).Mirrors (stored (history name calls)) := by
      rw [same, localIndex_run]
      exact Memory.mirrors_after _
    refine startSearch_of_mirrors mirrors ?_ (fun _ _ => short_of_stored short) located lexed
      planned fresh
    rw [same]
    exact find?_of_resolve resolved
  kept name index held := localOrCreate_of_local? held
  created name missing := by
    refine ⟨?_, ?_, fun other another => ⟨?_, ?_⟩⟩
    · rw [local?_localOrCreate, if_pos rfl, localIndex, missing]
      rfl
    · exact resolve_of_find? ((find?_localOrCreate missing name).trans (if_pos rfl))
    · rw [local?_localOrCreate, if_neg another]
    · rw [find?_localOrCreate missing, if_neg another]

/-- Somebody who knows no document. -/
def stranger : Backend := .external 0 fun _ => .ok none

/-- A name is taken by an index from whoever was registered under it. -/
def shelved : List Call :=
  [.register "books" stranger, .create "books", .addDocument "books" "a" none "Cat",
    .resolve "books", .create "books"]

/-- A service with the index that was made so, and no searches. -/
def library : Service := ⟨(empty ⟨.absent, 1⟩).run shelved, #[], Registry.empty, [], 0⟩

theorem run_tablesListed_shelved :
    Listed (empty ⟨.absent, 1⟩) library.catalog shelved ∧
      library.catalog.local? "books" = some (Memory.after [.add "a" none "Cat"]) ∧
      library.catalog.resolve "books" = .ok (library.catalog, .held "books") ∧
      ∃ started search set, library.startSearch "cat" "books" = (started, .ok search) ∧
        (∀ actions, ((started.run actions).result (.root search)).2 = .ok (some set)) ∧
        set.contains "a" = true := by
  have listed := run_tablesListed ⟨.absent, 1⟩ shelved
  have resolved : library.catalog.resolve "books" = .ok (library.catalog, .held "books") := rfl
  have short : ∀ change ∈ history "books" shelved, change.IsShort := by
    show ∀ change ∈ [Change.add "a" none "Cat"], change.IsShort
    rw [List.forall_mem_singleton, Change.IsShort]
    cbv
  obtain ⟨started, search, set, starts, results, found⟩ :=
    listed.finds "books" resolved short library rfl "books" "cat" [.term "cat"] (.term "cat")
      (by cbv) (by cbv) (by cbv) (Registry.find?_empty _)
  refine ⟨listed, rfl, resolved, started, search, set, starts, results, (found "a").2 ?_⟩
  have words : textWords "Cat" = ["cat"] := by cbv
  refine ⟨⟨none, "Cat"⟩, rfl, ?_, fun _ member => by cases member⟩
  have alone : groups id [Token.term "cat"] = [[.term "cat"]] := rfl
  rw [alone, List.forall_mem_singleton]
  refine ⟨.term "cat", List.mem_singleton_self _, rfl, ?_⟩
  show "cat" ∈ textWords "Cat"
  rw [words]
  exact List.mem_singleton_self _

/-- Whoever is registered under the name of an index hides it, and an index that is created hides
whoever was registered under its name. -/
theorem tables_disagree :
    ((empty ⟨.absent, 1⟩).run [.create "books", .register "books" stranger]).local? "books" =
        some Memory.empty ∧
      (((empty ⟨.absent, 1⟩).run [.create "books", .register "books" stranger]).resolve
        "books").map Prod.snd = .ok stranger ∧
      (((empty ⟨.absent, 1⟩).run [.register "books" stranger]).resolve "books").map Prod.snd =
        .ok stranger ∧
      (((empty ⟨.absent, 1⟩).run [.register "books" stranger, .create "books"]).resolve
        "books").map Prod.snd = .ok (.held "books") ∧
      stranger ≠ .held "books" :=
  ⟨rfl, rfl, rfl, rfl, nofun⟩

end Index.Catalog

end Concordance
