/-
# Concordance.Proofs.Histories -- the documents of a run

Of all that happens in a run, only documents that come and go change an index of the
node: `Action.change?` says which change an action makes to the index of a name, and
`history` collects the changes of a run.  An action makes that change and no other
(`localIndex_act`), so after a run the index is what its history leaves
(`localIndex_run`), whatever was searched, registered or resolved in between.
-/
import Concordance.Proofs.Documents
import Concordance.Proofs.Runs

namespace Concordance

open Concordance.Data Concordance.Index Concordance.Query Concordance.Search

set_option autoImplicit false

/-! ## The indexes of a catalog -/

namespace Index.Catalog

theorem localIndex_of_locals {c later : Catalog} (same : later.locals = c.locals) (name : String) :
    later.localIndex name = c.localIndex name := by
  rw [localIndex, localIndex, local?, local?, same]

/-- An index that is created is empty, as it was taken to be before. -/
theorem localIndex_localOrCreate (c : Catalog) (created name : String) :
    (c.localOrCreate created).localIndex name = c.localIndex name := by
  unfold localOrCreate
  split
  · rfl
  · rename_i missing
    rw [localIndex, localIndex, local?, local?, SortedMap.find?_insert]
    split
    · rename_i here
      subst here
      have absent : c.locals.find? name = none := by
        simpa [SortedMap.contains] using missing
      rw [absent]
      rfl
    · rfl

theorem localIndex_putLocal (c : Catalog) (changed : String) (index : Memory) (name : String) :
    (c.putLocal changed index).localIndex name =
      if name = changed then index else c.localIndex name := by
  have others := localIndex_localOrCreate c changed name
  rw [localIndex, local?] at others
  rw [localIndex, local?, putLocal, SortedMap.find?_insert]
  split
  · rfl
  · exact others

theorem localIndex_addDocument (c : Catalog) (changed uri : String) (title : Option String)
    (text name : String) :
    (c.addDocument changed uri title text).1.localIndex name =
      if name = changed then (c.localIndex name).change (.add uri title text)
      else c.localIndex name := by
  rw [addDocument]
  refine (localIndex_putLocal ..).trans ?_
  split
  · rename_i here
    rw [here]
    rfl
  · rfl

theorem localIndex_removeDocument (c : Catalog) (changed uri name : String) :
    (((c.removeDocument changed uri).map Prod.fst).getD c).localIndex name =
      if name = changed then (c.localIndex name).change (.remove uri) else c.localIndex name := by
  unfold removeDocument
  cases held : c.local? changed with
  | none =>
      show c.localIndex name = _
      split
      · rename_i here
        subst here
        rw [localIndex, held]
        rfl
      · rfl
  | some index =>
      refine (localIndex_putLocal ..).trans ?_
      split
      · rename_i here
        rw [here, localIndex, held]
        rfl
      · rfl

theorem resolve_locals {c later : Catalog} {locator : String} {backend : Backend}
    (resolved : c.resolve locator = .ok (later, backend)) : later.locals = c.locals := by
  unfold resolve at resolved
  split at resolved
  · cases resolved
    rfl
  · split at resolved
    · split at resolved
      · cases resolved
        rfl
      · cases resolved
    · cases resolved

theorem resolveAll_locals (c : Catalog) (locators : List String) :
    (c.resolveAll locators).1.locals = c.locals := by
  induction locators generalizing c with
  | nil => rfl
  | cons locator rest ih =>
      rw [resolveAll]
      split
      · rfl
      · rename_i later backend resolved
        exact (ih later).trans (resolve_locals resolved)

end Index.Catalog

namespace Service

/-! ## What an action changes -/

/-- The change that an action makes to the index of that name. -/
def Action.change? (name : String) : Action → Option Change
  | .addDocument changed uri title text =>
      if name = changed then some (.add uri title text) else none
  | .removeDocument changed uri => if name = changed then some (.remove uri) else none
  | _ => none

/-- The changes that a run makes to the index of that name. -/
def history (name : String) (actions : List Action) : List Change :=
  actions.filterMap (Action.change? name)

theorem resolve_locals (s : Service) (locator : String) :
    (s.resolve locator).1.catalog.locals = s.catalog.locals := by
  unfold Service.resolve
  split
  · rename_i catalog backend resolved
    exact Catalog.resolve_locals resolved
  · rfl

theorem openSearch_locals (s : Service) (query : String) (locators : List String) :
    (s.openSearch query locators).1.catalog.locals = s.catalog.locals := by
  rw [openSearch_catalog]
  rcases openSearch_catalog_cases s.catalog query locators with same | resolved
  · rw [same]
  · rw [resolved, Catalog.resolveAll_locals]

theorem parse_locals (s : Service) (query locators : String) :
    (s.parse query locators).1.catalog.locals = s.catalog.locals := by
  unfold Service.parse
  exact openSearch_locals s (normalize query) (splitLocators locators)

theorem startSearch_locals (s : Service) (query locators : String) :
    (s.startSearch query locators).1.catalog.locals = s.catalog.locals := by
  have kept := parse_locals s query locators
  rcases startSearch_fst_cases s query locators with same | ⟨registry, same⟩
  · rw [same]
  · rw [same]
    generalize (s.parse query locators).1 = later at kept ⊢
    exact kept

/-- **An action changes an index as it says** and no other index. -/
theorem localIndex_act (s : Service) (action : Action) (name : String) :
    (s.act action).catalog.localIndex name =
      (action.change? name).elim (s.catalog.localIndex name) (s.catalog.localIndex name).change := by
  have kept (same : (s.act action).catalog.locals = s.catalog.locals) :=
    Catalog.localIndex_of_locals same name
  cases action with
  | register locator describe => exact kept rfl
  | create created => exact Catalog.localIndex_localOrCreate ..
  | addDocument changed uri title text =>
      refine (Catalog.localIndex_addDocument ..).trans ?_
      rw [Action.change?]
      split <;> rfl
  | removeDocument changed uri =>
      refine (Catalog.localIndex_removeDocument ..).trans ?_
      rw [Action.change?]
      split <;> rfl
  | resolve locator => exact kept (by rw [act, resolve_locals])
  | start query locators => exact kept (by rw [act, startSearch_locals])
  | parse query locators => exact kept (by rw [act, parse_locals])
  | askTerm locator term => exact kept (by rw [act, askTerm_catalog, resolve_locals])
  | askDocument locator uri => exact kept (by rw [act, askDocument_fst, resolve_locals])
  | status ref => exact kept rfl
  | result ref => exact kept (by rw [act, result_catalog])
  | remove ref => exact kept (by rw [act, remove_catalog])
  | clear => exact kept rfl
  | complete serial term entries => exact kept rfl
  | abort serial term reason => exact kept rfl
  | drop serial term => exact kept rfl
  | report serial term parts => exact kept rfl
  | abandon serial => exact kept rfl

/-- **After a run an index is what its history leaves.** -/
theorem localIndex_run (link : Link) (actions : List Action) (name : String) :
    ((start link).run actions).catalog.localIndex name = Memory.after (history name actions) := by
  have kept (s : Service) : (s.run actions).catalog.localIndex name =
      (history name actions).foldl Memory.change (s.catalog.localIndex name) := by
    induction actions generalizing s with
    | nil => rfl
    | cons action rest ih =>
        have later := ih (s.act action)
        rw [localIndex_act] at later
        show ((s.act action).run rest).catalog.localIndex name = _
        rw [later, history, history, List.filterMap_cons]
        cases action.change? name <;> rfl
  exact kept (start link)

end Service

end Concordance
