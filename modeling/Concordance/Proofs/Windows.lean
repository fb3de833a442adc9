/-
# Concordance.Proofs.Windows -- how long a search is live

A search is live under its name from its start until its window ends: until everything
is cleared, its root is removed, or its own result is told (`Ends`).  Nothing else ends
it, whatever is done to its other nodes or to searches of the same name, and once ended
it stays so (`run_live_iff`).

While it is live, whoever starts a search of that name is handed it.  Afterwards the name
is free, and the next query of that name that can be read is opened anew (`Renews`).  A
name can also be that of a query with an at sign, which is handed the live search of
another query, but is refused when that is gone: `a@b` in `c` has the name of `a` in
`b@c`.
-/
import Concordance.Proofs.Dispatching
import Concordance.Proofs.Evictions

namespace Concordance

open Concordance.Data Concordance.Index Concordance.Query Concordance.Search

set_option autoImplicit false

namespace Service

/-! ## The end of a window -/

/-- The action ends the window of a search: it clears everything, removes its root, or is told the
result of its root. -/
def Ends (s : Service) (search : Nat) : Action → Prop
  | .clear => True
  | .remove ref => ref = .root search
  | .result ref => ref = .root search ∧ (s.result ref).2 ≠ .ok none
  | _ => False

/-- One of the actions ends the window of a search. -/
def Ended (s : Service) (search : Nat) : List Action → Prop
  | [] => False
  | action :: rest => s.Ends search action ∨ (s.act action).Ended search rest

theorem result_answer {s : Service} {ref : NodeRef} {n : Node} (placed : s.node? ref = some n) :
    (s.result ref).2 = n.take.2 := by
  unfold Service.result
  rw [placed]

/-- The root of what is live works its result out exactly when it tells one. -/
theorem Orderly.collects_iff {s : Service} (orderly : s.Orderly) {subject : String} {search : Nat}
    (live : s.registry.find? subject = some search) :
    (s.node? (.root search)).any Node.isCollectable = true ↔
      (s.result (.root search)).2 ≠ .ok none := by
  obtain ⟨root, found, _⟩ := orderly.wellFiled.subject live
  rw [result_answer found, found, Option.any_some]
  exact Node.isCollectable_iff (orderly.untaken subject search root live found)

/-- Whatever is filtered out of one search is that search itself. -/
theorem filter_root_eq_none_iff {search : Nat} {ref : NodeRef} :
    (some search).filter (fun search => NodeRef.root search ≠ ref) = none ↔ ref = .root search := by
  rw [Option.filter_some]
  by_cases itself : NodeRef.root search = ref
  · simp [itself]
  · simp [itself, Ne.symm itself]

/-- Whatever ends a window leaves the name free. -/
theorem find?_of_ends {s : Service} (orderly : s.Orderly) {subject : String} {search : Nat}
    (live : s.registry.find? subject = some search) {action : Action}
    (ends : s.Ends search action) : (s.act action).registry.find? subject = none := by
  rw [find?_act orderly.wellFiled]
  cases action with
  | clear => rfl
  | remove ref =>
      have itself : ref = .root search := ends
      rw [liveAfter, live]
      exact filter_root_eq_none_iff.2 itself
  | result ref =>
      obtain ⟨rfl, told⟩ : ref = .root search ∧ (s.result ref).2 ≠ .ok none := ends
      rw [liveAfter, if_pos ((orderly.collects_iff live).2 told), live]
      exact filter_root_eq_none_iff.2 rfl
  | _ => exact absurd ends id

/-- Nothing else ends a window. -/
theorem find?_of_not_ends {s : Service} (orderly : s.Orderly) {subject : String} {search : Nat}
    (live : s.registry.find? subject = some search) {action : Action}
    (goes : ¬ s.Ends search action) : (s.act action).registry.find? subject = some search := by
  have others {ref : NodeRef} (other : ref ≠ .root search) :
      (s.registry.find? subject).filter (fun search => NodeRef.root search ≠ ref) =
        some search := by
    rw [live, Option.filter_some, if_pos (by simpa using Ne.symm other)]
  rw [find?_act orderly.wellFiled]
  cases action with
  | clear => exact absurd trivial goes
  | remove ref => exact others goes
  | result ref =>
      rw [liveAfter]
      split
      · rename_i collects
        refine others ?_
        rintro rfl
        exact goes ⟨rfl, (orderly.collects_iff live).1 collects⟩
      · exact live
  | start query locators =>
      rw [liveAfter]
      split
      · rename_i same
        subst same
        rw [startSearch_of_live live]
        rfl
      · exact live
  | _ => exact live

theorem Extends.known {s later : Service} (extended : s.Extends later) {search : Nat}
    (known : ∃ root, s.node? (.root search) = some root) :
    ∃ root, later.node? (.root search) = some root := by
  obtain ⟨root, found⟩ := known
  obtain ⟨next, foundNext, _⟩ := extended.searches search root found
  exact ⟨next, foundNext⟩

theorem lt_size_of_known {s : Service} {search : Nat}
    (known : ∃ root, s.node? (.root search) = some root) : search < s.searches.size := by
  obtain ⟨root, found⟩ := known
  rw [node?_root] at found
  exact (Array.getElem?_eq_some_iff.1 found).1

/-- A search that is not live under a name does not become so. -/
theorem run_not_live {s : Service} (orderly : s.Orderly) {subject : String} {search : Nat}
    (known : ∃ root, s.node? (.root search) = some root)
    (gone : s.registry.find? subject ≠ some search) (actions : List Action) :
    (s.run actions).registry.find? subject ≠ some search := by
  induction actions generalizing s with
  | nil => exact gone
  | cons action rest ih =>
      refine ih (orderly.act action) ((act_extends s action).known known) fun live => ?_
      rcases live_before_or_new orderly.wellFiled live with before | new
      · exact gone before
      · exact Nat.ne_of_lt (lt_size_of_known known) new

/-- **A live search stays live until its window ends**, and no longer. -/
theorem run_live_iff {s : Service} (orderly : s.Orderly) {subject : String} {search : Nat}
    (live : s.registry.find? subject = some search) (actions : List Action) :
    (s.run actions).registry.find? subject = some search ↔ ¬ s.Ended search actions := by
  induction actions generalizing s with
  | nil => exact iff_of_true live id
  | cons action rest ih =>
      obtain ⟨root, found, _⟩ := orderly.wellFiled.subject live
      by_cases ends : s.Ends search action
      · refine iff_of_false ?_ (not_not_intro (Or.inl ends))
        refine run_not_live (orderly.act action) ((act_extends s action).known ⟨root, found⟩) ?_ rest
        rw [find?_of_ends orderly live ends]
        simp
      · refine (ih (orderly.act action) (find?_of_not_ends orderly live ends)).trans ?_
        exact not_congr (or_iff_right ends).symm

/-! ## After the end -/

/-- A name that is free stays free unless a search of that name is started. -/
theorem find?_act_of_free {s : Service} (orderly : s.Orderly) {subject : String}
    (free : s.registry.find? subject = none) {action : Action}
    (refused : ∀ query locators, action = .start query locators →
      canonicalSubject query locators = subject →
        ∃ e, (s.startSearch query locators).2 = .error e) :
    (s.act action).registry.find? subject = none := by
  rw [find?_act orderly.wellFiled]
  cases action with
  | start query locators =>
      rw [liveAfter]
      split
      · rename_i same
        obtain ⟨e, refusal⟩ := refused query locators rfl same
        rw [refusal]
        rfl
      · exact free
  | result ref =>
      rw [liveAfter, free]
      exact ite_self _
  | remove ref =>
      rw [liveAfter, free]
      rfl
  | clear => rfl
  | _ => exact free

/-- A name that is free stays free until a query of that name is started that can be read. -/
theorem run_free {s : Service} (orderly : s.Orderly) {subject : String}
    (free : s.registry.find? subject = none) {actions : List Action}
    (unread : ∀ query locators, Action.start query locators ∈ actions →
      canonicalSubject query locators = subject → '@' ∈ (normalize query).toList) :
    (s.run actions).registry.find? subject = none := by
  induction actions generalizing s with
  | nil => exact free
  | cons action rest ih =>
      refine ih (orderly.act action) ?_ fun query locators member =>
        unread query locators (List.mem_cons_of_mem _ member)
      refine find?_act_of_free orderly free fun query locators isStart same => ?_
      subst isStart
      have sign := unread query locators List.mem_cons_self same
      subst same
      obtain ⟨e, refusal⟩ := s.parse_of_at_mem locators sign
      exact ⟨e, (startSearch_of_fresh free).trans refusal⟩

/-- A search is started anew, in place of one that is live no more. -/
structure Renews (s : Service) (search : Nat) (query locators : String) : Prop where
  /-- If the query holds no at sign, another search is opened behind all that were. -/
  opened : '@' ∉ (normalize query).toList →
    (s.startSearch query locators).2 = .ok s.searches.size ∧ s.searches.size ≠ search ∧
      s.node? (.root s.searches.size) = none
  /-- If it holds one, it is refused. -/
  refused : '@' ∈ (normalize query).toList → ∃ e, (s.startSearch query locators).2 = .error e
  /-- Either way, it is asked for as if there had been no search of that name. -/
  asks : s.Dispatches (normalize query) (splitLocators locators) (s.startSearch query locators)

/-- Under a name that is free again, what was filed under it is opened anew. -/
theorem renews_of_free {s started : Service} {query locators : String} {search : Nat}
    (filed : started.WellFiled)
    (live : started.find? query locators = some search) (extended : started.Extends s)
    (free : s.find? query locators = none) : s.Renews search query locators where
  opened plain := by
    obtain ⟨own, ownLocators, sameQuery, sameLocators, filed⟩ := filed.filed plain live
    obtain ⟨later, parsed⟩ := (filed.extends extended).parse sameQuery sameLocators
    obtain ⟨root, found, _⟩ := filed.root
    have known := lt_size_of_known (extended.known ⟨root, found⟩)
    refine ⟨?_, (Nat.ne_of_lt known).symm, ?_⟩
    · rw [startSearch_of_fresh free, parsed]
    · rw [node?_root]
      exact Array.getElem?_eq_none (Nat.le_refl _)
  refused sign := by
    obtain ⟨e, refusal⟩ := s.parse_of_at_mem locators sign
    exact ⟨e, (startSearch_of_fresh free).trans refusal⟩
  asks := dispatches_startSearch free

/-! ## Windows -/

/-- The window of a search that was handed out for a query in some locators. -/
structure LiveWindow (started : Service) (query locators : String) (search : Nat) : Prop where
  /-- It is live under that name until its window ends, and never under another. -/
  live : ∀ actions subject, (started.run actions).registry.find? subject = some search ↔
    subject = canonicalSubject query locators ∧ ¬ started.Ended search actions
  /-- Until then it is what everybody is handed who starts a search of that name; nothing changes,
  and nobody is asked. -/
  shared : ∀ actions again more, ¬ started.Ended search actions →
    canonicalSubject again more = canonicalSubject query locators →
      (started.run actions).startSearch again more = (started.run actions, .ok search)
  /-- The first query of that name that is started afterwards, not counting those that cannot be
  read, is opened anew. -/
  renewed : ∀ before ending between again more, ¬ started.Ended search before →
    (started.run before).Ends search ending →
    (∀ other others, Action.start other others ∈ between →
      canonicalSubject other others = canonicalSubject query locators →
        '@' ∈ (normalize other).toList) →
    canonicalSubject again more = canonicalSubject query locators →
      (started.run (before ++ ending :: between)).Renews search again more
  /-- A result or a removal takes no live search away but the one whose root it is of. -/
  others : ∀ actions ref subject other,
    (started.run actions).registry.find? subject = some other → ref ≠ .root other →
      ((started.run actions).result ref).1.registry.find? subject = some other ∧
        ((started.run actions).remove ref).registry.find? subject = some other

/-- What is live under the name of a query is live under no other. -/
theorem Orderly.live_iff {s : Service} (orderly : s.Orderly) {query locators : String}
    {search : Nat} (live : s.find? query locators = some search) (actions : List Action)
    (subject : String) :
    (s.run actions).registry.find? subject = some search ↔
      subject = canonicalSubject query locators ∧ ¬ s.Ended search actions := by
  have found : s.registry.find? (canonicalSubject query locators) = some search := live
  constructor
  · intro laterLive
    obtain ⟨root, there, named⟩ := orderly.wellFiled.subject found
    obtain ⟨next, thereNext, becomes⟩ := (run_extends s actions).searches search root there
    obtain ⟨same, thereSame, laterNamed⟩ := (orderly.run actions).wellFiled.subject laterLive
    rw [thereNext] at thereSame
    cases thereSame
    have name : subject = canonicalSubject query locators := by
      rw [← laterNamed, ← named, Node.subject, Node.subject, becomes.locators,
        Node.query_eq_of_shape becomes.shape]
    rw [name] at laterLive
    exact ⟨name, (run_live_iff orderly found actions).1 laterLive⟩
  · rintro ⟨rfl, goes⟩
    exact (run_live_iff orderly found actions).2 goes

theorem Orderly.liveWindow {started : Service} (orderly : started.Orderly)
    {query locators : String} {search : Nat} (live : started.find? query locators = some search) :
    started.LiveWindow query locators search where
  live := orderly.live_iff live
  shared actions again more goes same := by
    refine startSearch_of_live ?_
    exact (orderly.live_iff live actions _).2 ⟨same, goes⟩
  renewed before ending between again more goes ends unread same := by
    have append : started.run (before ++ ending :: between) =
        ((started.run before).act ending).run between := List.foldl_append
    have laterOrderly := orderly.run before
    have laterLive := (orderly.live_iff live before _).2 ⟨rfl, goes⟩
    have startedLive : started.find? again more = some search := by
      rw [Service.find?, same]
      exact live
    refine renews_of_free orderly.wellFiled startedLive (run_extends started _) ?_
    rw [append, Service.find?, same]
    exact run_free (laterOrderly.act ending) (find?_of_ends laterOrderly laterLive ends) unread
  others actions ref subject other laterLive another := by
    have laterOrderly := orderly.run actions
    have taken : ¬ (started.run actions).Ends other (.result ref) := fun ends => another ends.1
    have removed : ¬ (started.run actions).Ends other (.remove ref) := another
    exact ⟨find?_of_not_ends laterOrderly laterLive taken,
      find?_of_not_ends laterOrderly laterLive removed⟩

/-- **The window of a search.**  In every run, whatever a caller is handed who starts a search is
live until its window ends, and the next search of its name is another one. -/
theorem startSearch_liveWindow (link : Link) (actions : List Action) {query locators : String}
    {started : Service} {search : Nat}
    (handed : ((start link).run actions).startSearch query locators = (started, .ok search)) :
    started.LiveWindow query locators search := by
  have orderly := (run_orderly link actions).act (.start query locators)
  have same : ((start link).run actions).act (.start query locators) = started :=
    congrArg Prod.fst handed
  rw [same] at orderly
  exact orderly.liveWindow (find?_of_startSearch handed)

/-- The indexes `b@c` and `c`, each answered by somebody else. -/
def twoSigns : List Action :=
  [.register "b@c" fun _ => .ok none, .register "c" fun _ => .ok none]

theorem startSearch_collider :
    ((start ⟨.absent, 1⟩).run twoSigns).startSearch "a" "b@c" = (collider, .ok 0) :=
  Prod.ext rfl (by cbv)

theorem startSearch_liveWindow_collider :
    ((start ⟨.absent, 1⟩).run twoSigns).startSearch "a" "b@c" = (collider, .ok 0) ∧
      collider.LiveWindow "a" "b@c" 0 :=
  ⟨startSearch_collider, startSearch_liveWindow ⟨.absent, 1⟩ twoSigns startSearch_collider⟩

theorem canonicalSubject_collider : canonicalSubject "a@b" "c" = canonicalSubject "a" "b@c" := by
  cbv

/-- The first search of the same name after the window opens no other, for its query cannot be
read. -/
theorem startSearch_refused_after_window :
    collider.find? "a" "b@c" = some 0 ∧ collider.Ends 0 (.remove (.root 0)) ∧
      canonicalSubject "a@b" "c" = canonicalSubject "a" "b@c" ∧
      ((collider.act (.remove (.root 0))).startSearch "a@b" "c").2 =
        .error (.parse (.termWord "a@b")) := by
  refine ⟨?_, rfl, canonicalSubject_collider, by cbv⟩
  exact find?_of_startSearch startSearch_collider

end Service

end Concordance
