/-
# Concordance.Proofs.Meaning -- a tree of operations as one formula

A search is a tree of unions, intersections and differences, nested by the planner.
What it gives can be said without the tree: `gives_of_plan` shows that a search
gives the documents that the flat reading of its query wants (`Query.Wanted`), with
the positions of the operands that are kept.

The proof follows the planner's stages.  The sets of the operands are taken as
given, so nothing here depends on how they were found.
-/
import Concordance.Proofs.Planting
import Mathlib

namespace Concordance.Search

open Concordance.Index Concordance.Query

set_option autoImplicit false

universe u

/-! ## Settled searches -/

/-- A search that is done, and whose memories are justified. -/
structure Node.Settled (n : Node) : Prop where
  done : n.isDone = .ok true
  faithful : n.Faithful

theorem Node.Settled.ofChildren {n : Node} (settled : n.Settled) :
    ∀ child ∈ n.children, child.Settled := by
  intro child member
  refine ⟨?_, settled.faithful.ofChildren child member⟩
  have done := settled.done
  cases n with
  | leaf query locator holder lookup memo => cases member
  | branch query locators op children memo => exact Node.allDone_eq_ok_true_iff.1 done child member

/-! ## What operands stand for -/

/-- What items stand for: the documents in which they hold, and the positions at which they do. -/
structure Sense (α : Type u) where
  holds : α → String → Prop
  places : α → String → UInt32 → Prop

/-- Items stand for the sets that were found for them. -/
def Sense.ofSets {α : Type u} (found : α → ResultSet) : Sense α :=
  ⟨fun a uri => (found a).contains uri = true, fun a => (found a).Marks⟩

section Items

variable {α : Type u} (tok : α → Token) (sense : Sense α)

/-- The node gives what the item stands for. -/
def Finds (n : Node) (a : α) : Prop :=
  ∃ set, n.Gives set ∧ ∀ uri, (set.contains uri = true ↔ sense.holds a uri) ∧
    ∀ position, set.Marks uri position ↔ sense.places a uri position

/-- The operands of a search find the items, in turn. -/
def Answers (n : Node) (items : List α) : Prop := List.Forall₂ (Finds sense) n.operands items

theorem answers_ofSets {found : α → ResultSet} {n : Node} {items : List α}
    (given : List.Forall₂ (fun operand a => operand.Gives (found a)) n.operands items) :
    Answers (Sense.ofSets found) n items :=
  given.imp fun _ a gives => ⟨found a, gives, fun _ => ⟨Iff.rfl, fun _ => Iff.rfl⟩⟩

/-- The set holds whatever an operand among the items holds. -/
structure HoldsAny (set : ResultSet) (items : List α) : Prop where
  keyed : set.Keyed
  contains : ∀ uri, set.contains uri = true ↔ SomeHolds tok (fun a => sense.holds a uri) items
  marks : ∀ uri position, set.Marks uri position ↔
    SomeHolds tok (fun a => sense.places a uri position) items

/-- The set holds the documents that the items want, with the positions of the operands that are
kept. -/
structure Means (set : ResultSet) (items : List α) : Prop where
  keyed : set.Keyed
  contains : ∀ uri, set.contains uri = true ↔ Wanted tok (fun a => sense.holds a uri) items
  marks : ∀ uri position, set.Marks uri position ↔
    Wanted tok (fun a => sense.holds a uri) items ∧
      SomeHolds tok (fun a => sense.places a uri position) (kept tok items)

/-! ## Operands -/

theorem operands_of_asks {n : Node} {t : Token} (asks : n.shape.Asks t) : n.operands = [n] := by
  generalize shape : n.shape = p at asks
  cases asks with
  | term word =>
      obtain ⟨_, _, _, _, rfl⟩ := Node.shape_eq_term_iff.1 shape
      rfl
  | phrase query words =>
      obtain ⟨_, _, _, rfl, _⟩ := Node.shape_eq_branch_iff.1 shape
      simp [Node.operands]

theorem gives_of_planOperand {query : String} {items : List α} {n : Node} (faithful : n.Faithful)
    (planned : planOperand query (items.map tok) = .ok n.shape)
    (answers : Answers sense n (operands tok items)) :
    ∃ set, n.Gives set ∧ HoldsAny tok sense set items := by
  obtain ⟨_, a, rfl, isOperand, asks⟩ := planOperand_operands tok _ planned
  have only : operands tok [a] = [a] := List.filter_eq_self.2 (by simpa using isOperand)
  rw [Answers, operands_of_asks asks, only] at answers
  cases answers with
  | cons finds _ =>
      obtain ⟨set, given, means⟩ := finds
      refine ⟨set, given, faithful.gives_keyed given, ?_, ?_⟩
      · intro uri
        simp [SomeHolds, isOperand, (means uri).1]
      · intro uri position
        simp [SomeHolds, isOperand, (means uri).2]

/-! ## Unions and intersections -/

theorem length_operands {n : Node} {items : List α} (asked : AsksInTurn tok n.shape items) :
    n.operands.length = items.length := by
  rw [← List.length_map Node.shape, Node.shape_operands]
  exact asked.length_eq

/-- The children of a search that was cut at a connective give what their pieces mean. -/
theorem gives_of_pieces {connective : Token} (joins : connective.isOperand = false)
    {f : List Token → Except ParseError Plan} {items : List α} {children : List Node}
    (each : List.Forall₂ (fun piece child => f piece = .ok child)
      ((items.map tok).splitOn connective) (children.map Node.shape))
    (settled : ∀ child ∈ children, child.Settled)
    (answers : List.Forall₂ (Finds sense)
      (children.flatMap Node.operands) (operands tok items))
    (asks : ∀ piece p, f (piece.map tok) = .ok p → AsksInTurn tok p (operands tok piece))
    (step : ∀ (piece : List α) (child : Node), child.Settled →
      f (piece.map tok) = .ok child.shape → Answers sense child (operands tok piece) →
      ∃ set, child.Gives set ∧ HoldsAny tok sense set piece) :
    ∃ sets, List.Forall₂ Node.Gives children sets ∧
      List.Forall₂ (fun piece set => HoldsAny tok sense set piece)
        (items.splitOnP (fun a => decide (tok a = connective))) sets := by
  rw [map_splitOn, List.forall₂_map_left_iff, List.forall₂_map_right_iff] at each
  rw [operands_splitOnP tok joins] at answers
  generalize items.splitOnP (fun a => decide (tok a = connective)) = pieces at each answers ⊢
  induction each with
  | nil => exact ⟨[], .nil, .nil⟩
  | @cons piece child pieces others planned _ ih =>
      rw [List.flatMap_cons, List.flatMap_cons] at answers
      obtain ⟨first, rest⟩ :=
        forall₂_append_split answers (length_operands tok (asks piece _ planned))
      obtain ⟨set, given, holds⟩ := step piece child (settled child List.mem_cons_self) planned first
      obtain ⟨sets, allGiven, allHold⟩ :=
        ih (fun other member => settled other (List.mem_cons_of_mem _ member)) rest
      exact ⟨set :: sets, .cons given allGiven, .cons holds allHold⟩

theorem gives_of_planAlternatives {query : String} {items : List α} {n : Node}
    (settled : n.Settled) (planned : planAlternatives query (items.map tok) = .ok n.shape)
    (answers : Answers sense n (operands tok items)) :
    ∃ set, n.Gives set ∧ HoldsAny tok sense set items := by
  rcases planAlternatives_eq_ok_iff.1 planned with ⟨_, single⟩ | ⟨_, plans, each, enough, branch⟩
  · exact gives_of_planOperand tok sense settled.faithful single answers
  · obtain ⟨locators, children, memo, rfl, rfl⟩ := Node.shape_eq_branch_iff.1 branch
    rw [Answers, Node.operands_branch (by simp)] at answers
    obtain ⟨sets, given, holds⟩ := gives_of_pieces tok sense rfl each settled.ofChildren answers
      (fun _ _ => planOperand_asks tok)
      (fun piece child settled => gives_of_planOperand tok sense settled.faithful)
    have keyed : ∀ s ∈ sets, s.Keyed := forall_of_forall₂ holds fun _ _ _ holds => holds.keyed
    have several : 2 ≤ sets.length := by
      rw [← given.length_eq]
      simpa using enough
    refine ⟨_, Node.gives_branch (by simp) settled.faithful settled.done given
      (combineSets_union (Or.inl rfl) _ several), union_keyed _ keyed, ?_, ?_⟩
    · intro uri
      rw [union_contains _ keyed, someHolds_splitOnP tok .or rfl]
      exact (exists_iff_of_forall₂ holds fun _ _ holds => (holds.contains uri).symm).symm
    · intro uri position
      rw [union_marks _ keyed, someHolds_splitOnP tok .or rfl]
      exact (exists_iff_of_forall₂ holds fun _ _ holds => (holds.marks uri position).symm).symm

/-- What holds any of some items without exclusions and without `and` is what they want. -/
theorem HoldsAny.means {set : ResultSet} {items : List α} (any : HoldsAny tok sense set items)
    (noNot : ∀ a ∈ items, tok a ≠ .not) (noAnd : ∀ a ∈ items, tok a ≠ .and) :
    Means tok sense set items := by
  have whole : items.splitOnP (fun a => decide (tok a = .and)) = [items] := by
    rw [List.splitOnP_eq_singleton]
    simpa using noAnd
  have wanted (uri : String) : Wanted tok (fun a => sense.holds a uri) items ↔
      SomeHolds tok (fun a => sense.holds a uri) items := by
    rw [wanted_of_no_not tok noNot, whole, List.forall_mem_singleton]
  refine ⟨any.keyed, ?_, ?_⟩
  · intro uri
    rw [wanted, any.contains]
  · intro uri position
    rw [wanted, kept_of_no_not tok noNot, any.marks]
    constructor
    · intro placed
      have marked := (any.marks uri position).2 placed
      exact ⟨(any.contains uri).1 (ResultSet.contains_of_marks marked), placed⟩
    · exact And.right

theorem gives_of_planGroups {query : String} {items : List α} {n : Node}
    (noNot : ∀ a ∈ items, tok a ≠ .not) (settled : n.Settled)
    (planned : planGroups query (items.map tok) = .ok n.shape)
    (answers : Answers sense n (operands tok items)) :
    ∃ set, n.Gives set ∧ Means tok sense set items := by
  rcases planGroups_eq_ok_iff.1 planned with ⟨absent, single⟩ | ⟨_, plans, each, enough, branch⟩
  · obtain ⟨set, given, holds⟩ := gives_of_planAlternatives tok sense settled single answers
    refine ⟨set, given, holds.means tok sense noNot ?_⟩
    intro a member isAnd
    exact absent (List.mem_map.2 ⟨a, member, isAnd⟩)
  · obtain ⟨locators, children, memo, rfl, rfl⟩ := Node.shape_eq_branch_iff.1 branch
    rw [Answers, Node.operands_branch (by simp)] at answers
    obtain ⟨sets, given, holds⟩ := gives_of_pieces tok sense rfl each settled.ofChildren answers
      (fun _ _ => planAlternatives_asks tok)
      (fun piece child settled => gives_of_planAlternatives tok sense settled)
    have keyed : ∀ s ∈ sets, s.Keyed := forall_of_forall₂ holds fun _ _ _ holds => holds.keyed
    have several : 2 ≤ sets.length := by
      rw [← given.length_eq]
      simpa using enough
    obtain ⟨first, rest, rfl⟩ := List.exists_cons_of_ne_nil
      (List.ne_nil_of_length_pos (Nat.lt_of_lt_of_le Nat.zero_lt_two several))
    have firstKeyed := keyed first List.mem_cons_self
    have combines := combineSets_intersection (Query.subject query locators) several
    have contains (uri : String) : (∀ s ∈ first :: rest, s.contains uri = true) ↔
        Wanted tok (fun a => sense.holds a uri) items := by
      rw [wanted_of_no_not tok noNot]
      exact (forall_iff_of_forall₂ holds fun _ _ holds => (holds.contains uri).symm).symm
    refine ⟨_, Node.gives_branch (by simp) settled.faithful settled.done given combines,
      select_keyed _ _ firstKeyed, ?_, ?_⟩
    · intro uri
      rw [intersection_contains _ firstKeyed, contains]
    · intro uri position
      rw [intersection_marks _ firstKeyed, contains, kept_of_no_not tok noNot,
        someHolds_splitOnP tok .and rfl]
      exact and_congr_right fun _ =>
        (exists_iff_of_forall₂ holds fun _ _ holds => (holds.marks uri position).symm).symm

/-! ## Exclusions -/

/-- **What a search gives.**  A search that is done gives the documents that its query wants, with
the positions of the operands that the query keeps. -/
theorem gives_of_plan {query : String} {items : List α} {n : Node} (settled : n.Settled)
    (planned : plan query (items.map tok) = .ok n.shape)
    (answers : Answers sense n (askingOrder tok items)) :
    ∃ set, n.Gives set ∧ Means tok sense set items := by
  -- What an exclusion is taken out of is searched for by the first child.
  refine plan_ok_induction (motive := fun tokens p => ∀ (items : List α) (n : Node),
    items.map tok = tokens → n.shape = p → n.Settled → Answers sense n (askingOrder tok items) →
    ∃ set, n.Gives set ∧ Means tok sense set items) ?_ ?_ planned items n rfl rfl settled answers
  · rintro query _ _ absent grouped items n rfl rfl settled answers
    have noNot := forall_ne_not_of_notMem tok absent
    rw [askingOrder_of_no_not tok noNot] at answers
    exact gives_of_planGroups tok sense noNot settled grouped answers
  · intro query before after operand kept excluded absent rest keptGives single items n same branch
      settled answers
    obtain ⟨front, sign, a, back, rfl, isNot, rfl, rfl, rfl, noNot⟩ :=
      map_eq_first_not tok same absent
    obtain ⟨locators, children, memo, rfl, shapes⟩ := Node.shape_eq_branch_iff.1 branch
    obtain ⟨left, others, rfl, rfl, last⟩ := List.map_eq_cons_iff.1 shapes
    obtain ⟨right, rfl, rfl⟩ := List.map_eq_singleton_iff.1 last
    have leftSettled := settled.ofChildren left List.mem_cons_self
    rw [← List.map_append] at rest
    obtain ⟨_, b, one, _, asks⟩ := planOperand_operands tok [a] single
    cases one
    rw [Answers, askingOrder_first_not tok noNot isNot, Node.operands_branch (by simp),
      List.flatMap_cons, List.flatMap_cons, List.flatMap_nil, List.append_nil,
      operands_of_asks asks] at answers
    obtain ⟨leftAnswers, rightAnswers⟩ :=
      forall₂_append_split answers (length_operands tok (plan_asks tok rest))
    cases rightAnswers with
    | cons rightFinds _ =>
        obtain ⟨other, rightGiven, otherMeans⟩ := rightFinds
        obtain ⟨set, given, means⟩ := keptGives _ left List.map_append rfl leftSettled leftAnswers
        refine ⟨_, Node.gives_branch (by simp) settled.faithful settled.done
          (.cons given (.cons rightGiven .nil)) rfl, select_keyed _ _ means.keyed, ?_, ?_⟩
        · intro uri
          rw [difference_contains _ means.keyed, means.contains, (otherMeans uri).1,
            wanted_first_not tok noNot isNot]
        · intro uri position
          rw [difference_marks _ means.keyed, means.marks, (otherMeans uri).1,
            wanted_first_not tok noNot isNot,
            kept_first_not tok noNot isNot, and_right_comm]

end Items

/-! ## Several indexes -/

/-- A search with the shape of an opened one has the plan's shape below each index. -/
theorem shape_perIndex {catalog : Catalog} {query : String} {p : Plan}
    {indexes : List (String × Backend)} {n : Node}
    (shape : n.shape = (growSearch catalog query p indexes).shape) :
    (n.perIndex indexes.length).map Node.shape = List.replicate indexes.length p := by
  rw [shape_growSearch] at shape
  unfold Node.perIndex
  split at shape
  · rename_i one
    rw [if_pos one, one, ← shape]
    rfl
  · rename_i several
    rw [if_neg several]
    obtain ⟨locators, children, memo, rfl, shapes⟩ := Node.shape_eq_branch_iff.1 shape
    exact shapes

theorem settled_perIndex {n : Node} (settled : n.Settled) (count : Nat) :
    ∀ part ∈ n.perIndex count, part.Settled := by
  intro part member
  unfold Node.perIndex at member
  split at member
  · rw [List.mem_singleton.1 member]
    exact settled
  · exact settled.ofChildren part member

/-- Searches that all follow one plan each give what the query means in the sets that were found
for them. -/
theorem gives_of_parts {α : Type u} (tok : α → Token) {query : String} {items : List α} {p : Plan}
    {parts : List Node} (found : Nat → α → ResultSet) (planned : plan query (items.map tok) = .ok p)
    (shaped : ∀ part ∈ parts, part.shape = p) (settled : ∀ part ∈ parts, part.Settled)
    (answers : ∀ (i : Nat) (part : Node), parts[i]? = some part →
      List.Forall₂ (fun operand a => operand.Gives (found i a)) part.operands
        (askingOrder tok items)) :
    ∃ sets : Nat → ResultSet,
      List.Forall₂ Node.Gives parts ((List.range parts.length).map sets) ∧
      ∀ i < parts.length, Means tok (.ofSets (found i)) (sets i) items := by
  have each : ∀ i, ∃ set, ∀ part, parts[i]? = some part →
      part.Gives set ∧ Means tok (.ofSets (found i)) set items := by
    intro i
    cases here : parts[i]? with
    | none => exact ⟨default, fun part isPart => by cases isPart⟩
    | some part =>
        have member := List.mem_of_getElem? here
        have follows : plan query (items.map tok) = .ok part.shape := by
          rw [shaped part member]
          exact planned
        obtain ⟨set, given, means⟩ := gives_of_plan tok (.ofSets (found i)) (settled part member)
          follows (answers_ofSets (answers i part here))
        exact ⟨set, fun other same => by cases same; exact ⟨given, means⟩⟩
  choose sets gives using each
  refine ⟨sets, ?_, fun i small => (gives i _ (List.getElem?_eq_getElem small)).2⟩
  rw [List.forall₂_iff_get]
  refine ⟨by simp, fun i small _ => ?_⟩
  simp only [List.get_eq_getElem, List.getElem_map, List.getElem_range]
  exact (gives i _ (List.getElem?_eq_getElem small)).1

/-- A settled search gives together what it gives in each index. -/
theorem gives_perIndex {catalog : Catalog} {query : String} {p : Plan}
    {indexes : List (String × Backend)} (named : indexes ≠ []) {n : Node}
    (shape : n.shape = (growSearch catalog query p indexes).shape) (settled : n.Settled)
    {sets : List ResultSet}
    (given : List.Forall₂ Node.Gives (n.perIndex indexes.length) sets)
    (keyed : ∀ s ∈ sets, s.Keyed) :
    ∃ set, n.Gives set ∧ ∀ uri,
      (set.contains uri = true ↔ ∃ s ∈ sets, s.contains uri = true) ∧
        ∀ position, set.Marks uri position ↔ ∃ s ∈ sets, s.Marks uri position := by
  have count : sets.length = indexes.length := by
    rw [← given.length_eq, ← List.length_map Node.shape, shape_perIndex shape,
      List.length_replicate]
  by_cases one : indexes.length = 1
  · obtain ⟨only, rfl⟩ := List.length_eq_one_iff.1 (count.trans one)
    rw [Node.perIndex, if_pos one] at given
    cases given with
    | cons gives _ => exact ⟨only, gives, fun uri => ⟨by simp, by simp⟩⟩
  · rw [Node.perIndex, if_neg one] at given
    rw [shape_growSearch, if_neg one] at shape
    obtain ⟨locators, children, memo, rfl, _⟩ := Node.shape_eq_branch_iff.1 shape
    have several : 2 ≤ sets.length := by
      have some := List.length_pos_iff.2 named
      omega
    exact ⟨_, Node.gives_branch (by simp) settled.faithful settled.done given
      (combineSets_union (Or.inr rfl) _ several),
      fun uri => ⟨union_contains _ keyed uri, union_marks _ keyed uri⟩⟩

/-- **What a query means**, whoever answers its lookups.  Every query that can be planned opens a
search in all of its indexes, and the operands of the search ask for the operands of the query.
Once the search is done, let `found i place` be the set that the operand at a place of the query
gives in index number `i`.  The search then gives the documents that the query wants in some index,
with the positions that the kept operands give them in the indexes where they are wanted. -/
theorem openSearch_means {catalog later : Catalog} {query : String} {tokens : List Token} {p : Plan}
    {locators : List String} {backends : List Backend} (lexed : tokenize query = .ok tokens)
    (planned : plan query tokens = .ok p) (named : locators ≠ [])
    (resolved : catalog.resolveAll locators = (later, .ok backends)) :
    ∃ root, (openSearch catalog query locators).search = .ok root ∧ root.Faithful ∧
      (root.perIndex locators.length).map Node.locators = locators ∧
      (∀ part ∈ root.perIndex locators.length,
        List.Forall₂ (fun operand item => operand.shape.Asks item.1) part.operands
          (askingOrder Prod.fst tokens.zipIdx)) ∧
      ∀ (n : Node) (found : Nat → Nat → ResultSet), n.shape = root.shape → n.Settled →
        (∀ (i : Nat) (part : Node), (n.perIndex locators.length)[i]? = some part →
          List.Forall₂ (fun operand item => operand.Gives (found i item.2)) part.operands
            (askingOrder Prod.fst tokens.zipIdx)) →
        ∃ set, n.Gives set ∧ ∀ uri,
          (set.contains uri = true ↔ ∃ i < locators.length,
            Wanted Prod.fst (fun item => (found i item.2).contains uri = true) tokens.zipIdx) ∧
          ∀ position, set.Marks uri position ↔ ∃ i < locators.length,
            Wanted Prod.fst (fun item => (found i item.2).contains uri = true) tokens.zipIdx ∧
            SomeHolds Prod.fst (fun item => (found i item.2).Marks uri position)
              (kept Prod.fst tokens.zipIdx) := by
  have zipped : (locators.zip backends).length = locators.length := by
    rw [List.length_zip, resolveAll_length resolved, Nat.min_self]
  have indexes : locators.zip backends ≠ [] := by
    rw [← List.length_pos_iff, zipped]
    exact List.length_pos_iff.2 named
  have readable : plan query (tokens.zipIdx.map Prod.fst) = .ok p := by
    rw [List.zipIdx_map_fst]
    exact planned
  have opened := openSearch_of_planned (planQuery_eq_ok_iff.2 ⟨tokens, lexed, planned⟩) named resolved
  refine ⟨_, by rw [opened], faithful_growSearch .., ?_, ?_, ?_⟩
  · rw [← zipped, perIndex_growSearch, List.map_map]
    have locate : (fun index : String × Backend => (grow later index.1 index.2 p).locators) =
        Prod.fst := funext fun index => locators_grow ..
    show (locators.zip backends).map (fun index => (grow later index.1 index.2 p).locators) = _
    rw [locate, List.map_fst_zip (Nat.le_of_eq (resolveAll_length resolved).symm)]
  · rw [← zipped, perIndex_growSearch]
    intro part member
    obtain ⟨index, _, rfl⟩ := List.mem_map.1 member
    have asks := plan_asks Prod.fst readable
    rw [AsksInTurn, ← shape_grow later index.1 index.2 p, ← Node.shape_operands,
      List.forall₂_map_left_iff] at asks
    exact asks
  · intro n found shape settled answers
    rw [← zipped] at answers ⊢
    have shapes := shape_perIndex shape
    have count : (n.perIndex (locators.zip backends).length).length =
        (locators.zip backends).length := by
      rw [← List.length_map Node.shape, shapes, List.length_replicate]
    obtain ⟨sets, given, means⟩ := gives_of_parts Prod.fst
      (fun i (item : Token × Nat) => found i item.2) readable
      (fun part member => List.eq_of_mem_replicate (shapes ▸ List.mem_map_of_mem member))
      (settled_perIndex settled _) answers
    rw [count] at given means
    have inRange {P : ResultSet → Prop} :
        (∃ s ∈ (List.range (locators.zip backends).length).map sets, P s) ↔
          ∃ i < (locators.zip backends).length, P (sets i) := by
      simp
    obtain ⟨set, gives, together⟩ := gives_perIndex indexes shape settled given (by
      intro s member
      obtain ⟨i, small, rfl⟩ := List.mem_map.1 member
      exact (means i (List.mem_range.1 small)).keyed)
    refine ⟨set, gives, fun uri => ⟨?_, fun position => ?_⟩⟩
    · rw [(together uri).1, inRange]
      exact exists_congr fun i => and_congr_right fun small => (means i small).contains uri
    · rw [(together uri).2, inRange]
      exact exists_congr fun i => and_congr_right fun small => (means i small).marks uri position

/-! ## A search in two indexes -/

/-- The lookups of two indexes are answered by somebody else. -/
def twoHolders : Catalog :=
  ((Catalog.empty ⟨.absent, 1⟩).register "near" (.external 0 fun _ => .ok none)).register "far"
    (.external 1 fun _ => .ok none)

/-- One word without another. -/
def catNotDog : Plan := .branch "cat -dog" .difference [.term "cat", .term "dog"]

/-- What an index answers for the word at a place of the query. -/
def heard : Nat → Nat → List Entry
  | 0, 0 => [.ofOffsets "cat" "a.txt" [3], .ofOffsets "cat" "b.txt" [1]]
  | 0, 2 => [.ofOffsets "dog" "b.txt" [4]]
  | 1, 0 => [.ofOffsets "cat" "a.txt" [7]]
  | _, _ => []

/-- The search for the one word without the other when all lookups have been answered. -/
def catNotDogHeard : Node :=
  growSearch twoHolders "cat -dog" catNotDog
      [("near", .external 0 fun _ => .ok none), ("far", .external 1 fun _ => .ok none)]
    |>.onOpen 0 (some "cat") (·.complete (heard 0 0))
    |>.onOpen 0 (some "dog") (·.complete (heard 0 2))
    |>.onOpen 1 (some "cat") (·.complete (heard 1 0))
    |>.onOpen 1 (some "dog") (·.complete (heard 1 2))

/-- The sets that the answers make. -/
def heardSet (i place : Nat) : ResultSet :=
  ResultSet.ofEntries (subject (if place = 0 then "cat" else "dog") (if i = 0 then "near" else "far"))
    (heard i place)

theorem becomes_catNotDogHeard :
    (growSearch twoHolders "cat -dog" catNotDog
      [("near", .external 0 fun _ => .ok none), ("far", .external 1 fun _ => .ok none)]).Becomes
      catNotDogHeard :=
  (((Node.onOpen_becomes ..).trans (Node.onOpen_becomes ..)).trans (Node.onOpen_becomes ..)).trans
    (Node.onOpen_becomes ..)

theorem tokenize_catNotDog : tokenize "cat -dog" = .ok [.term "cat", .not, .term "dog"] := by cbv

theorem plan_catNotDog :
    plan "cat -dog" [.term "cat", .not, .term "dog"] = .ok catNotDog := by
  rw [catNotDog]
  cbv

theorem settled_catNotDogHeard : catNotDogHeard.Settled :=
  ⟨by rfl, becomes_catNotDogHeard.faithful (faithful_growSearch ..)⟩

theorem openSearch_means_catNotDog :
    tokenize "cat -dog" = .ok [.term "cat", .not, .term "dog"] ∧
      plan "cat -dog" [.term "cat", .not, .term "dog"] = .ok catNotDog ∧
      ["near", "far"] ≠ [] ∧
      twoHolders.resolveAll ["near", "far"] = (twoHolders,
        .ok [.external 0 fun _ => .ok none, .external 1 fun _ => .ok none]) ∧
      catNotDogHeard.Settled ∧
      ∃ set, catNotDogHeard.Gives set ∧ ∀ uri,
        (set.contains uri = true ↔ ∃ i < 2, Wanted Prod.fst
          (fun item => (heardSet i item.2).contains uri = true)
          [(.term "cat", 0), (.not, 1), (.term "dog", 2)]) := by
  have resolved : twoHolders.resolveAll ["near", "far"] = (twoHolders,
      .ok [.external 0 fun _ => .ok none, .external 1 fun _ => .ok none]) := rfl
  refine ⟨tokenize_catNotDog, plan_catNotDog, by simp, resolved, settled_catNotDogHeard, ?_⟩
  obtain ⟨root, opened, _, _, _, means⟩ :=
    openSearch_means tokenize_catNotDog plan_catNotDog (by simp) resolved
  rw [openSearch_of_planned (planQuery_eq_ok_iff.2 ⟨_, tokenize_catNotDog, plan_catNotDog⟩)
    (by simp) resolved] at opened
  cases opened
  obtain ⟨set, given, holds⟩ := means catNotDogHeard heardSet becomes_catNotDogHeard.shape
    settled_catNotDogHeard (by
      intro i part here
      match i with
      | 0 =>
        cases here
        exact .cons rfl (.cons rfl .nil)
      | 1 =>
        cases here
        exact .cons rfl (.cons rfl .nil)
      | i + 2 => cases here)
  exact ⟨set, given, fun uri => (holds uri).1⟩

end Concordance.Search
