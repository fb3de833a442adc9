/-
# Concordance.Proofs.MemorySearch -- searching an index in memory

The parts come together: an index holds the words of its documents, a search asks it
for the words of a query, and the operations combine the answers as the query reads.
What comes out is exactly the documents whose words satisfy the query, as they were
when the search was started, and it stays so whatever is done afterwards.
-/
import Concordance.Proofs.Histories
import Concordance.Proofs.Meaning
import Mathlib

namespace Concordance

open Concordance.Index Concordance.Query Concordance.Search

set_option autoImplicit false

/-! ## Operands in a text -/

/-- The operand holds in a text of these words: the word occurs, or the words of the phrase follow
one another. -/
def Query.Token.HoldsIn (words : List String) : Token → Prop
  | .term word => word ∈ words
  | .phrase run => run <:+: words
  | _ => False

/-- The words of the operand follow one another from that place on. -/
def Query.Token.StartsAt (words : List String) (t : Token) (start : Nat) : Prop :=
  t.words <+: words.drop start

theorem cons_prefix_drop_iff {word : String} {run words : List String} {start : Nat} :
    word :: run <+: words.drop start ↔
      words[start]? = some word ∧ run <+: words.drop (start + 1) := by
  by_cases inside : start < words.length
  · rw [List.drop_eq_getElem_cons inside, List.cons_prefix_cons, List.getElem?_eq_getElem inside,
      Option.some.injEq, eq_comm]
  · have beyond : words.length ≤ start := Nat.le_of_not_lt inside
    simp [List.drop_eq_nil_of_le beyond, List.getElem?_eq_none beyond]

/-- An operand holds exactly where it starts somewhere. -/
theorem holdsIn_iff {words : List String} {t : Token} (isOperand : t.isOperand = true) :
    t.HoldsIn words ↔ ∃ start, t.StartsAt words start := by
  have starts (run : List String) : run <:+: words ↔ ∃ start, run <+: words.drop start := by
    rw [List.infix_iff_prefix_suffix]
    constructor
    · rintro ⟨tail, first, last⟩
      rw [List.suffix_iff_eq_drop.1 last] at first
      exact ⟨_, first⟩
    · rintro ⟨start, first⟩
      exact ⟨_, first, List.drop_suffix start words⟩
  cases t with
  | term word => exact (List.singleton_infix_iff word words).symm.trans (starts [word])
  | phrase run => exact starts run
  | and => cases isOperand
  | or => cases isOperand
  | not => cases isOperand

namespace Search

section Memory

variable {index : Memory} {documents : String → Option Document}

/-- What the operands of a query stand for in some documents. -/
def documentSense (documents : String → Option Document) : Sense Token where
  holds t uri := ∃ d, documents uri = some d ∧ t.HoldsIn (textWords d.text)
  places t uri position :=
    ∃ d, documents uri = some d ∧ t.StartsAt (textWords d.text) position.toNat

/-- An operand with a word in it holds in a document exactly when it has a place there. -/
theorem holds_iff_places
    (short : ∀ uri d, documents uri = some d → (textWords d.text).length < UInt32.size) {t : Token}
    (isOperand : t.isOperand = true) (some : t.words ≠ []) {uri : String} :
    (documentSense documents).holds t uri ↔
      ∃ position, (documentSense documents).places t uri position := by
  constructor
  · rintro ⟨d, document, held⟩
    obtain ⟨start, starts⟩ := (holdsIn_iff isOperand).1 held
    obtain ⟨word, rest, cut⟩ := List.exists_cons_of_ne_nil some
    have here := starts
    rw [Token.StartsAt, cut, cons_prefix_drop_iff] at here
    have small := Nat.lt_trans (List.getElem?_eq_some_iff.1 here.1).1 (short uri d document)
    refine ⟨UInt32.ofNat start, d, document, ?_⟩
    rw [UInt32.toNat_ofNat_of_lt' small]
    exact starts
  · rintro ⟨position, d, document, starts⟩
    exact ⟨d, document, (holdsIn_iff isOperand).2 ⟨_, starts⟩⟩

/-- The answers for some words hold a run where the text of the document does. -/
theorem runsFrom_lookup (mirrors : index.Mirrors documents) {uri : String} {d : Document}
    (document : documents uri = some d) (short : (textWords d.text).length < UInt32.size)
    (name : String) (words : List String) (start : Nat) :
    RunsFrom (words.map (fun word => ResultSet.ofEntries (subject word name) (index.lookup word)))
        uri start ↔ words <+: (textWords d.text).drop start := by
  induction words generalizing start with
  | nil => simp [runsFrom_nil]
  | cons word rest ih =>
      rw [List.map_cons, runsFrom_cons, ih, cons_prefix_drop_iff]
      refine and_congr_left fun _ => ?_
      have marks (position : UInt32) := mirrors.lookup_marks uri
        (fun other same => by rw [document] at same; cases same; exact short)
        (subject word name) word position
      constructor
      · rintro ⟨position, marked, rfl⟩
        obtain ⟨other, same, here⟩ := (marks position).1 marked
        rw [document] at same
        cases same
        exact here
      · intro here
        have small := Nat.lt_trans (List.getElem?_eq_some_iff.1 here).1 short
        have exact : (UInt32.ofNat start).toNat = start := UInt32.toNat_ofNat_of_lt' small
        refine ⟨UInt32.ofNat start, (marks _).2 ⟨d, document, ?_⟩, exact⟩
        rw [exact]
        exact here

variable {catalog : Catalog} {name : String}

theorem ask_held_isComplete (catalog : Catalog) (name word : String) :
    (catalog.ask (.held name) word).IsComplete :=
  ⟨(catalog.localIndex name).lookup word, rfl⟩

theorem settled_grow_held (catalog : Catalog) (name : String) (p : Plan) :
    (grow catalog name (.held name) p).Settled :=
  ⟨isDone_grow catalog name (.held name) (ask_held_isComplete catalog name) p,
    faithful_grow catalog name (.held name) p⟩

theorem gives_term_held (catalog : Catalog) (name word : String) :
    (grow catalog name (.held name) (.term word)).Gives
      (ResultSet.ofEntries (subject word name) ((catalog.localIndex name).lookup word)) :=
  Node.gives_of_worksOut rfl (settled_grow_held catalog name (.term word)).done
    ⟨(catalog.localIndex name).lookup word, rfl, rfl⟩

/-- The words of a phrase give together what the phrase makes of their answers. -/
theorem gives_phrase_held (catalog : Catalog) (name query : String) {words : List String}
    (enough : 2 ≤ words.length) :
    ∃ first rest set,
      words.map (fun word => ResultSet.ofEntries (subject word name)
        ((catalog.localIndex name).lookup word)) = first :: rest ∧
      first.Keyed ∧ set = phrase (subject query name) first rest ∧
      (grow catalog name (.held name) (.branch query .phrase (words.map .term))).Gives set := by
  match words, enough with
  | word :: second :: others, _ =>
      refine ⟨_, _, _, rfl, ResultSet.ofEntries_keyed _ _, rfl, ?_⟩
      refine Node.gives_of_worksOut (by rw [memo_grow]; rfl) (settled_grow_held ..).done ?_
      rw [grow_branch]
      refine ⟨(word :: second :: others).map (fun word => ResultSet.ofEntries (subject word name)
        ((catalog.localIndex name).lookup word)), ?_, rfl⟩
      rw [List.map_map, List.forall₂_map_left_iff, List.forall₂_map_right_iff]
      exact List.forall₂_same.2 fun word _ => gives_term_held catalog name word

/-- Every operand of a search in an index finds the documents in whose words it holds. -/
theorem finds_held (mirrors : (catalog.localIndex name).Mirrors documents)
    (short : ∀ uri d, documents uri = some d → (textWords d.text).length < UInt32.size) {p : Plan}
    {t : Token} (sound : p.Sound) (asks : p.Asks t) :
    Finds (documentSense documents) (grow catalog name (.held name) p) t := by
  have runs {uri : String} {d : Document} (document : documents uri = some d)
      (words : List String) (start : Nat) :=
    runsFrom_lookup mirrors document (short uri d document) name words start
  cases asks with
  | term word =>
      refine ⟨_, gives_term_held catalog name word, fun uri => ⟨?_, fun position => ?_⟩⟩
      · exact mirrors.lookup_contains _ word uri
      · rw [mirrors.lookup_marks uri (short uri)]
        refine exists_congr fun d => and_congr_right fun _ => ?_
        show _ ↔ [word] <+: (textWords d.text).drop position.toNat
        rw [cons_prefix_drop_iff]
        simp
  | phrase query words =>
      have enough : 2 ≤ words.length := by
        cases sound with
        | branch _ _ _ _ accepted _ => simpa [Operation.accepts] using accepted
      obtain ⟨first, rest, set, cut, keyed, rfl, gives⟩ :=
        gives_phrase_held catalog name query enough
      have marks (uri : String) (position : UInt32) :
          (phrase (subject query name) first rest).Marks uri position ↔
            (documentSense documents).places (.phrase words) uri position := by
        rw [phrase_marks _ keyed, ← cut]
        cases document : documents uri with
        | some d =>
            rw [runs document]
            simp [documentSense, Token.StartsAt, Token.words, document]
        | none =>
            -- Where there is no document, not even the first word has a place.
            have absent : ¬ (documentSense documents).places (.phrase words) uri position := by
              rintro ⟨d, same, _⟩
              rw [document] at same
              cases same
            refine iff_of_false (fun runs => ?_) absent
            obtain ⟨word, others, rfl⟩ := List.exists_cons_of_length_pos (Nat.lt_of_lt_of_le
              Nat.zero_lt_two enough)
            rw [List.map_cons, runsFrom_cons] at runs
            obtain ⟨⟨start, marked, _⟩, _⟩ := runs
            obtain ⟨d, same, _⟩ := (mirrors.lookup_marks uri (short uri) _ word start).1 marked
            rw [document] at same
            cases same
      refine ⟨_, gives, fun uri => ⟨?_, marks uri⟩⟩
      have some : (Token.phrase words).words ≠ [] :=
        List.ne_nil_of_length_pos (Nat.lt_of_lt_of_le Nat.zero_lt_two enough)
      rw [holds_iff_places short rfl some, phrase_contains _ keyed]
      exact exists_congr fun start => (phrase_marks _ keyed rest uri start).symm.trans (marks uri start)

/-- A search in an index gives what its query means in the documents. -/
theorem gives_held (mirrors : (catalog.localIndex name).Mirrors documents)
    (short : ∀ uri d, documents uri = some d → (textWords d.text).length < UInt32.size)
    {query : String} {tokens : List Token} {p : Plan} (planned : plan query tokens = .ok p) :
    ∃ set, (grow catalog name (.held name) p).Gives set ∧
      Means id (documentSense documents) set tokens := by
  have whole : plan query (tokens.map id) = .ok p := by
    rw [List.map_id]
    exact planned
  refine gives_of_plan id (documentSense documents) (settled_grow_held catalog name p)
    (by rw [shape_grow]; exact whole) ?_
  rw [Answers, operands_grow, List.forall₂_map_left_iff]
  have asked := (List.forall₂_and_left _ _).2 ⟨(plan_sound planned).operands, plan_asks id whole⟩
  exact asked.imp fun _ _ both => finds_held mirrors short both.1 both.2

/-- A document that is stored is wanted for its words, and no other document is wanted. -/
theorem wanted_documents (documents : String → Option Document) (tokens : List Token)
    (uri : String) :
    Wanted id (fun t => (documentSense documents).holds t uri) tokens ↔
      ∃ d, documents uri = some d ∧
        Wanted id (fun t => t.HoldsIn (textWords d.text)) tokens := by
  cases document : documents uri with
  | some d =>
      have same : (fun t => (documentSense documents).holds t uri) =
          fun t => t.HoldsIn (textWords d.text) := by
        funext t
        simp [documentSense, document]
      rw [same]
      simp
  | none =>
      have never (t : Token) : ¬ (documentSense documents).holds t uri := by
        rintro ⟨d, same, _⟩
        rw [document] at same
        cases same
      refine iff_of_false ?_ (by simp)
      rintro ⟨every, _⟩
      obtain ⟨group, isGroup⟩ := List.exists_mem_of_ne_nil _ (groups_ne_nil id tokens)
      obtain ⟨t, _, _, held⟩ := every group isGroup
      exact never t held

end Memory

end Search

/-! ## From a history to a result -/

/-- A query that can be planned is started on an index of the node, and its result is what the tree
of its plan gives there, whatever is done afterwards. -/
theorem startSearch_of_held {s : Service} {name locators raw : String} {tokens : List Token} {p : Plan}
    {set : ResultSet} (listed : s.catalog.backends.find? name = some (.held name))
    (located : splitLocators locators = [name]) (lexed : tokenize (normalize raw) = .ok tokens)
    (planned : plan (normalize raw) tokens = .ok p) (fresh : s.find? raw locators = none)
    (given : (grow s.catalog name (.held name) p).Gives set) :
    ∃ started search, s.startSearch raw locators = (started, .ok search) ∧
      ∀ actions, ((started.run actions).result (.root search)).2 = .ok (some set) := by
  have resolved : s.catalog.resolveAll [name] = (s.catalog, .ok [.held name]) := by
    rw [Catalog.resolveAll, Catalog.resolve_of_find? listed]
    rfl
  have opened := openSearch_of_planned (planQuery_eq_ok_iff.2 ⟨tokens, lexed, planned⟩)
    (List.cons_ne_nil name []) resolved
  obtain ⟨started, starts, found, _⟩ := Service.startSearch_of_opened fresh
    (by rw [located, opened])
  exact ⟨started, _, starts, Service.result_of_gives found given⟩

/-- A search in an index that mirrors some documents is started, and whatever is done afterwards,
its result names the documents that satisfy the query. -/
theorem startSearch_of_mirrors {s : Service} {name locators raw : String}
    {documents : String → Option Document} {tokens : List Token} {p : Plan}
    (mirrors : (s.catalog.localIndex name).Mirrors documents)
    (listed : s.catalog.backends.find? name = some (.held name))
    (short : ∀ uri d, documents uri = some d → (textWords d.text).length < UInt32.size)
    (located : splitLocators locators = [name]) (lexed : tokenize (normalize raw) = .ok tokens)
    (planned : plan (normalize raw) tokens = .ok p) (fresh : s.find? raw locators = none) :
    ∃ started search set, s.startSearch raw locators = (started, .ok search) ∧
      (∀ actions, ((started.run actions).result (.root search)).2 = .ok (some set)) ∧
      ∀ uri, set.contains uri = true ↔ ∃ d, documents uri = some d ∧
        Wanted id (fun t => t.HoldsIn (textWords d.text)) tokens := by
  obtain ⟨set, given, means⟩ := gives_held mirrors short planned
  obtain ⟨started, search, starts, results⟩ :=
    startSearch_of_held listed located lexed planned fresh given
  refine ⟨started, search, set, starts, results, fun uri => ?_⟩
  rw [means.contains, wanted_documents]

/-- **What a search in memory finds.**  In any run documents come to an index of the node and go
from it, and their texts are short.  Then a query that can be planned and is not searched there yet
is started, and whatever is done afterwards, documents added and removed among it, its result names
the documents that the run had left in the index and whose words satisfy the query. -/
theorem startSearch_memory {link : Link} {actions : List Service.Action}
    {name locators raw : String} {tokens : List Token} {p : Plan}
    (listed : ((Service.start link).run actions).catalog.backends.find? name = some (.held name))
    (short : ∀ change ∈ Service.history name actions, change.IsShort)
    (located : splitLocators locators = [name]) (lexed : tokenize (normalize raw) = .ok tokens)
    (planned : plan (normalize raw) tokens = .ok p)
    (fresh : ((Service.start link).run actions).find? raw locators = none) :
    ∃ started search set,
      ((Service.start link).run actions).startSearch raw locators = (started, .ok search) ∧
      (∀ later, ((started.run later).result (.root search)).2 = .ok (some set)) ∧
      ∀ uri, set.contains uri = true ↔
        ∃ d, stored (Service.history name actions) uri = some d ∧
          Wanted id (fun t => t.HoldsIn (textWords d.text)) tokens := by
  have mirrors : (((Service.start link).run actions).catalog.localIndex name).Mirrors
      (stored (Service.history name actions)) := by
    rw [Service.localIndex_run]
    exact Memory.mirrors_after _
  exact startSearch_of_mirrors mirrors listed (fun _ _ => short_of_stored short) located lexed
    planned fresh

/-! ## A search among notes -/

/-- Documents come, one is replaced, and one goes. -/
def noted : List Service.Action :=
  [.create "notes", .addDocument "notes" "a.txt" none "The quick dog",
    .addDocument "notes" "b.txt" none "A quick brown fox, and a dog",
    .addDocument "notes" "a.txt" none "Quick brown foxes", .removeDocument "notes" "c.txt"]

/-- A service after that. -/
def noteTaker : Service := (Service.start ⟨.absent, 1⟩).run noted

/-- A phrase without a word. -/
def quickBrownNotDog : Plan :=
  .branch "\"quick brown\" -dog" .difference
    [.branch "\"quick brown\"" .phrase [.term "quick", .term "brown"], .term "dog"]

theorem history_noted :
    Service.history "notes" noted =
      [.add "a.txt" none "The quick dog", .add "b.txt" none "A quick brown fox, and a dog",
        .add "a.txt" none "Quick brown foxes", .remove "c.txt"] := rfl

theorem short_noted : ∀ change ∈ Service.history "notes" noted, change.IsShort := by
  rw [history_noted]
  simp only [List.forall_mem_cons, Change.IsShort]
  refine ⟨?_, ?_, ?_, ?_⟩
  · cbv
  · cbv
  · cbv
  · simp

theorem tokenize_quickBrownNotDog :
    tokenize (normalize "\"Quick brown\" -dog") =
      .ok [.phrase ["quick", "brown"], .not, .term "dog"] := by
  cbv

theorem plan_quickBrownNotDog :
    plan (normalize "\"Quick brown\" -dog") [.phrase ["quick", "brown"], .not, .term "dog"] =
      .ok quickBrownNotDog := by
  rw [quickBrownNotDog]
  cbv

theorem startSearch_memory_noteTaker :
    noteTaker.catalog.backends.find? "notes" = some (.held "notes") ∧
      (∀ change ∈ Service.history "notes" noted, change.IsShort) ∧
      splitLocators "notes" = ["notes"] ∧
      tokenize (normalize "\"Quick brown\" -dog") =
        .ok [.phrase ["quick", "brown"], .not, .term "dog"] ∧
      plan (normalize "\"Quick brown\" -dog") [.phrase ["quick", "brown"], .not, .term "dog"] =
        .ok quickBrownNotDog ∧
      noteTaker.find? "\"Quick brown\" -dog" "notes" = none ∧
      ∃ started search set,
        noteTaker.startSearch "\"Quick brown\" -dog" "notes" = (started, .ok search) ∧
        (∀ later, ((started.run later).result (.root search)).2 = .ok (some set)) ∧
        ∀ uri, set.contains uri = true ↔
          ∃ d, stored (Service.history "notes" noted) uri = some d ∧
            Wanted id (fun t => t.HoldsIn (textWords d.text))
              [.phrase ["quick", "brown"], .not, .term "dog"] := by
  have listed : noteTaker.catalog.backends.find? "notes" = some (.held "notes") := rfl
  have located : splitLocators "notes" = ["notes"] := by cbv
  have fresh : noteTaker.find? "\"Quick brown\" -dog" "notes" = none := Registry.find?_empty _
  exact ⟨listed, short_noted, located, tokenize_quickBrownNotDog, plan_quickBrownNotDog, fresh,
    startSearch_memory listed short_noted located tokenize_quickBrownNotDog
      plan_quickBrownNotDog fresh⟩

end Concordance
