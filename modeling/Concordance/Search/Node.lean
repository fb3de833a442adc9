/-
# Concordance.Search.Node -- a search as a tree of lookups

A leaf wraps one lookup of one word in one index.  A branch combines what its
children find.  Every node remembers its status and, once its result has been
taken, the outcome; it hands the same outcome to everybody who asks again.

* `isDone` looks at the leaves from the left and stops at the first that is open
  or has failed.
* `wait` takes the leaves off a stack of nodes and waits for them in turn.
* `parts` adds up the counters of the nodes that `subProgress` lists.
* `take` gives the result.  It combines at most once, and takes the results of the
  children, from the left, as it needs them.
-/
import Concordance.Lookup
import Concordance.Query.Canonical
import Concordance.Search.Combine
import Concordance.Status

namespace Concordance.Search

set_option autoImplicit false

/-- What a node remembers of itself. -/
structure Memo where
  status : Status
  outcome : Option (Except SearchError ResultSet)

/-- What a new node remembers. -/
def Memo.fresh : Memo := ⟨.busy, none⟩

/-- One node of a search, with everything below it. The holder of a leaf is whoever resolves its
lookup, unless it was resolved when it was asked. -/
inductive Node
  | leaf (query locator : String) (holder : Option Nat) (lookup : Lookup (List Entry)) (memo : Memo)
  | branch (query locators : String) (op : Operation) (children : List Node) (memo : Memo)

namespace Node

instance : Inhabited Node := ⟨.branch "" "" .merge [] Memo.fresh⟩

/-! ## What a node is -/

/-- The query that the node answers. -/
def query : Node → String
  | .leaf query _ _ _ _ => query
  | .branch query _ _ _ _ => query

/-- The locators of the indexes that it searches, with spaces between them. -/
def locators : Node → String
  | .leaf _ locator _ _ _ => locator
  | .branch _ locators _ _ _ => locators

/-- The name of the search that the node is. -/
def subject (n : Node) : String := Query.subject n.query n.locators

/-- The digest of the name. -/
def hash (n : Node) : UInt64 := Query.subjectHash n.subject

/-- How the node derives its result. -/
def operation : Node → Operation
  | .leaf .. => .term
  | .branch _ _ op _ _ => op

/-- The nodes right below. -/
def children : Node → List Node
  | .leaf .. => []
  | .branch _ _ _ children _ => children

/-- Whether the node wraps a lookup. -/
def isLeaf : Node → Bool
  | .leaf .. => true
  | .branch .. => false

/-- The lookup of a leaf. -/
def lookup? : Node → Option (Lookup (List Entry))
  | .leaf _ _ _ lookup _ => some lookup
  | .branch .. => none

/-- What the node remembers. -/
def memo : Node → Memo
  | .leaf _ _ _ _ memo => memo
  | .branch _ _ _ _ memo => memo

/-- The node with other memories. -/
def withMemo (memo : Memo) : Node → Node
  | .leaf query locator holder lookup _ => .leaf query locator holder lookup memo
  | .branch query locators op children _ => .branch query locators op children memo

/-- A branch over nodes, provided that the operation takes that many. -/
def build (query locators : String) (op : Operation) (children : List Node) :
    Except ParseError Node :=
  if op = .term then .error .termBranch
  else if op.accepts children.length then .ok (.branch query locators op children Memo.fresh)
  else .error (.arity op children.length)

mutual

/-- The lookups below a node, from the left. -/
def leaves : Node → List (Lookup (List Entry))
  | .leaf _ _ _ lookup _ => [lookup]
  | .branch _ _ _ children _ => leavesOf children

/-- The lookups below the nodes of a list, from the left. -/
def leavesOf : List Node → List (Lookup (List Entry))
  | [] => []
  | n :: rest => leaves n ++ leavesOf rest

end

/-! ## Places in a tree -/

/-- The node at a place: the numbers of the children to go down to. -/
def at? : List Nat → Node → Option Node
  | [], n => some n
  | i :: rest, n => (n.children[i]?).bind (at? rest)

/-- Changes the node at a place. -/
def modify (f : Node → Node) : List Nat → Node → Node
  | [], n => f n
  | i :: rest, .branch query locators op children memo =>
      .branch query locators op (children.modify i (modify f rest)) memo
  | _ :: _, n => n

/-! ## Completion -/

mutual

/-- Whether everything below the node has completed, or the first abort. -/
def isDone : Node → Except SearchError Bool
  | .leaf _ _ _ lookup _ => lookup.isDone
  | .branch _ _ _ children _ => allDone children

/-- Whether everything below the nodes has completed; the first that has not decides. -/
def allDone : List Node → Except SearchError Bool
  | [] => .ok true
  | n :: rest =>
      match isDone n with
      | .ok true => allDone rest
      | other => other

end

/-- What waiting for the lookups in turn would give now: `none` while one is open. -/
def waitAll : List (Lookup (List Entry)) → Option (Except SearchError Unit)
  | [] => some (.ok ())
  | l :: rest =>
      match l.wait with
      | some (.ok ()) => waitAll rest
      | other => other

theorem sizeOf_append (nodes stack : List Node) :
    sizeOf (nodes ++ stack) + 1 = sizeOf nodes + sizeOf stack := by
  induction nodes with
  | nil => simp [Nat.add_comm]
  | cons n rest ih =>
      simp only [List.cons_append, List.cons.sizeOf_spec]
      omega

/-- The lookups below the nodes of a stack, the topmost first: the children of a branch take its
place on the stack. -/
def gather : List Node → List (Lookup (List Entry))
  | [] => []
  | .leaf _ _ _ lookup _ :: stack => lookup :: gather stack
  | .branch _ _ _ children _ :: stack => gather (children ++ stack)
termination_by stack => sizeOf stack
decreasing_by
  · simp only [List.cons.sizeOf_spec, leaf.sizeOf_spec]
    omega
  · have together := sizeOf_append children stack
    simp only [List.cons.sizeOf_spec, branch.sizeOf_spec]
    omega

/-- What waiting for the node would give now. -/
def wait (n : Node) : Option (Except SearchError Unit) := waitAll (gather [n])

/-! ## Progress -/

mutual

/-- The places of the nodes that report the progress of a node: a leaf reports itself, a search of
several indexes reports by index, and any other branch lifts the reports of its children up. -/
def subProgress : Node → List (List Nat)
  | .leaf .. => [[]]
  | .branch _ _ op children _ =>
      if op = .merge then (List.range children.length).map (fun i => [i])
      else liftedProgress 0 children

/-- The places of the reports of nodes that are children number `i` and on. -/
def liftedProgress (i : Nat) : List Node → List (List Nat)
  | [] => []
  | n :: rest =>
      let nested := subProgress n
      (if n.isLeaf || nested.isEmpty then [[i]] else nested.map (i :: ·)) ++
        liftedProgress (i + 1) rest

end

mutual

/-- The counters of a node. -/
def parts : Node → Except Failure Parts
  | .leaf _ _ _ lookup _ => lookup.progress.mapError Failure.search
  | .branch _ _ op children _ =>
      Parts.sum (if op = .merge then partsOf children else liftedParts children)

/-- The counters of nodes, one by one. -/
def partsOf : List Node → List (Except Failure Parts)
  | [] => []
  | n :: rest => parts n :: partsOf rest

/-- The counters that a node reports, one by one. -/
def reportedParts : Node → List (Except Failure Parts)
  | .leaf _ _ _ lookup _ => [lookup.progress.mapError Failure.search]
  | .branch _ _ op children _ =>
      if op = .merge then partsOf children else liftedParts children

/-- The counters that nodes report to the branch above them. -/
def liftedParts : List Node → List (Except Failure Parts)
  | [] => []
  | n :: rest =>
      let nested := reportedParts n
      (if n.isLeaf || nested.isEmpty then [parts n] else nested) ++ liftedParts rest

end

/-! ## Status -/

/-- The node after its status was asked for: a busy node whose lookups have completed is ready. -/
def refresh (n : Node) : Node :=
  match n.isDone with
  | .ok true => if n.memo.status < .ready then n.withMemo { n.memo with status := .ready } else n
  | _ => n

/-- The status as it is told. -/
def status (n : Node) : Status := n.refresh.memo.status

/-! ## Results -/

/-- What a node remembers and answers when its result has been worked out. A fault leaves it
without an outcome. -/
def conclude : Except Failure ResultSet → Memo × Except Failure (Option ResultSet)
  | .ok set => (⟨.done, some (.ok set)⟩, .ok (some set))
  | .error (.search e) => (⟨.combining, some (.error e)⟩, .error (.search e))
  | .error (.fault f) => (⟨.combining, none⟩, .error (.fault f))

/-- An outcome as it is answered. -/
def remembered : Except SearchError ResultSet → Except Failure (Option ResultSet)
  | .ok set => .ok (some set)
  | .error e => .error (.search e)

/-- Whether asking for the result now works it out, rather than remembering or postponing it. -/
def isCollectable (n : Node) : Bool :=
  n.memo.outcome.isNone &&
    match n.isDone with
    | .ok false => false
    | _ => true

/-- The result of a completed lookup. -/
def leafResult (subject : String) (lookup : Lookup (List Entry)) : Except Failure ResultSet :=
  match lookup.result with
  | .error e => .error (.search e)
  | .ok none => .error (.fault (.resultMissing subject))
  | .ok (some entries) => combine .term subject [.ok (ResultSet.ofEntries subject entries)]

mutual

/-- The result, or `none` while a lookup below is open. -/
def take : Node → Node × Except Failure (Option ResultSet)
  | .leaf query locator holder lookup memo =>
      match memo.outcome with
      | some outcome => (.leaf query locator holder lookup memo, remembered outcome)
      | none =>
          match lookup.isDone with
          | .ok false => (.leaf query locator holder lookup memo, .ok none)
          | .ok true =>
              let (memo, answer) := conclude (leafResult (Query.subject query locator) lookup)
              (.leaf query locator holder lookup memo, answer)
          | .error e =>
              let (memo, answer) := conclude (.error (.search e))
              (.leaf query locator holder lookup memo, answer)
  | .branch query locators op children memo =>
      match memo.outcome with
      | some outcome => (.branch query locators op children memo, remembered outcome)
      | none =>
          match allDone children with
          | .ok false => (.branch query locators op children memo, .ok none)
          | .ok true =>
              let (children, results) := takeAll children
              let (memo, answer) := conclude (match results with
                | .ok sets => combine op (Query.subject query locators) (sets.map .ok)
                | .error e => .error e)
              (.branch query locators op children memo, answer)
          | .error e =>
              let (memo, answer) := conclude (.error (.search e))
              (.branch query locators op children memo, answer)

/-- The results of completed nodes; the first failure ends the matter. -/
def takeAll : List Node → List Node × Except Failure (List ResultSet)
  | [] => ([], .ok [])
  | n :: rest =>
      match take n with
      | (n', .error e) => (n' :: rest, .error e)
      | (n', .ok none) => (n' :: rest, .error (.fault (.resultMissing n.subject)))
      | (n', .ok (some set)) =>
          let (rest', results) := takeAll rest
          (n' :: rest', results.map (set :: ·))

end

/-! ## Resolving lookups -/

/-- Whether a lookup is open and asks a holder for a word. -/
def isHeldBy (serial : Nat) (term : Option String) (holder : Option Nat)
    (lookup : Lookup (List Entry)) : Bool :=
  lookup.isOpen && holder = some serial && (term.isNone || term = some lookup.subject)

mutual

/-- Changes every open lookup of a holder, of one word or of any. -/
def onOpen (serial : Nat) (term : Option String)
    (f : Lookup (List Entry) → Lookup (List Entry)) : Node → Node
  | .leaf query locator holder lookup memo =>
      .leaf query locator holder (if isHeldBy serial term holder lookup then f lookup else lookup)
        memo
  | .branch query locators op children memo =>
      .branch query locators op (onOpenAll serial term f children) memo

/-- Changes every open lookup of a holder below the nodes of a list. -/
def onOpenAll (serial : Nat) (term : Option String)
    (f : Lookup (List Entry) → Lookup (List Entry)) : List Node → List Node
  | [] => []
  | n :: rest => onOpen serial term f n :: onOpenAll serial term f rest

end

mutual

/-- How many open lookups of a holder there are, of one word or of any. -/
def openCount (serial : Nat) (term : Option String) : Node → Nat
  | .leaf _ _ holder lookup _ => if isHeldBy serial term holder lookup then 1 else 0
  | .branch _ _ _ children _ => openCountAll serial term children

/-- How many open lookups of a holder there are below the nodes of a list. -/
def openCountAll (serial : Nat) (term : Option String) : List Node → Nat
  | [] => 0
  | n :: rest => openCount serial term n + openCountAll serial term rest

end

end Node

end Concordance.Search
