/-
# Concordance.Query.Plan -- the shape of a search

A plan is a query taken apart, not yet bound to any index.  Exclusions bind
loosest: the first `not` splits a query into what is left without it and the one
operand to exclude.  Then come the groups that `and` separates, and last the
alternatives that `or` separates.  Every part but the whole is named by its own
tokens, written out.
-/
import Concordance.Error
import Concordance.Query.Lexer

namespace Concordance.Query

set_option autoImplicit false

/-- The shape of a search: words to look up, and operations on what they find. -/
inductive Plan
  | term (word : String)
  | branch (query : String) (op : Operation) (children : List Plan)
  deriving Repr

/-- A branch, provided that the operation takes that many children. -/
def Plan.build (query : String) (op : Operation) (children : List Plan) : Except ParseError Plan :=
  if op.accepts children.length then .ok (.branch query op children)
  else .error (.arity op children.length)

/-- The plan of a single operand. -/
def planOperand (query : String) : List Token → Except ParseError Plan
  | [] => .error .emptySubQuery
  | [.term word] => .ok (.term word)
  | [.phrase words] => Plan.build query .phrase (words.map Plan.term)
  | _ => .error (.unsplittable query)

/-- The plan of tokens between which no `not` and no `and` stands. -/
def planAlternatives (query : String) (tokens : List Token) : Except ParseError Plan :=
  if Token.or ∈ tokens then do
    Plan.build query .union
      (← (tokens.splitOn .or).mapM (fun piece => planOperand (render piece) piece))
  else planOperand query tokens

/-- The plan of tokens between which no `not` stands. -/
def planGroups (query : String) (tokens : List Token) : Except ParseError Plan :=
  if Token.and ∈ tokens then do
    Plan.build query .intersection
      (← (tokens.splitOn .and).mapM (fun piece => planAlternatives (render piece) piece))
  else planAlternatives query tokens

/-- What stands before the first `not`, and what stands behind it. -/
def splitNot : List Token → Option (List Token × List Token)
  | [] => none
  | .not :: rest => some ([], rest)
  | t :: rest => (splitNot rest).map (fun parts => (t :: parts.1, parts.2))

theorem splitNot_eq_some {tokens before after : List Token}
    (h : splitNot tokens = some (before, after)) :
    tokens = before ++ .not :: after ∧ Token.not ∉ before := by
  induction tokens generalizing before after with
  | nil => simp [splitNot] at h
  | cons t rest ih =>
      by_cases isNot : t = .not
      · subst isNot
        simp only [splitNot, Option.some.injEq, Prod.mk.injEq] at h
        obtain ⟨rfl, rfl⟩ := h
        simp
      · have step : splitNot (t :: rest) =
            (splitNot rest).map (fun parts => (t :: parts.1, parts.2)) := by
          cases t <;> simp_all [splitNot]
        rw [step, Option.map_eq_some_iff] at h
        obtain ⟨⟨before', after'⟩, found, eq⟩ := h
        simp only [Prod.mk.injEq] at eq
        obtain ⟨rfl, rfl⟩ := eq
        obtain ⟨rfl, absent⟩ := ih found
        exact ⟨rfl, by simp [absent, Ne.symm isNot]⟩

theorem splitNot_eq_none {tokens : List Token} : splitNot tokens = none ↔ Token.not ∉ tokens := by
  induction tokens with
  | nil => simp [splitNot]
  | cons t rest ih => cases t <;> simp_all [splitNot]

/-- The plan of a query from its tokens. -/
def plan (query : String) (tokens : List Token) : Except ParseError Plan :=
  match _h : splitNot tokens with
  | none => planGroups query tokens
  | some (_, []) => .error (.nothingToNegate query)
  | some (before, operand :: after) =>
      if operand.isOperand then do
        let kept ← plan (render (before ++ after)) (before ++ after)
        let excluded ← planOperand (render [operand]) [operand]
        Plan.build query .difference [kept, excluded]
      else .error (.nothingToNegate query)
  termination_by tokens.length
  decreasing_by
    rw [(splitNot_eq_some _h).1]
    simp only [List.length_append, List.length_cons]
    omega

end Concordance.Query
