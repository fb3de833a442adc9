/-
# Concordance.Query.Lexer -- from the text of a query to its tokens

Reading a query takes two steps.  `scan` cuts the text into items: words, quoted
phrases and dashes.  `connect` then puts a connective between any two operands:
`or` and `not` between operands are connectives, a dash excludes the operand it
stands before, and everything else is joined by `and`.  At the start of a query,
at its end, and right after another connective, `or` and `not` are plain words.
-/
import Concordance.Error
import Concordance.Query.Token
import Concordance.Text.Word

namespace Concordance.Query

open Concordance.Text

set_option autoImplicit false

/-! ## Items -/

/-- What a query is made of, before connectives. -/
inductive Item
  | word (text : String)
  | quoted (words : List String)
  | dash
  deriving DecidableEq, Repr

/-- Whether a text goes on with something that is not blank. -/
def goesOn : List Char → Bool
  | [] => false
  | c :: _ => !isBlank c

/-- The words between two quotes. -/
def phraseWords (inside : List Char) : Except ParseError (List String) :=
  let words := (splitBlank inside).map String.ofList
  match words.find? (fun w => !isWord w) with
  | some bad => .error (.phraseWord bad)
  | none => .ok words

/-- The characters up to the next blank or quote. -/
def inWord (c : Char) : Bool := !isBlank c && c ≠ '"'

theorem length_dropWhile_le {α : Type} (p : α → Bool) (l : List α) :
    (l.dropWhile p).length ≤ l.length := by
  induction l with
  | nil => simp
  | cons x rest ih =>
      simp only [List.dropWhile_cons]
      split
      · simp only [List.length_cons]
        omega
      · exact Nat.le_refl _

/-- Cuts a query into items. -/
def scan : List Char → Except ParseError (List Item)
  | [] => .ok []
  | c :: rest =>
      if isBlank c then scan rest
      else if c = '-' then
        if goesOn rest then (scan rest).map (Item.dash :: ·) else .error .danglingDash
      else if c = '"' then
        match _h : rest.dropWhile (· ≠ '"') with
        | [] => .error .unclosedQuote
        | _ :: after =>
            if goesOn after then .error .textAfterQuote
            else
              match phraseWords (rest.takeWhile (· ≠ '"')) with
              | .error e => .error e
              | .ok words => (scan after).map (Item.quoted words :: ·)
      else
        let word := String.ofList (c :: rest.takeWhile inWord)
        let after := rest.dropWhile inWord
        if goesOn after then .error .textBeforeQuote
        else if isWord word then (scan after).map (Item.word word :: ·)
        else .error (.termWord word)
  termination_by s => s.length
  decreasing_by
    · simp
    · simp
    · have := length_dropWhile_le (fun x => decide (x ≠ '"')) rest
      rw [_h] at this
      simp only [List.length_cons] at this ⊢
      omega
    · have := length_dropWhile_le inWord rest
      simp only [List.length_cons]
      omega

/-! ## Connectives -/

/-- What has been read before an item. -/
inductive Before
  /-- Nothing. -/
  | start
  /-- An operand. -/
  | operand
  /-- An operand and a connective. -/
  | connective (token : Token)
  deriving DecidableEq, Repr

/-- The connective to write before the next operand. -/
def Before.link : Before → List Token
  | .start => []
  | .operand => [.and]
  | .connective token => [token]

/-- The connective that a word stands for, if it is one between operands. -/
def connectiveWord? (word : String) : Option Token :=
  if word = "or" then some .or else if word = "not" then some .not else none

/-- Puts connectives between the operands. -/
def connect : Before → List Item → Except ParseError (List Token)
  | .connective _, [] => .error .connectiveLast
  | _, [] => .ok []
  | .operand, .dash :: rest => connect (.connective .not) rest
  | _, .dash :: _ => .error .negationFirst
  | before, .quoted words :: rest =>
      (connect .operand rest).map (fun tokens => before.link ++ .phrase words :: tokens)
  | before, .word word :: rest =>
      match if before = .operand ∧ rest ≠ [] then connectiveWord? word else none with
      | some token => connect (.connective token) rest
      | none => (connect .operand rest).map (fun tokens => before.link ++ .term word :: tokens)

/-- The tokens of a query. -/
def tokenize (query : String) : Except ParseError (List Token) := do
  connect .start (← scan query.toList)

end Concordance.Query
