/-
# Concordance.Query.Token -- queries as tokens

A query is a list of operands (words and quoted phrases) with a connective
between any two.  `render` writes tokens back as the text of a query.
-/

namespace Concordance.Query

set_option autoImplicit false

/-- An operand or a connective. -/
inductive Token
  /-- A word. -/
  | term (word : String)
  /-- Words in quotes. -/
  | phrase (words : List String)
  /-- Both sides; written as a blank. -/
  | and
  /-- Either side. -/
  | or
  /-- The left side without the right. -/
  | not
  deriving DecidableEq, Repr

namespace Token

/-- Whether the token stands for documents of its own. -/
def isOperand : Token → Bool
  | .term _ | .phrase _ => true
  | _ => false

/-- The text of a token. -/
def text : Token → String
  | .term word => word
  | .phrase words => "\"" ++ String.intercalate " " words ++ "\""
  | .and => " "
  | .or => " or "
  | .not => " not "

/-- The words that a token looks up. -/
def words : Token → List String
  | .term word => [word]
  | .phrase words => words
  | _ => []

end Token

/-- The text of a query. -/
def render (tokens : List Token) : String := String.join (tokens.map Token.text)

end Concordance.Query
