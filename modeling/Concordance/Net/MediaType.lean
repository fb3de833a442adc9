/-
# Concordance.Net.MediaType -- what kind of text a message holds

A media type is a type, a slash and a subtype, perhaps followed by parameters after
semicolons.  What follows the last plus sign of the subtype is its suffix, which says
in which format the text is.  Case does not matter.
-/
import Concordance.Net.Form

namespace Concordance.Net

set_option autoImplicit false

/-- Characters of names. -/
def isTokenChar (c : Char) : Bool :=
  c.isAlphanum || "!#$%&'*+-.^_|~".toList.contains c || c.toNat = 96

/-- Characters inside a quoted value: those of ASCII that show, and the space. -/
def isQuotedChar (c : Char) : Bool := 31 < c.toNat && c.toNat < 127

/-- What follows a quoted value: the text after the next semicolon, none at the end. -/
def afterQuoted : List Char → Option (List Char)
  | [] => some []
  | ';' :: rest => some rest
  | ' ' :: rest => afterQuoted rest
  | _ => none

/-- Reads a quoted value from behind its first character, and what follows it. -/
def skipQuoted : List Char → Option (List Char)
  | [] => none
  | c :: rest =>
      if c = '\"' then afterQuoted rest else if isQuotedChar c then skipQuoted rest else none

/-- Reads the value of a parameter, and what follows it. A quoted value is not empty: its first
character belongs to it even if it is a quote. -/
def skipValue (s : List Char) : Option (List Char) :=
  match s with
  | '\"' :: c :: rest => if isQuotedChar c then skipQuoted rest else none
  | ['\"'] => none
  | _ =>
      match s.span isTokenChar with
      | (_, []) => some []
      | (_ :: _, ';' :: rest) => some rest
      | _ => none

/-- Whether the characters are parameters; `fuel` bounds their number. -/
def areParameters : Nat → List Char → Bool
  | 0, s => s.isEmpty
  | fuel + 1, s =>
      match s.dropWhile (· = ' ') with
      | [] => true
      | text =>
          match text.span isTokenChar with
          | (_ :: _, '=' :: value) =>
              match skipValue value with
              | some rest => areParameters fuel rest
              | none => false
          | _ => false

/-- A media type without its parameters. -/
structure MediaType where
  type : String
  subtype : String
  suffix : Option String
  deriving DecidableEq, Repr

/-- A subtype cut at its last plus sign, unless the plus sign comes first. -/
def splitSuffix (subtype : List Char) : List Char × Option (List Char) :=
  match subtype.reverse.span (· ≠ '+') with
  | (suffix, _ :: c :: front) => ((c :: front).reverse, some suffix.reverse)
  | _ => (subtype, none)

/-- A media type, with well-formed parameters. -/
def MediaType.ofString? (s : String) : Option MediaType :=
  match s.toList.span isTokenChar with
  | (type@(_ :: _), '/' :: rest) =>
      let (subtype, parameters) := rest.span isTokenChar
      let wellFormed := match subtype, parameters with
        | _, [] => true
        | _ :: _, ';' :: parameters => areParameters parameters.length parameters
        | _, _ => false
      let lower (s : List Char) := String.ofList (s.map Char.toLower)
      if wellFormed then
        let (name, suffix) := splitSuffix subtype
        some { type := lower type, subtype := lower name, suffix := suffix.map lower }
      else none
  | _ => none

/-- Whether a text of that media type is JSON. -/
def MediaType.isJson (m : MediaType) : Bool :=
  m.type = "application" && (m.subtype = "json" || m.suffix = some "json")

end Concordance.Net
