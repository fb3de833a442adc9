/-
# Concordance.Options.IndexSpec -- an index to create, and the directory to fill it from

A specification is written `NAME=DIR`.  A name must be usable as a locator, so it is
not empty and holds no space, semicolon or slash.
-/
import Concordance.Net.Form
import Concordance.Text.Blank

namespace Concordance

open Concordance.Net Concordance.Text

set_option autoImplicit false

/-- An index to create when the service starts. -/
structure IndexSpec where
  name : String
  directory : String
  deriving DecidableEq, Repr

/-- What is wrong with a specification. -/
inductive IndexSpecError
  /-- No equals sign. -/
  | unassigned (text : String)
  /-- A name that is no locator. -/
  | badName (name : String)
  /-- No directory. -/
  | noDirectory (name : String)
  deriving DecidableEq, Repr

/-- The wording of a malformed specification. -/
def IndexSpecError.message : IndexSpecError → String
  | .unassigned text => "expected NAME=DIR, got '" ++ text ++ "'"
  | .badName name => "invalid index name '" ++ name ++ "'"
  | .noDirectory name => "missing directory for index '" ++ name ++ "'"

/-- Whether a trimmed text can name an index. -/
def isIndexName (name : List Char) : Bool :=
  !name.isEmpty && name.all (fun c => c ≠ ' ' ∧ c ≠ ';' ∧ c ≠ '/')

/-- A specification. -/
def IndexSpec.ofString? (text : String) : Except IndexSpecError IndexSpec :=
  match splitOnce '=' text.toList with
  | (_, none) => .error (.unassigned text)
  | (before, some after) =>
      let name := trimChars before
      let directory := trimChars after
      if !isIndexName name then .error (.badName (String.ofList name))
      else if directory.isEmpty then .error (.noDirectory (String.ofList name))
      else .ok ⟨String.ofList name, String.ofList directory⟩

end Concordance
