/-
# Concordance.Net.Form -- names and values in the query of an address

A form is written `name=value&name=value`, a space as a plus sign and everything
else percent-encoded.  Reading is lenient: empty parts are passed over, a part
without an equals sign is a name with an empty value, and bytes that are no text
become replacement characters.
-/
import Concordance.Net.Percent

namespace Concordance.Net

open Concordance.Text

set_option autoImplicit false

/-- A name or a value as it stands in a form. -/
def formEncode (s : String) : String :=
  String.ofList (s.toList.flatMap (fun c => if c = ' ' then ['+'] else percentChar encodedInForm c))

/-- The name or value that stands in a form. -/
def formDecode (s : List Char) : String :=
  String.ofList
    (decodeLossy (percentDecode (utf8 (s.map (fun c => if c = '+' then ' ' else c)))))

/-- The text before the first `sep`, and the text behind it. -/
def splitOnce (sep : Char) (s : List Char) : List Char × Option (List Char) :=
  match s.span (· ≠ sep) with
  | (before, []) => (before, none)
  | (before, _ :: after) => (before, some after)

/-- The names and values of a form. -/
def readForm (s : List Char) : List (String × String) :=
  ((s.splitOn '&').filter (fun part => !part.isEmpty)).map (fun part =>
    let (name, value) := splitOnce '=' part
    (formDecode name, formDecode (value.getD [])))

/-- The form of one name and value. -/
def formPair (name value : String) : String := formEncode name ++ "=" ++ formEncode value

end Concordance.Net
