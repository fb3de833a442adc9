/-
# Concordance.Query.Canonical -- one name for every way to write a search

A search is known by its subject: the query in lower case and without blanks at
either end, an at sign, and the locators of its indexes with single spaces between
them.  The digest of the subject is its second name.
-/
import Concordance.Digest.SipHash
import Concordance.Text.Blank
import Concordance.Text.Lowercase

namespace Concordance.Query

open Concordance.Text

set_option autoImplicit false

/-- The query in lower case, trimmed. -/
def normalize (raw : String) : String := trim (lowercase raw)

/-- Whether a character stands between two locators. -/
def isLocatorBreak (c : Char) : Bool := c = ' ' || c = ';'

/-- The locators in a list that separates them by spaces or semicolons. -/
def splitLocators (raw : String) : List String :=
  ((raw.toList.splitOnP isLocatorBreak).map trimChars).filter (fun piece => !piece.isEmpty)
    |>.map String.ofList

/-- The locators with single spaces between them. -/
def joinLocators (locators : List String) : String := String.intercalate " " locators

/-- The name of a search for a query in the joined locators. -/
def subject (query locators : String) : String := query ++ "@" ++ locators

/-- The digest of a subject. -/
def subjectHash (subject : String) : UInt64 := Digest.hashText subject

/-- The name under which a query and a list of locators are searched, as they are typed. -/
def canonicalSubject (query locators : String) : String :=
  subject (normalize query) (joinLocators (splitLocators locators))

end Concordance.Query
