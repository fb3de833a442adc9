/-
# Concordance.Net.Domain -- domain names

A host is percent-decoded and folded (`foldName`), and cut at its dots.  Each part
has to be a label, the labels must look the same wherever they stand, and the
characters must be free of those that set off a host in an address.  The name is then
written in ASCII.
-/
import Concordance.Net.Domain.Alignment
import Concordance.Net.Domain.Label
import Concordance.Net.Percent

namespace Concordance.Net

open Concordance.Text

set_option autoImplicit false

/-- ASCII characters that no domain name holds. -/
def isForbiddenInDomain (c : Char) : Bool :=
  isControl c || c = ' ' || c = '%' || c = '#' || c = '/' || c = ':' || c = '<' || c = '>' ||
    c = '?' || c = '@' || c = '[' || c = '\\' || c = ']' || c = '^' || c = '|'

/-- The ASCII form of a folded name. -/
def writeDomain (name : List Char) : Option (List Char) :=
  match (name.splitOn '.').mapM Label.ofFolded? with
  | none => none
  | some labels =>
      if labels.any (fun label => label.text.any isForbiddenInDomain) then none
      else if areAligned (labels.map Label.text) then
        some (List.intercalate ['.'] (labels.map Label.written))
      else none

/-- The ASCII form of a domain name as it is written in an address. -/
def readDomain (s : List Char) : Option (List Char) :=
  match decodeStrict (percentDecode (utf8 s)) with
  | none => none
  | some text => writeDomain (foldName text.toList)

end Concordance.Net
