/-
# Concordance.Index.Directory -- loading plain texts in bulk

Every file of a directory whose name ends in `.txt`, and whose name and bytes are
texts, becomes a document under its file name.  Everything else in the directory is
passed over: other names, subdirectories, files that cannot be read, names and
bytes that are no UTF-8.

A listing may fail before it comes to its end.  What was listed until then is
loaded all the same (`loadDirectory`).
-/
import Concordance.Index.Memory
import Concordance.Text.Blank
import Concordance.Text.Lines
import Concordance.Text.Utf8

namespace Concordance.Index

open Concordance.Data Concordance.Text

set_option autoImplicit false

/-- The name of an item of a directory: bytes, which need not be a text. -/
abbrev FileName := List UInt8

/-- What comes of reading what a name in a directory stands for. -/
inductive DirectoryItem
  | file (bytes : ByteArray)
  | unreadable
  | directory

/-- The byte of a dot. -/
def dotByte : UInt8 := 46

/-- What follows the last dot of a file name, unless the dot comes first. -/
def extension? (name : FileName) : Option FileName :=
  match name.reverse.span (· ≠ dotByte) with
  | (_, []) => none
  | (_, [_]) => none
  | (ending, _ :: _ :: _) => some ending.reverse

/-- The title of a text: what the first line that starts with `Title:` says, or else the first
line with anything on it.  A header that says nothing gives no title. -/
def extractTitle (text : String) : Option String :=
  let all := lines text.toList
  let header := all.findSome? (fun line =>
    if "Title:".toList.isPrefixOf line then some (trimChars (line.drop 6)) else none)
  let first := (all.map trimChars).find? (fun line => !line.isEmpty)
  match header <|> first with
  | some (c :: rest) => some (String.ofList (c :: rest))
  | _ => none

/-- The name and the text of an item that is to be loaded. -/
def loadable? (name : FileName) : DirectoryItem → Option (String × String)
  | .file bytes =>
      if extension? name = some (utf8 "txt".toList) then do
        let uri ← decodeStrict name
        let text ← String.fromUTF8? bytes
        return (uri, text)
      else none
  | .unreadable | .directory => none

/-- Adds the loadable items to the index, one after another, and counts them. -/
def load (index : Memory) (items : List (FileName × DirectoryItem)) : Memory × Nat :=
  items.foldl (fun (index, loaded) (name, item) =>
    match loadable? name item with
    | some (uri, text) => ((index.add uri (extractTitle text) text).1, loaded + 1)
    | none => (index, loaded)) (index, 0)

/-- Why a directory could not be listed, or not to its end. -/
inductive DirectoryError
  | missing
  | failed (reason : String)
  deriving DecidableEq, Repr

/-- The wording of a directory that could not be listed. -/
def DirectoryError.message : DirectoryError → String
  | .missing => "No such file or directory (os error 2)"
  | .failed reason => reason

/-- What was listed of a directory, and why no more of it if the listing failed. -/
structure Listing where
  items : List (FileName × DirectoryItem)
  failure : Option DirectoryError

/-- Loads what is listed of a directory.  The count is given if all of it was listed. -/
def loadDirectory (index : Memory) (listing : Listing) : Memory × Except DirectoryError Nat :=
  let (index, loaded) := load index listing.items
  match listing.failure with
  | none => (index, .ok loaded)
  | some e => (index, .error e)

end Concordance.Index
