/-
# Concordance.Main -- a service on standard input and output

The options are read from the command line and the environment, the directories
they name are loaded, and then every line of the input is answered with a line.
-/
import Concordance.Http.Line
import Concordance.Http.Serve
import Concordance.Index.Directory
import Concordance.Options.CommandLine

namespace Concordance

open Concordance.Http Concordance.Index Concordance.Text

set_option autoImplicit false

/-- Reads an item of a directory. -/
def readItem (entry : IO.FS.DirEntry) : IO DirectoryItem := do
  if ← entry.path.isDir then return .directory
  try
    return .file (← IO.FS.readBinFile entry.path)
  catch _ => return .unreadable

/-- Lists a directory and reads its items.  They come all at once here, so that a listing is whole or
empty, and a name that is no text comes with replacement characters, under which there is nothing
to read. -/
def readDirectory (path : String) : IO Listing := do
  try
    let directory ← IO.FS.realPath path
    let items ← (← directory.readDir).toList.mapM (fun entry => do
      return (utf8 entry.fileName.toList, ← readItem entry))
    return ⟨items, none⟩
  catch
    | .noFileOrDirectory .. => return ⟨[], some .missing⟩
    | e => return ⟨[], some (.failed e.toString)⟩

/-- Creates the indexes of the options and loads their directories. -/
def loadIndexes (service : Service) (specs : List IndexSpec) : IO Service := do
  let mut catalog := service.catalog
  for spec in specs do
    let (index, loaded) :=
      loadDirectory (catalog.localIndex spec.name) (← readDirectory spec.directory)
    if let .error e := loaded then throw (IO.userError e.message)
    catalog := catalog.putLocal spec.name index
  return { service with catalog }

/-- Answers the lines of the input until it ends. -/
partial def answerLines (service : Service) (input output : IO.FS.Stream) : IO Unit := do
  let line ← input.getLine
  if line.isEmpty then return
  let (service, answer) := serve service (Request.ofLine (line.trimAsciiEnd).toString)
  output.putStrLn (match answer with
    | .ok answer => answer.line
    | .error fault => fault.message)
  output.flush
  answerLines service input output

/-- The wording of a refused command line. -/
def OptionError.message : OptionError → String
  | .missingValue => "a flag has no value"
  | .malformedValue => "a value does not read"
  | .repeated => "a flag comes twice"
  | .unknown => "an argument is no flag"
  | .unneededValue => "a flag takes no value"
  | .help => "flags: " ++ String.intercalate " " (Flag.all.map (fun flag => "--" ++ flag.name))

end Concordance

open Concordance in
/-- Runs a service that reaches no other node. -/
def main (arguments : List String) : IO UInt32 := do
  let environment ← Flag.all.mapM (fun flag => do
    return (flag.variableName, ← IO.getEnv flag.variableName))
  match Options.ofArguments arguments (fun name => (environment.lookup name).join) with
  | .error e => do
      IO.eprintln e.message
      return if e = .help then 0 else 2
  | .ok options => do
      let service := Service.start ⟨.reach (fun _ _ => none), options.attempts⟩
      let service ← loadIndexes service options.indexes
      answerLines service (← IO.getStdin) (← IO.getStdout)
      return 0
