/-
# Concordance.Options.CommandLine -- how a service is set up

Every option is a flag with a value, written `--flag value` or `--flag=value`, or an
environment variable that counts if the flag is absent.  `--index` may come more than
once, and its value may list several specifications with commas between them.

A value is looked at when the next flag comes or the arguments end, so an argument
that is no flag at all is complained about before the value in front of it.
-/
import Concordance.Net.Numeral
import Concordance.Net.SocketAddress
import Concordance.Options.IndexSpec

namespace Concordance

open Concordance.Net

set_option autoImplicit false

/-! ## Options -/

/-- How a service is set up: where it listens, what it logs, how long it waits for another node and
how often it asks, and the indexes it creates. -/
structure Options where
  bind : SocketAddress
  logLevel : String
  timeoutMs : Nat
  attempts : Nat
  indexes : List IndexSpec
  deriving DecidableEq, Repr

/-- The flags that take a value. -/
inductive Flag
  | bind
  | index
  | logLevel
  | remoteTimeout
  | remoteAttempts
  deriving DecidableEq, Repr

namespace Flag

/-- How a flag is written, without dashes. -/
def name : Flag → String
  | .bind => "bind"
  | .index => "index"
  | .logLevel => "log-level"
  | .remoteTimeout => "remote-timeout-ms"
  | .remoteAttempts => "remote-attempts"

/-- The environment variable that stands in for a flag. -/
def variableName : Flag → String
  | .bind => "SEARCH_BIND"
  | .index => "SEARCH_INDEXES"
  | .logLevel => "SEARCH_LOG"
  | .remoteTimeout => "SEARCH_REMOTE_TIMEOUT_MS"
  | .remoteAttempts => "SEARCH_REMOTE_ATTEMPTS"

/-- Every flag once. -/
def all : List Flag := [.bind, .index, .logLevel, .remoteTimeout, .remoteAttempts]

/-- The flag of that name. -/
def ofName? (s : String) : Option Flag := all.find? (fun flag => flag.name = s)

theorem ofName?_name (flag : Flag) : ofName? flag.name = some flag := by cases flag <;> decide

end Flag

/-- Why there is no set-up. -/
inductive OptionError
  /-- A flag without a value. -/
  | missingValue
  /-- A value that does not read. -/
  | malformedValue
  /-- A flag that comes twice. -/
  | repeated
  /-- An argument that is no flag and no value of one. -/
  | unknown
  /-- A value for a flag that takes none. -/
  | unneededValue
  /-- The explanation of the options was asked for. -/
  | help
  deriving DecidableEq, Repr

/-! ## Values -/

/-- The options that were given so far. -/
structure Given where
  bind : Option SocketAddress
  logLevel : Option String
  timeoutMs : Option Nat
  attempts : Option Nat
  indexes : Option (List IndexSpec)

namespace Given

/-- No options. -/
def nothing : Given := ⟨none, none, none, none, none⟩

/-- A value that reads, or the complaint that it does not. -/
def readValue {α : Type} : Option α → Except OptionError α
  | some value => .ok value
  | none => .error .malformedValue

/-- A 64-bit number. -/
def readNumber (text : String) : Except OptionError Nat :=
  readValue (readCount UInt64.size text.toList)

/-- Specifications with commas between them. -/
def readIndexes (text : String) : Except OptionError (List IndexSpec) :=
  (text.toList.splitOn ',').mapM (fun piece =>
    match IndexSpec.ofString? (String.ofList piece) with
    | .ok spec => .ok spec
    | .error _ => .error .malformedValue)

/-- A value for an option that has none yet. -/
def setOnce {α : Type} (old : Option α) (value : Except OptionError α) :
    Except OptionError (Option α) :=
  if old.isSome then .error .repeated else value.map some

/-- Takes the value of a flag. -/
def assign (g : Given) (flag : Flag) (text : String) : Except OptionError Given :=
  match flag with
  | .bind => do
      return { g with bind := ← setOnce g.bind (readValue (SocketAddress.ofString? text)) }
  | .logLevel => do return { g with logLevel := ← setOnce g.logLevel (.ok text) }
  | .remoteTimeout => do return { g with timeoutMs := ← setOnce g.timeoutMs (readNumber text) }
  | .remoteAttempts => do return { g with attempts := ← setOnce g.attempts (readNumber text) }
  | .index => do
      return { g with indexes := some (g.indexes.getD [] ++ (← readIndexes text)) }

/-- Whether a flag was given. -/
def has (g : Given) : Flag → Bool
  | .bind => g.bind.isSome
  | .index => g.indexes.isSome
  | .logLevel => g.logLevel.isSome
  | .remoteTimeout => g.timeoutMs.isSome
  | .remoteAttempts => g.attempts.isSome

/-- The options, with a default for each that was not given. -/
def complete (g : Given) : Options where
  bind := g.bind.getD (.v4 [127, 0, 0, 1] 6000)
  logLevel := g.logLevel.getD "info"
  timeoutMs := g.timeoutMs.getD 500
  attempts := g.attempts.getD 3
  indexes := g.indexes.getD []

end Given

/-! ## Arguments -/

/-- What an argument is, by itself. -/
inductive Argument
  | option (flag : Flag) (value : Option String)
  | help
  /-- The explanation of the options, with a value. -/
  | helpValue
  /-- Two dashes: no flags from here on. -/
  | stop
  /-- Something with dashes that is no flag. -/
  | unknown
  | plain (text : String)

/-- What an argument is, by itself. -/
def Argument.ofString (text : String) : Argument :=
  match text.toList with
  | ['-', '-'] => .stop
  | '-' :: '-' :: rest =>
      let (name, value) := splitOnce '=' rest
      if name = "help".toList then (if value.isSome then .helpValue else .help)
      else
        match Flag.ofName? (String.ofList name) with
        | some flag => .option flag (value.map String.ofList)
        | none => .unknown
  | '-' :: 'h' :: _ => .help
  | '-' :: _ :: _ => .unknown
  | _ => .plain text

/-- Takes a flag that was begun before, with its value if that has come. -/
def Given.settle (g : Given) : Option (Flag × Option String) → Except OptionError Given
  | none => .ok g
  | some (_, none) => .error .missingValue
  | some (flag, some value) => g.assign flag value

/-- Reads arguments; `begun` is a flag that is not taken yet, with its value if that has come. -/
def readArguments (g : Given) (begun : Option (Flag × Option String)) :
    List String → Except OptionError Given
  | [] => g.settle begun
  | text :: rest =>
      match Argument.ofString text with
      | .option flag none => do readArguments (← g.settle begun) (some (flag, none)) rest
      | .option flag (some value) => do
          let g ← g.settle begun
          readArguments (← g.assign flag value) none rest
      | .help => do
          let _ ← g.settle begun
          .error .help
      | .helpValue => .error .unneededValue
      | .stop => if rest.isEmpty then g.settle begun else .error .unknown
      | .unknown => .error .unknown
      | .plain text =>
          match begun with
          | some (flag, none) => readArguments g (some (flag, some text)) rest
          | _ => .error .unknown

/-- Takes the variables of the flags that were not given. -/
def readEnvironment (environment : String → Option String) (g : Given) :
    List Flag → Except OptionError Given
  | [] => .ok g
  | flag :: rest =>
      match environment flag.variableName with
      | some value =>
          if g.has flag then readEnvironment environment g rest
          else do readEnvironment environment (← g.assign flag value) rest
      | none => readEnvironment environment g rest

/-- The options of a command line. -/
def Options.ofArguments (arguments : List String) (environment : String → Option String) :
    Except OptionError Options := do
  let given ← readArguments Given.nothing none arguments
  let given ← readEnvironment environment given Flag.all
  return given.complete

end Concordance
