/-
# Concordance.Net.Url -- addresses of the web

An address has a scheme, perhaps a host and a port, a path, and perhaps a query and
a fragment.  The web's own schemes (`Scheme.web`) always have a host and a path that
starts with a slash; they take a backslash for a slash and any number of slashes
before the host.  Credentials before the host are read over.

Reading brings an address into one form: dot segments of the path are resolved, which
lead nowhere out of a drive (`parentPath`), characters are percent-encoded where the
part of the address asks for it, and the scheme's own port is dropped.
-/
import Concordance.Error
import Concordance.Net.Domain
import Concordance.Net.Form
import Concordance.Net.Ip

namespace Concordance.Net

set_option autoImplicit false

/-! ## Parts -/

/-- How the rest of an address is to be read. -/
inductive SchemeKind
  | web
  | file
  | other
  deriving DecidableEq, Repr

/-- The port that a scheme's addresses have unless they say otherwise. -/
def defaultPort (scheme : String) : Option Nat :=
  [("http", 80), ("https", 443), ("ws", 80), ("wss", 443), ("ftp", 21)].lookup scheme

/-- The kind of a scheme. -/
def SchemeKind.ofName (scheme : String) : SchemeKind :=
  if scheme = "file" then .file else if (defaultPort scheme).isSome then .web else .other

/-- Whether a character divides a path. -/
def SchemeKind.isSlash (kind : SchemeKind) (c : Char) : Bool :=
  c = '/' || (c = '\\' && kind ≠ .other)

/-- The machine that an address names. -/
inductive Host
  | name (text : String)
  | v4 (bytes : List Nat)
  | v6 (pieces : List Nat)
  deriving DecidableEq, Repr

/-- The text of a host. -/
def Host.text : Host → String
  | .name text => text
  | .v4 bytes => showIpv4 bytes
  | .v6 pieces => "[" ++ showIpv6 pieces ++ "]"

/-- An address. A host that is empty is no host. -/
structure Url where
  scheme : String
  host : Option Host
  port : Option Nat
  path : String
  query : Option String
  fragment : Option String
  deriving DecidableEq, Repr

/-! ## Hosts and ports -/

/-- Characters that no host holds, even where names are not domain names. -/
def isForbiddenInHost (c : Char) : Bool :=
  c.toNat = 0 || c = ' ' || c = '#' || c = '/' || c = ':' || c = '<' || c = '>' || c = '?' ||
    c = '@' || c = '[' || c = '\\' || c = ']' || c = '^' || c = '|'

/-- An IPv6 address, after its opening bracket. -/
def readBracketedHost (s : List Char) : Except AddressError Host :=
  if s.getLast? = some ']' then
    match readIpv6 s.dropLast with
    | some pieces => .ok (.v6 pieces)
    | none => .error .ipv6
  else .error .ipv6

/-- A domain name, or an IPv4 address if it ends in a number. -/
def readDomainHost (s : List Char) : Except AddressError Host :=
  match readDomain s with
  | none => .error .domain
  | some [] => .error .emptyHost
  | some name =>
      if endsInNumber name then
        match readLenientIpv4 name with
        | some bytes => .ok (.v4 bytes)
        | none => .error .ipv4
      else .ok (.name (String.ofList name))

/-- A host of a scheme of that kind. -/
def readHost (kind : SchemeKind) (s : List Char) : Except AddressError (Option Host) :=
  match kind, s with
  | .web, [] => .error .emptyHost
  | _, [] => .ok none
  | _, '[' :: rest => (readBracketedHost rest).map some
  | .other, _ =>
      if s.any isForbiddenInHost then .error .hostCharacter
      else .ok (some (.name (String.ofList (percentEncode isControl s))))
  | _, _ => (readDomainHost s).map some

/-- Divides at the first colon that is not in brackets. -/
def splitPort (inside : Bool) : List Char → List Char × Option (List Char)
  | [] => ([], none)
  | c :: rest =>
      if c = ':' ∧ inside = false then ([], some rest)
      else
        let (host, port) := splitPort (c = '[' || (inside && c ≠ ']')) rest
        (c :: host, port)

/-- A port, or none if it is empty or the scheme's own, and what follows it: a backslash ends a
port. -/
def readUrlPort (scheme : String) (s : List Char) :
    Except AddressError (Option Nat × List Char) :=
  let (digits, rest) := s.span Char.isDigit
  if !rest.isEmpty && rest.head? ≠ some '\\' then .error .port
  else if digits.isEmpty then .ok (none, rest)
  else
    match readBounded 10 UInt16.size digits with
    | some port => .ok (if defaultPort scheme = some port then none else some port, rest)
    | none => .error .port

/-- The credentials before the last at sign, if there is one, and what stands behind it. -/
def splitCredentials (s : List Char) : Option (List Char) × List Char :=
  match s.reverse.span (· ≠ '@') with
  | (host, _ :: credentials) => (some credentials.reverse, host.reverse)
  | (_, []) => (none, s)

/-- Whether credentials need a host behind them. A colon alone is no name and no password; nothing
at all is let pass only at the very end of an address (`followed` says that it is not the end). -/
def needsHost (followed : Bool) (credentials : Option (List Char)) : Bool :=
  match credentials with
  | none => false
  | some [] => followed
  | some credentials => credentials ≠ [':']

/-- Host and port, perhaps after credentials, and what follows the port. -/
def readAuthority (scheme : String) (kind : SchemeKind) (followed : Bool) (s : List Char) :
    Except AddressError (Option Host × Option Nat × List Char) := do
  let (credentials, address) := splitCredentials s
  let (hostText, portText) := splitPort false address
  let host ← readHost kind hostText
  if host.isNone && (portText.isSome || needsHost followed credentials) then .error .emptyHost
  let (port, rest) ← readUrlPort scheme (portText.getD [])
  return (host, port, rest)

/-! ## Paths -/

/-- Tabs and line breaks, which count for nothing in an address. -/
def isBreak (c : Char) : Bool := c = '\t' || c = '\n' || c = '\r'

/-- A text without tabs and line breaks. -/
def withoutBreaks (s : List Char) : List Char := s.filter (fun c => !isBreak c)

/-- A percent-encoded dot counts as a dot. -/
def plainDots : List Char → List Char
  | '%' :: '2' :: 'e' :: rest => '.' :: plainDots rest
  | '%' :: '2' :: 'E' :: rest => '.' :: plainDots rest
  | c :: rest => c :: plainDots rest
  | [] => []

/-- Whether the characters are the name of a drive. -/
def isDrive : List Char → Bool
  | [letter, mark] => letter.isAlpha && (mark = ':' || mark = '|')
  | _ => false

/-- One segment up; a path that ends in the name of a drive stays where it is. -/
def parentPath (path : List (List Char)) : List (List Char) :=
  if path.getLast?.any isDrive then path else path.dropLast

/-- A drive that a tab or a line break cuts off from the rest of its segment, and that rest. -/
def cutDrive? (segment : List Char) : Option (List Char × List Char) :=
  match segment.dropWhile isBreak with
  | letter :: more =>
      match more.dropWhile isBreak with
      | ':' :: gap :: rest =>
          if letter.isAlpha && isBreak gap && !(withoutBreaks rest).isEmpty then
            some ([letter, ':'], withoutBreaks rest)
          else none
      | _ => none
  | [] => none

/-- What a segment puts behind a path. The first segment of a file's path may name a drive, which
is then written with a colon, and is a segment of its own if it is cut off. -/
def placedSegments (kind : SchemeKind) (path : List (List Char)) (segment : List Char) :
    List (List Char) :=
  let plain := withoutBreaks segment
  if kind = .file ∧ path.isEmpty then
    match cutDrive? segment, plain with
    | some (drive, rest), _ => [drive, percentEncode encodedInPath rest]
    | none, [letter, '|'] =>
        if letter.isAlpha then [[letter, ':']] else [percentEncode encodedInPath plain]
    | none, _ => [percentEncode encodedInPath plain]
  else [percentEncode encodedInPath plain]

/-- Follows segments from a path; dots stay or go up, and leave a slash at the end. -/
def followSegments (kind : SchemeKind) (path : List (List Char)) :
    List (List Char) → List (List Char)
  | [] => path
  | segment :: rest =>
      let dots := plainDots (withoutBreaks segment)
      if dots = ['.', '.'] then
        let up := parentPath path
        if rest.isEmpty then up ++ [[]] else followSegments kind up rest
      else if dots = ['.'] then
        if rest.isEmpty then path ++ [[]] else followSegments kind path rest
      else followSegments kind (path ++ placedSegments kind path segment) rest

/-- The path of a text, with or without a slash in front. -/
def readPath (kind : SchemeKind) (s : List Char) : String :=
  let segments := match s.splitOnP kind.isSlash with
    | [] :: first :: rest => first :: rest
    | segments => segments
  String.ofList ((followSegments kind [] segments).flatMap ('/' :: ·))

/-! ## Whole addresses -/

/-- The characters of an address: no control characters or spaces at its ends. -/
def addressChars (s : String) : List Char :=
  let isOuter (c : Char) := decide (c.toNat ≤ 32)
  ((s.toList.dropWhile isOuter).reverse.dropWhile isOuter).reverse

/-- The scheme in lower case, and what follows its colon. -/
def splitScheme (s : List Char) : Option (String × List Char) :=
  let inScheme (c : Char) := c.isAlphanum || c = '+' || c = '-' || c = '.'
  match s.span inScheme with
  | (first :: more, ':' :: rest) =>
      if first.isAlpha then some (String.ofList ((first :: more).map Char.toLower), rest) else none
  | _ => none

/-- What stands before the query and fragment, the query, and the fragment. -/
def splitTail (s : List Char) : List Char × Option (List Char) × Option (List Char) :=
  let (front, fragment) := splitOnce '#' s
  let (body, query) := splitOnce '?' front
  (body, query, fragment)

/-- The query of an address of a kind of scheme. -/
def showQuery (kind : SchemeKind) (query : List Char) : String :=
  String.ofList (percentEncode (if kind = .other then encodedInQuery else encodedInSpecialQuery) query)

/-- The fragment of an address. -/
def showFragment (fragment : List Char) : String :=
  String.ofList (percentEncode encodedInFragment fragment)

/-- What follows two slashes. -/
def afterSlashes? (kind : SchemeKind) (s : List Char) : Option (List Char) :=
  match s.dropWhile isBreak with
  | a :: more =>
      match more.dropWhile isBreak with
      | b :: rest => if kind.isSlash a && kind.isSlash b then some rest else none
      | [] => none
  | [] => none

/-- The part of an address between its scheme and its query: host, port and path. Only that of a
file may hold tabs and line breaks. `isLast` says that there is neither query nor fragment. -/
def readBody (scheme : String) (kind : SchemeKind) (isLast : Bool) (s : List Char) :
    Except AddressError (Option Host × Option Nat × String) :=
  match kind with
  | .web => do
      let (authority, path) := (s.dropWhile kind.isSlash).span (fun c => !kind.isSlash c)
      let (host, port, _) ← readAuthority scheme kind true authority
      return (host, port, readPath kind path)
  | .file =>
      match afterSlashes? kind s with
      | some rest => do
          let (name, path) := rest.span (fun c => !kind.isSlash c)
          let name := withoutBreaks name
          if isDrive name then return (none, none, readPath kind rest)
          let host ← readHost kind name
          return (if host = some (.name "localhost") then none else host, none, readPath kind path)
      | none => .ok (none, none, readPath kind (s.dropWhile isBreak))
  | .other =>
      match s with
      | '/' :: '/' :: rest => do
          let (authority, path) := rest.span (· ≠ '/')
          let followed := !isLast || !path.isEmpty
          let (host, port, more) ← readAuthority scheme kind followed authority
          let path := more ++ path
          return (host, port, if path.isEmpty then "" else readPath kind path)
      | '/' :: _ => .ok (none, none, readPath kind s)
      | _ => .ok (none, none, String.ofList (percentEncode isControl s))

/-- What stands between the scheme and the query of an address, with its tabs and line breaks. -/
def fileBody (s : List Char) : List Char := (splitTail ((s.dropWhile (· ≠ ':')).drop 1)).1

namespace Url

/-- An address that stands on its own. -/
def ofString? (text : String) : Except AddressError Url :=
  match splitScheme (withoutBreaks (addressChars text)) with
  | none => .error .relative
  | some (scheme, rest) => do
      let kind := SchemeKind.ofName scheme
      let (body, query, fragment) := splitTail rest
      let body := if kind = .file then fileBody (addressChars text) else body
      let (host, port, path) ← readBody scheme kind (query.isNone && fragment.isNone) body
      return { scheme, host, port, path, query := query.map (showQuery kind),
               fragment := fragment.map showFragment }

/-- The address of a path, with query and fragment, on the machine of another address. -/
def withPath (base : Url) (text : String) : Url :=
  let kind := SchemeKind.ofName base.scheme
  let (path, query, fragment) := splitTail (withoutBreaks (addressChars text))
  { base with path := readPath kind path, query := query.map (showQuery kind),
              fragment := fragment.map showFragment }

/-- The address with one more name and value in its query. -/
def withField (url : Url) (name value : String) : Url :=
  let pair := formPair name value
  { url with query := some (match url.query with
      | some "" | none => pair
      | some old => old ++ "&" ++ pair) }

/-- Scheme, host and port as text. -/
def machineText (url : Url) : String :=
  url.scheme ++ ":" ++
    (match url.host with
      | some host => "//" ++ host.text
      | none => if url.scheme = "file" then "//" else "") ++
    (match url.port with
      | some port => ":" ++ toString port
      | none => "")

/-- The origin of an address as text: its scheme and machine if the scheme is the web's, and the
origin of the address inside it if it is one of a blob. Any other address has none. `depth` bounds
how many addresses of blobs are inside each other. -/
def originText (depth : Nat) (url : Url) : String :=
  match depth with
  | 0 => "null"
  | depth + 1 =>
      if SchemeKind.ofName url.scheme = .web then url.machineText
      else if url.scheme = "blob" then
        match ofString? url.path with
        | .ok inner => originText depth inner
        | .error _ => "null"
      else "null"

/-- The address of the origin. Each address of a blob is longer than the one inside it, so there
are no more of them than characters. -/
def origin? (url : Url) : Except AddressError Url :=
  ofString? (url.originText (url.path.length + 1))

/-- The text of an address. -/
def text (url : Url) : String :=
  url.machineText ++ url.path ++
    (match url.query with
      | some query => "?" ++ query
      | none => "") ++
    (match url.fragment with
      | some fragment => "#" ++ fragment
      | none => "")

end Url

end Concordance.Net
