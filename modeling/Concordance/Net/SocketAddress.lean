/-
# Concordance.Net.SocketAddress -- an address and a port to listen on

An IPv4 address is followed by a colon and a port.  An IPv6 address stands in
brackets, perhaps with a scope number after a percent sign.
-/
import Concordance.Net.Form
import Concordance.Net.Ip

namespace Concordance.Net

set_option autoImplicit false

/-- Where to listen. -/
inductive SocketAddress
  | v4 (bytes : List Nat) (port : Nat)
  | v6 (pieces : List Nat) (scope : Nat) (port : Nat)
  deriving DecidableEq, Repr

namespace SocketAddress

/-- A port, perhaps with leading zeros. -/
def readPort (s : List Char) : Option Nat := readBounded 10 UInt16.size s

/-- An address in brackets, after the opening one. -/
def readBracketed (s : List Char) : Option SocketAddress :=
  match splitOnce ']' s with
  | (inside, some (':' :: port)) =>
      let (address, scope) := splitOnce '%' inside
      match readIpv6 address, readPort port, scope with
      | some pieces, some port, none => some (.v6 pieces 0 port)
      | some pieces, some port, some scope =>
          (readBounded 10 UInt32.size scope).map (fun scope => .v6 pieces scope port)
      | _, _, _ => none
  | _ => none

/-- An address and a port. -/
def ofString? (s : String) : Option SocketAddress :=
  match s.toList with
  | '[' :: rest => readBracketed rest
  | address =>
      match splitOnce ':' address with
      | (address, some port) =>
          match readIpv4 address, readPort port with
          | some bytes, some port => some (.v4 bytes port)
          | _, _ => none
      | _ => none

/-- The text of an IPv6 address; one that stands for an IPv4 address shows it. -/
def showPieces (pieces : List Nat) : String :=
  match pieces with
  | [0, 0, 0, 0, 0, 0xffff, high, low] =>
      "::ffff:" ++ showIpv4 [high / 256, high % 256, low / 256, low % 256]
  | _ => showIpv6 pieces

/-- The text of an address and a port. -/
def text : SocketAddress → String
  | .v4 bytes port => showIpv4 bytes ++ ":" ++ toString port
  | .v6 pieces scope port =>
      "[" ++ showPieces pieces ++ (if scope = 0 then "" else "%" ++ toString scope) ++ "]:" ++
        toString port

end SocketAddress

end Concordance.Net
