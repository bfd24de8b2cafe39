import ReachAudit.Address.Ipv6

namespace ReachAudit

inductive SocketAddress where
  | v4 (address : Ipv4) (port : UInt16)
  | v6 (address : Ipv6) (scope : UInt32) (port : UInt16)
  deriving DecidableEq, Repr

namespace SocketAddress

def port? (cs : List Char) : Option UInt16 := (Text.numberBelow? UInt16.size cs).map UInt16.ofNat

def parseV4? (cs : List Char) : Option SocketAddress := do
  let (address, rest) := cs.span (· ≠ ':')
  return .v4 (← Ipv4.parse? address) (← port? (← [':'].isPrefixOf? rest))

def parseV6? (cs : List Char) : Option SocketAddress := do
  let inner ← ['['].isPrefixOf? cs
  let (host, rest) := inner.span (· ≠ ']')
  let port ← port? (← [']', ':'].isPrefixOf? rest)
  let (address, scope) := host.span (· ≠ '%')
  let scope ← if scope = [] then some 0 else Text.numberBelow? UInt32.size scope.tail
  return .v6 (← Ipv6.parse? address) (UInt32.ofNat scope) port

def parse? (s : String) : Option SocketAddress := (parseV4? s.toList).or (parseV6? s.toList)

def display : SocketAddress → String
  | .v4 address port => address.display ++ ":" ++ port.toNat.repr
  | .v6 address scope port =>
    let zone := if scope = 0 then "" else "%" ++ scope.toNat.repr
    "[" ++ address.display ++ zone ++ "]:" ++ port.toNat.repr

end SocketAddress

end ReachAudit
