import ReachAudit.Address.Socket
import ReachAudit.Network

namespace ReachAudit.Network

def unreachable : String := "Network is unreachable (os error 101)"

def unresolved : String := "failed to lookup address information: Name or service not known"

def targetHost (target : String) : String :=
  String.ofList ((target.toList.reverse.dropWhile (· ≠ ':')).drop 1).reverse

def isNumeric (host : String) : Bool :=
  (Url.Host.ipv4? host.toList).isSome && host.back.isAlphanum && host.back.toLower ≠ 'x'

/-- A machine without a route to anywhere, itself included. Of all names it knows only its own, and
    whatever is not written as a plain address takes some time to look up. -/
def isolated : Network where
  dial _ target timeout :=
    if (SocketAddress.parse? target).isSome then .failed unreachable
    else if timeout.nanos = 0 then .timedOut
    else if (targetHost target).toLower = "localhost" ∨ isNumeric (targetHost target) then
      .failed unreachable
    else .failed unresolved
  exchange _ _ _ := .undelivered

end ReachAudit.Network
