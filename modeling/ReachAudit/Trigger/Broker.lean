import ReachAudit.Network
import ReachAudit.Probe.Direct
import ReachAudit.Trigger
import ReachAudit.Url.Query
import ReachAudit.Url.Reader

namespace ReachAudit.Trigger

inductive Broker where
  | machine (host : String) (port : Nat)
  | socket (path : String)
  deriving DecidableEq, Repr

namespace Broker

def defaultPort : Nat := 6379

def isDatabase (cs : List Char) : Bool :=
  let digits := match cs with
    | '+' :: rest => rest
    | '-' :: rest => rest
    | _ => cs
  let bound := if cs.head? = some '-' then UInt64.size / 2 + 1 else UInt64.size / 2
  (Text.numberBelow? bound digits).isSome

def isDatabasePath (path : String) : Bool :=
  let cs := Text.trimEnds (· = '/') path.toList
  cs = [] || isDatabase cs

def isText (escaped : String) : Bool := (Url.percentDecodeText? escaped.toList).isSome

def protocols : List String := ["2", "resp2", "3", "resp3"]

/-- Whether a setting passes, if the query of an address holds it. The last one of its name
    counts. -/
def settingFits (u : Url) (name : String) (fits : String → Bool) : Bool :=
  (u.queryPairs.reverse.find? (·.1 = name)).all (fits ·.2)

def isSocketAddress (u : Url) : Bool :=
  let isOwn := u.host?.all (· = .domain "localhost")
  match u.path with
  | .segments names => isOwn && names ≠ []
  | .rootless _ => false

def hostName : Url.Host → String
  | .domain name => name
  | .ipv4 address => address.display
  | .ipv6 address => address.display

def parse? (s : String) : Option Broker := do
  let u ← Url.parse? none s
  let speaks := settingFits u "protocol" protocols.contains
  if ["redis", "valkey"].contains u.scheme then
    let host ← u.host?
    if isDatabasePath u.pathText && isText u.username && isText u.password && speaks then
      some (.machine (hostName host) (u.port.getD defaultPort))
    else none
  else if ["unix", "redis+unix", "valkey+unix"].contains u.scheme then
    if isSocketAddress u && settingFits u "db" (isDatabase ·.toList) && speaks then
      some (.socket u.pathText)
    else none
  else none

def patience : Duration := .ofSeconds 5

def isReachable (network : Network) : Broker → Bool
  | .machine host port =>
    network.dial .tcp (String.ofList (joinHostPort host.toList port)) patience = .connected
  | .socket _ => false

end Broker

end ReachAudit.Trigger
