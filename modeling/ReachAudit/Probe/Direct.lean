import ReachAudit.Network
import ReachAudit.Probe.Outcome

namespace ReachAudit

def stripScheme (address : List Char) : List Char :=
  match "https://".toList.isPrefixOf? address with
  | some rest => rest
  | none => ("http://".toList.isPrefixOf? address).getD address

def bracketed (host : List Char) : List Char :=
  if ':' ∈ host ∧ host.head? ≠ some '[' then '[' :: host ++ [']'] else host

def joinHostPort (host : List Char) (port : Nat) : List Char :=
  bracketed host ++ ':' :: port.repr.toList

def dialTarget (address : String) (port : Port) : String :=
  String.ofList (joinHostPort (stripScheme address.toList) port.number)

def Attempt.outcome (protocol : Protocol) (target : String) (limit : Duration) : Attempt → Outcome
  | .connected => .success
  | .failed reason => .error (.dial protocol target reason)
  | .timedOut => .error (.timeout protocol target limit)

def dialDirect {m : Type → Type} [Monad m] (dial : Protocol → String → Duration → m Attempt)
    (limit : Duration) (address specifier : String) : m Outcome :=
  match Port.parse specifier with
  | .error e => return .error (.badPort e)
  | .ok port => do
    let target := dialTarget address port
    let attempt ← dial port.protocol target limit
    return attempt.outcome port.protocol target limit

def probeDirect (network : Network) (limit : Duration) (address specifier : String) : Outcome :=
  Id.run (dialDirect (fun protocol target limit => pure (network.dial protocol target limit)) limit
    address specifier)

end ReachAudit
