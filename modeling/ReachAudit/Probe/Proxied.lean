import ReachAudit.Network
import ReachAudit.Probe.Outcome
import ReachAudit.Url.Reader

namespace ReachAudit

/-- Characters that a domain may hold but the authority of a request may not. -/
def isUnrequestable (c : Char) : Bool := ['"', '\x60', '\x7b', '\x7d'].contains c

def Url.isRequestable (u : Url) : Bool :=
  (u.scheme == "http" || u.scheme == "https") &&
    match u.host? with
    | some host => !host.text.toList.any isUnrequestable
    | none => false

/-- The line by which a proxy is asked for a URL. For `https` it is asked for a tunnel. -/
def Url.requestLine (u : Url) : String :=
  if u.scheme = "https" then
    "CONNECT " ++ (u.host.map Host.text).getD "" ++ ":" ++ ((u.effectivePort.map Nat.repr).getD "")
  else "GET " ++ { u with fragment := none }.text

structure FinalResponse where
  status : Nat
  responder : Url
  deriving DecidableEq, Repr

def maxRedirects : Nat := 10

def Reply.redirect? (reply : Reply) (current : Url) : Option Url :=
  if [301, 302, 303, 307, 308].contains reply.status then
    reply.location.bind (Url.parse? (some current))
  else none

variable {m : Type → Type} [Monad m]

/-- Requests a URL and follows at most `left` redirects: the URLs that were asked for, and how it
    ends. How a request is sent is left open. -/
def followRedirects (send : Url → m Exchange) :
    (left : Nat) → Url → m (List Url × Except RequestError FinalResponse)
  | left, url => do
    match ← send url with
    | .undelivered => return ([], .error .noResponse)
    | .unanswered => return ([url], .error .noResponse)
    | .answered reply =>
      match reply.redirect? url with
      | none => return ([url], .ok { status := reply.status, responder := url })
      | some next =>
        match left with
        | 0 => return ([url], .error .tooManyRedirects)
        | left + 1 =>
          if next.isRequestable then
            let (later, result) ← followRedirects send left next
            return (url :: later, result)
          else return ([url], .error .builder)

def Url.sameHost (a b : Url) : Bool :=
  a.host?.map Host.text == b.host?.map Host.text && a.effectivePort == b.effectivePort

/-- Any response proves that a destination is reachable, unless it is the proxy that refuses. -/
def FinalResponse.verdict (r : FinalResponse) (proxy : Url) : Outcome :=
  if r.status = 403 ∧ r.responder.sameHost proxy then .error .proxyRejected else .success

def outcomeThrough (proxy : Url) : Except RequestError FinalResponse → Outcome
  | .error e => .error (.request e)
  | .ok response => response.verdict proxy

def Url.withoutCredentials (u : Url) : Url := { u with username := "", password := "" }

def requestThrough (send : (proxy destination : Url) → m Exchange) (proxy : Option Url)
    (address : String) : m (Outcome × List Url) :=
  match proxy with
  | none => return (.error .noProxy, [])
  | some proxy =>
    match (Url.parse? none address).filter Url.isRequestable with
    | none => return (.error (.request .builder), [])
    | some url => do
      let (requests, result) ← followRedirects (send proxy) maxRedirects url.withoutCredentials
      return (outcomeThrough proxy result, requests)

def probeThrough (network : Network) (proxy : Option Url) (limit : Duration) (address : String) :
    Outcome × List Url :=
  Id.run (requestThrough (fun proxy url => pure (network.exchange proxy url limit)) proxy address)

end ReachAudit
