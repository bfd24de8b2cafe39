import ReachAudit.Duration
import ReachAudit.History.Row
import ReachAudit.Port

namespace ReachAudit

open History (Status)

inductive RequestError where
  | builder
  | tooManyRedirects
  | noResponse
  deriving DecidableEq, Repr

inductive ProbeError where
  | noPort (address : String)
  | badPort (e : PortError)
  | dial (protocol : Protocol) (target reason : String)
  | timeout (protocol : Protocol) (target : String) (limit : Duration)
  | noProxy
  | proxyRejected
  | request (e : RequestError)
  deriving DecidableEq, Repr

inductive Outcome where
  | success
  | error (e : ProbeError)
  deriving DecidableEq, Repr

def RequestError.message : RequestError → String
  | .builder => "builder error"
  | .tooManyRedirects => "error following redirect"
  | .noResponse => "error sending request"

def ProbeError.dialled (protocol : Protocol) (target : String) : String :=
  "dial " ++ protocol.name ++ " " ++ target ++ ": "

def ProbeError.message : ProbeError → String
  | .noPort address => "no destination port for " ++ address
  | .badPort e => e.message
  | .dial protocol target reason => dialled protocol target ++ reason
  | .timeout protocol target limit =>
    dialled protocol target ++ "i/o timeout after " ++ limit.text
  | .noProxy => "no forward proxy is configured"
  | .proxyRejected => "Error 403 is returned from the proxy server."
  | .request e => e.message

namespace Outcome

def status : Outcome → Status
  | .success => .success
  | .error _ => .error

def message? : Outcome → Option String
  | .success => none
  | .error e => some e.message

theorem message?_isSome_iff (o : Outcome) : o.message?.isSome = true ↔ o.status = .error := by
  cases o <;> simp [message?, status]

theorem status_ne_pending (o : Outcome) : o.status ≠ .pending := by cases o <;> simp [status]

end Outcome

end ReachAudit
