import ReachAudit.Duration
import ReachAudit.Port
import ReachAudit.Url

namespace ReachAudit

inductive Attempt where
  | connected
  | failed (reason : String)
  | timedOut
  deriving DecidableEq, Repr

structure Reply where
  status : Nat
  location : Option String := none
  deriving DecidableEq, Repr

inductive Exchange where
  | undelivered
  | unanswered
  | answered (reply : Reply)
  deriving DecidableEq, Repr

/-- What probes meet outside. Nothing is assumed of it but that every attempt ends. -/
structure Network where
  dial : Protocol → (target : String) → Duration → Attempt
  exchange : (proxy destination : Url) → Duration → Exchange

end ReachAudit
