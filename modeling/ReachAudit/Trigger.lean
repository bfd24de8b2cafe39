import ReachAudit.Dispatch
import ReachAudit.Event.Codec
import ReachAudit.Metrics

namespace ReachAudit.Trigger

def topic : String := "rule_triggers"

structure Message where
  topic : String
  payload : String
  deriving DecidableEq, Repr

structure PublishError where
  type : EventType
  cause : String
  deriving DecidableEq, Repr

def PublishError.context (e : PublishError) : String :=
  "failed to publish " ++ e.type.name ++ " to " ++ topic

def PublishError.message (e : PublishError) : String := e.context ++ ": " ++ e.cause

def event : Option (List RuleId) → Event
  | none => .triggerAll
  | some ids => .triggerByRuleIds ids

variable {m : Type → Type} [Monad m]

def publish (send : Message → m (Except String Unit)) (event : Event) :
    m (Except PublishError Unit) := do
  let sent ← send { topic, payload := event.encode }
  return sent.mapError fun cause => { type := event.type, cause }

variable {η ε : Type}

/-- Counts one message and gives the event that it holds to its handler. A message that holds none
    is skipped, and a handler that fails stops nothing. -/
def receiveOne (table : DispatchTable η) (handle : η → Event → m (Except ε Unit))
    (count : (Metrics → Metrics) → m Unit) (payload : ByteArray) : m Unit := do
  match Event.decode payload with
  | .error _ => count Metrics.triggerMalformed
  | .ok event =>
    count (·.triggerReceived event.type)
    let _ ← table.dispatch handle event

def receive (table : DispatchTable η) (handle : η → Event → m (Except ε Unit))
    (count : (Metrics → Metrics) → m Unit) (payloads : List ByteArray) : m Unit :=
  payloads.forM (receiveOne table handle count)

end ReachAudit.Trigger
