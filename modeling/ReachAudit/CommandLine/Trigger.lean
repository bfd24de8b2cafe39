import ReachAudit.CommandLine.Values
import ReachAudit.Trigger.Broker

namespace ReachAudit

open CommandLine

structure TriggerSettings where
  log : LogSettings := { filter := "reach_audit=info,warn" }
  redisUrl : String := ""
  all : Bool := false
  ruleIds : List RuleId := []

inductive TriggerError where
  | nothingChosen
  | invalidBroker
  | notConnected
  | unpublished (e : Trigger.PublishError)
  deriving DecidableEq, Repr

def TriggerError.message : TriggerError → String
  | .nothingChosen => "either --all or --rule-ids must be set"
  | .invalidBroker => "invalid redis URL"
  | .notConnected => "failed to connect to redis"
  | .unpublished e => e.context

namespace TriggerSettings

def options : List (CommandOption TriggerSettings) := [
  { name := "log-level", envVar := some "FW_AUDITOR_LOG"
    effect := .value fun v s => (s.log.setFilter v).map fun log => { s with log } },
  { name := "log-format"
    effect := .value fun v s => (s.log.setFormat v).map fun log => { s with log } },
  { name := "redis-url", envVar := some "REDIS_URL", required := true
    effect := store fun redisUrl s => { s with redisUrl } },
  { name := "all", excludes := ["rule-ids"], effect := .switch fun s => { s with all := true } },
  { name := "rule-ids"
    effect := .values fun ids s => { s with ruleIds := s.ruleIds ++ ids } }]

def parse (environment : Table String String) (arguments : List String) :
    Except UsageError TriggerSettings :=
  CommandLine.read options {} environment arguments

def event? (s : TriggerSettings) : Option Event :=
  if s.all then some (Trigger.event none)
  else if s.ruleIds = [] then none
  else some (Trigger.event (some s.ruleIds))

variable {m : Type → Type} [Monad m]

/-- Publishes one trigger. What is asked for is checked before the broker is looked for. -/
def run (network : Network) (send : Trigger.Message → m (Except String Unit))
    (s : TriggerSettings) : m (Except TriggerError Unit) :=
  match s.event? with
  | none => pure (.error .nothingChosen)
  | some event =>
    match Trigger.Broker.parse? s.redisUrl with
    | none => pure (.error .invalidBroker)
    | some broker =>
      if broker.isReachable network then do
        return (← Trigger.publish send event).mapError TriggerError.unpublished
      else pure (.error .notConnected)

end TriggerSettings

end ReachAudit
