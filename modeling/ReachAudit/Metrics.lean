import ReachAudit.Event
import ReachAudit.History.Row

namespace ReachAudit

open History (Status)

inductive Strategy where
  | direct
  | proxy
  deriving DecidableEq, Repr

def Strategy.name : Strategy → String
  | .direct => "direct_dial"
  | .proxy => "proxy"

def Rule.strategy (rule : Rule) : Strategy := if rule.proxied then .proxy else .direct

inductive TriggerKind where
  | all
  | byRuleIds
  | other
  deriving DecidableEq, Repr

def TriggerKind.name : TriggerKind → String
  | .all => EventType.triggerAll.name
  | .byRuleIds => EventType.triggerByRuleIds.name
  | .other => "other"

def EventType.kind : EventType → TriggerKind
  | .triggerAll => .all
  | .triggerByRuleIds => .byRuleIds
  | .other _ => .other

/-- The counters are not bounded here: 64 bits hold more than can be counted. -/
structure Metrics where
  probes : Strategy → Status → Nat := fun _ _ => 0
  historyWriteErrors : Nat := 0
  triggers : TriggerKind → Nat := fun _ => 0
  malformedTriggers : Nat := 0

namespace Metrics

def probeCompleted (m : Metrics) (strategy : Strategy) (status : Status) : Metrics :=
  { m with probes := fun s t => m.probes s t + if s = strategy ∧ t = status then 1 else 0 }

def historyWriteFailed (m : Metrics) : Metrics :=
  { m with historyWriteErrors := m.historyWriteErrors + 1 }

def triggerReceived (m : Metrics) (type : EventType) : Metrics :=
  { m with triggers := fun k => m.triggers k + if k = type.kind then 1 else 0 }

def triggerMalformed (m : Metrics) : Metrics :=
  { m with malformedTriggers := m.malformedTriggers + 1 }

def sample (name labels : String) (count : Nat) : String :=
  name ++ "_total" ++ labels ++ " " ++ count.repr

def labels (pairs : List (String × String)) : String :=
  "\x7b" ++ ",".intercalate (pairs.map fun p => p.1 ++ "=\"" ++ p.2 ++ "\"") ++ "\x7d"

def series (name : String) (pairs : List (String × String)) (count : Nat) : Option String :=
  if count = 0 then none else some (sample name (labels pairs) count)

def probeSamples (m : Metrics) : List String :=
  [Strategy.direct, .proxy].flatMap fun strategy =>
    [Status.success, .error, .pending].filterMap fun status =>
      series "probes" [("strategy", strategy.name), ("status", status.name)]
        (m.probes strategy status)

def triggerSamples (m : Metrics) : List String :=
  [TriggerKind.all, .byRuleIds, .other].filterMap fun kind =>
    series "triggers" [("event_type", kind.name)] (m.triggers kind)

def sorted (lines : List String) : List String := lines.mergeSort fun a b => decide (a ≤ b)

def samples (m : Metrics) : List String :=
  sorted (m.probeSamples ++ m.triggerSamples ++
    [sample "history_write_errors" "" m.historyWriteErrors,
      sample "malformed_triggers" "" m.malformedTriggers])

def families : List (String × String) := [
  ("probes", "Total number of completed reachability probes"),
  ("history_write_errors", "Total number of probe outcomes that could not be recorded"),
  ("triggers", "Total number of trigger events received"),
  ("malformed_triggers", "Total number of trigger messages that could not be decoded")]

def lines (m : Metrics) : List String :=
  sorted (m.samples ++ ["# EOF"] ++ families.flatMap fun f =>
    ["# HELP " ++ f.1 ++ " " ++ f.2 ++ ".", "# TYPE " ++ f.1 ++ " counter"])

end Metrics

end ReachAudit
