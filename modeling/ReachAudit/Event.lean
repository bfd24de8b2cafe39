import ReachAudit.Json.Value
import ReachAudit.Rule
import ReachAudit.Text.Quoted

namespace ReachAudit

inductive EventType where
  | triggerAll
  | triggerByRuleIds
  | other (name : String)
  deriving DecidableEq, Repr

inductive Event where
  | triggerAll
  | triggerByRuleIds (ids : List RuleId)
  | other (name : String) (data : Json)

namespace EventType

def name : EventType → String
  | .triggerAll => "trigger_all"
  | .triggerByRuleIds => "trigger_by_rule_ids"
  | .other name => name

def ofName (name : String) : EventType :=
  if name = "trigger_all" then .triggerAll
  else if name = "trigger_by_rule_ids" then .triggerByRuleIds
  else .other name

theorem name_ofName (name : String) : (ofName name).name = name := by
  unfold ofName
  split
  · rename_i h; exact h.symm
  · split
    · rename_i h; exact h.symm
    · rfl

def describe : EventType → String
  | .triggerAll => "TriggerAll"
  | .triggerByRuleIds => "TriggerByRuleIds"
  | .other name => "Other(" ++ Text.quoted name ++ ")"

end EventType

def Event.type : Event → EventType
  | .triggerAll => .triggerAll
  | .triggerByRuleIds _ => .triggerByRuleIds
  | .other name _ => .ofName name

end ReachAudit
