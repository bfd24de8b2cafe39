import ReachAudit.Rule.Index
import ReachAudit.Scan.Pool

namespace ReachAudit

/-- What runs on one node: it follows the rules and nodes of the cluster, probes what its own node
    has to reach and keeps the history of it. -/
structure Auditor (τ : Type) where
  rules : RuleIndex τ
  nodes : NodeIndex τ := ∅
  pool : Pool τ
  metrics : Metrics := {}

namespace Auditor

variable {τ : Type}

def new (hash : History.Key → Nat) (shards limit : Nat) : Auditor τ where
  rules := { history := .new hash shards }
  pool := .new limit

def new? (hash : History.Key → Nat) (shards limit : Nat) : Option (Auditor τ) :=
  if shards ≤ History.Store.greatestCount ∧ limit ≤ Pool.greatestLimit then
    some (.new hash shards limit)
  else none

def history (a : Auditor τ) : History.Store τ := a.rules.history

def mapRules (f : RuleIndex τ → RuleIndex τ) (a : Auditor τ) : Auditor τ :=
  { a with rules := f a.rules }

def mapNodes (f : NodeIndex τ → NodeIndex τ) (a : Auditor τ) : Auditor τ :=
  { a with nodes := f a.nodes }

def mapHistory (f : History.Store τ → History.Store τ) (a : Auditor τ) : Auditor τ :=
  { a with rules := { a.rules with history := f a.rules.history } }

def mapMetrics (f : Metrics → Metrics) (a : Auditor τ) : Auditor τ :=
  { a with metrics := f a.metrics }

end Auditor

end ReachAudit
