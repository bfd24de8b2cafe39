import ReachAudit.Auditor
import ReachAudit.Event
import ReachAudit.Probe

namespace ReachAudit

/-- How the look-ups fare that a scan starts with. A failure is told by its cause. -/
structure Lookups where
  currentNode : Except String NodeId
  nodeFailure : Option String := none
  rolesFailure : Option String := none
  rulesFailure : Option String := none

inductive ScanError where
  | noIdentity (cause : String)
  | nodeLookup (id : NodeId) (cause : String)
  | unknownNode (id : NodeId)
  | rolesLookup (id : NodeId) (cause : String)
  | rulesLookup (cause : String)
  deriving DecidableEq, Repr

def ScanError.message : ScanError → String
  | .noIdentity cause => "failed to resolve the current node: " ++ cause
  | .nodeLookup id cause => "failed to look up node " ++ id ++ ": " ++ cause
  | .unknownNode id => "node " ++ id ++ " is not known"
  | .rolesLookup id cause => "failed to look up roles for node " ++ id ++ ": " ++ cause
  | .rulesLookup cause => "failed to look up rules: " ++ cause

def failOn {ε : Type} (failure : Option String) (error : String → ε) : Except ε Unit :=
  match failure with
  | some cause => .error (error cause)
  | none => .ok ()

namespace Auditor

variable {τ : Type}

def resolveNode (l : Lookups) (a : Auditor τ) : Except ScanError (NodeId × Node τ) := do
  let id ← l.currentNode.mapError ScanError.noIdentity
  failOn l.nodeFailure (ScanError.nodeLookup id)
  match a.nodes.get? id with
  | none => throw (.unknownNode id)
  | some node =>
    failOn l.rolesFailure (ScanError.rolesLookup id)
    return (id, node)

def resolve (l : Lookups) (choose : RuleIndex τ → List String → List RuleVersion)
    (a : Auditor τ) : Except ScanError ((NodeId × Node τ) × List RuleVersion) := do
  let node ← a.resolveNode l
  failOn l.rulesFailure ScanError.rulesLookup
  return (node, choose a.rules node.2.roles.toList)

def scanRules (now : τ) (id : NodeId) (node : Node τ) (rules : List RuleVersion) (a : Auditor τ) :
    Batch × Auditor τ :=
  let (batch, pool) := a.pool.spawn now id node rules
  (batch, { a with pool })

def scan (l : Lookups) (now : τ) (choose : RuleIndex τ → List String → List RuleVersion)
    (a : Auditor τ) : Except ScanError Batch × Auditor τ :=
  match a.resolve l choose with
  | .error e => (.error e, a)
  | .ok ((id, node), rules) =>
    let (batch, a) := a.scanRules now id node rules
    (.ok batch, a)

def scanAll (l : Lookups) (now : τ) (a : Auditor τ) : Except ScanError Batch × Auditor τ :=
  a.scan l now RuleIndex.activeByRoles

def scanByIds (l : Lookups) (now : τ) (ids : List RuleId) (a : Auditor τ) :
    Except ScanError Batch × Auditor τ :=
  a.scan l now fun rules => rules.activeByIds ids

def handle (l : Lookups) (now : τ) (event : Event) (a : Auditor τ) :
    Except ScanError Unit × Auditor τ :=
  match event with
  | .triggerAll =>
    let (result, a) := a.scanAll l now
    (result.map fun _ => (), a)
  | .triggerByRuleIds ids =>
    let (result, a) := a.scanByIds l now ids
    (result.map fun _ => (), a)
  | .other _ _ => (.ok (), a)

def describe (probes : Probes) (a : Auditor τ) : String :=
  "Scanner \x7b probes: " ++ probes.describe ++ ", available_permits: " ++ a.pool.permits.repr ++
    ", .. \x7d"

end Auditor

end ReachAudit
