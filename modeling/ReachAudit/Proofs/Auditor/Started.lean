import ReachAudit.Proofs.Auditor.Tracking
import ReachAudit.Proofs.Auditor.Underway

namespace ReachAudit

variable {τ : Type}

def Rule.AppliesTo (rule : Rule) (node : Node τ) : Prop :=
  rule.active = true ∧ ∃ role ∈ rule.roles, role ∈ node.roles

theorem RuleIndex.mem_activeByRoles_node {index : RuleIndex τ} {node : Node τ} {v : RuleVersion} :
    v ∈ index.activeByRoles node.roles.toList ↔ ∃ entry, index.rules.get? v.id = some entry ∧
      entry.rule.AppliesTo node ∧ v = ⟨v.id, entry.rule, entry.generation⟩ := by
  simp only [mem_activeByRoles, Rule.matchesRoles_iff]
  rfl

namespace Auditor

theorem resolve_ok {l : Lookups} {choose : RuleIndex τ → List String → List RuleVersion}
    {a : Auditor τ} {id : NodeId} {node : Node τ} {found : (NodeId × Node τ) × List RuleVersion}
    (current : l.currentNode = .ok id) (known : a.nodes.get? id = some node)
    (resolved : a.resolve l choose = .ok found) :
    found = ((id, node), choose a.rules node.roles.toList) := by
  simp only [resolve, resolveNode, current, known, Except.mapError, bind, Except.bind, pure,
    Except.pure] at resolved
  cases nodes : l.nodeFailure with
  | some cause => simp [nodes, failOn] at resolved
  | none =>
    cases roles : l.rolesFailure with
    | some cause => simp [nodes, roles, failOn] at resolved
    | none =>
      cases rules : l.rulesFailure with
      | some cause => simp [nodes, roles, rules, failOn] at resolved
      | none =>
        simp only [nodes, roles, rules, failOn] at resolved
        exact (Except.ok.inj resolved).symm

theorem scanAll_ok {l : Lookups} {now : τ} {a a' : Auditor τ} {id : NodeId} {node : Node τ}
    {batch : Batch} (current : l.currentNode = .ok id) (known : a.nodes.get? id = some node)
    (started : a.scanAll l now = (.ok batch, a')) :
    (batch, a') = a.scanRules now id node (a.rules.activeByRoles node.roles.toList) := by
  rw [scanAll, scan] at started
  cases resolved : a.resolve l RuleIndex.activeByRoles with
  | error e =>
    rw [resolved] at started
    cases started
  | ok found =>
    rw [resolved, resolve_ok current known resolved] at started
    cases started
    rfl

end Auditor

namespace World

variable {w : World τ}

def Sound.launch (sound : w.Sound) (idle : ∀ task ∈ w.auditor.pool.tasks, task.phase = .done)
    (now : τ) (id : NodeId) (node : Node τ) : Launch τ where
  before := w.auditor
  now
  id
  node
  versions := w.auditor.rules.activeByRoles node.roles.toList
  idle
  placed := sound.synced.placed
  active := by
    intro v member
    obtain ⟨entry, _, passes, same⟩ := RuleIndex.mem_activeByRoles.mp member
    rw [same]
    exact passes.1
  generation := by
    intro v member
    obtain ⟨entry, found, _, same⟩ := RuleIndex.mem_activeByRoles.mp member
    rw [same]
    exact (sound.synced.generation v.id entry found).symm

theorem Sound.scanRules (sound : w.Sound) (now : τ) (id : NodeId) (node : Node τ) :
    ∃ w' : World τ, w'.Sound ∧ w'.auditor = (w.auditor.scanRules now id node
      (w.auditor.rules.activeByRoles node.roles.toList)).2 := by
  refine ⟨w.run [.lookUp none node.roles.toList, .launch now id node w.findings.length],
    sound.run _, ?_⟩
  have here : (w.take (.lookUp none node.roles.toList)).findings[w.findings.length]? =
      some ⟨w.past.length, w.auditor.rules.activeByRoles node.roles.toList⟩ :=
    List.getElem?_concat_length
  change ((w.take (.lookUp none node.roles.toList)).act
    (.launch now id node w.findings.length)).auditor = _
  simp only [act, here]
  rfl

end World

end ReachAudit
