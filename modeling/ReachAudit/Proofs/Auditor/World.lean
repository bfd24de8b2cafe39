import ReachAudit.Auditor.Scan
import ReachAudit.Proofs.Auditor.Steps
import ReachAudit.Proofs.Rule.Index

namespace ReachAudit

variable {τ : Type}

def RuleIndex.lookUp (index : RuleIndex τ) (ids : Option (List RuleId)) (roles : List String) :
    List RuleVersion :=
  match ids with
  | none => index.activeByRoles roles
  | some ids => index.activeByIds ids roles

/-- What a look-up returned, and how much of the run was before it. -/
structure Finding where
  time : Nat
  versions : List RuleVersion

def Finding.origins (f : Finding) : List (Nat × RuleVersion) :=
  f.versions.flatMap fun v => v.rule.targets.map fun _ => (f.time, v)

/-- A step of a run. Between its look-up and the start of its probes a scan may be overtaken. -/
inductive Action (τ : Type) where
  | apply (now : τ) (id : RuleId) (rule : Rule)
  | delete (id : RuleId)
  | addNode (now : τ) (id : NodeId) (node : Node τ)
  | lookUp (ids : Option (List RuleId)) (roles : List String)
  | launch (now : τ) (id : NodeId) (node : Node τ) (n : Nat)
  | probe (c : Conditions τ) (i : Nat)

/-- An auditor, and what has led to its state. -/
structure World (τ : Type) where
  auditor : Auditor τ
  past : List (Action τ) := []
  findings : List Finding := []
  origins : List (Nat × RuleVersion) := []

namespace World

def act (w : World τ) : Action τ → World τ
  | .apply now id rule => { w with auditor := w.auditor.mapRules (·.apply now id rule) }
  | .delete id => { w with auditor := w.auditor.mapRules (·.delete id) }
  | .addNode now id node => { w with auditor := w.auditor.mapNodes (NodeIndex.apply now id node) }
  | .lookUp ids roles => {
      w with
      findings := w.findings ++ [⟨w.past.length, w.auditor.rules.lookUp ids roles⟩] }
  | .launch now id node n =>
    match w.findings[n]? with
    | some f => {
        w with
        auditor := (w.auditor.scanRules now id node f.versions).2
        origins := w.origins ++ f.origins }
    | none => w
  | .probe c i => { w with auditor := w.auditor.step c i }

def take (w : World τ) (action : Action τ) : World τ :=
  { w.act action with past := w.past ++ [action] }

def run (w : World τ) (actions : List (Action τ)) : World τ := actions.foldl take w

def new (hash : History.Key → Nat) (shards limit : Nat) : World τ where
  auditor := .new hash shards limit

theorem run_append (w : World τ) (first second : List (Action τ)) :
    w.run (first ++ second) = (w.run first).run second := List.foldl_append

theorem past_run (w : World τ) (actions : List (Action τ)) :
    (w.run actions).past = w.past ++ actions := by
  induction actions generalizing w with
  | nil => simp [run]
  | cons action actions ih =>
    have step := ih (w.take action)
    simp only [take] at step
    rw [run, List.foldl_cons, ← run, take, step]
    simp

theorem run_keeps (holds : World τ → Prop) (keeps : ∀ w action, holds w → holds (w.take action))
    (w : World τ) (actions : List (Action τ)) (start : holds w) : holds (w.run actions) := by
  induction actions generalizing w with
  | nil => exact start
  | cons action actions ih => exact ih (w.take action) (keeps w action start)

end World

/-- The history of a version is discarded by an action: its rule goes, or comes in another shape. -/
def Action.Disturbs (v : RuleVersion) : Action τ → Prop
  | .apply _ id rule => id = v.id ∧ rule.shape ≠ v.rule.shape
  | .delete id => id = v.id
  | _ => False

theorem RuleIndex.mem_lookUp {index : RuleIndex τ} {ids : Option (List RuleId)}
    {roles : List String} {v : RuleVersion} (member : v ∈ index.lookUp ids roles) :
    ∃ entry, index.rules.get? v.id = some entry ∧ v = ⟨v.id, entry.rule, entry.generation⟩ := by
  cases ids with
  | none =>
    obtain ⟨entry, found, _, same⟩ := mem_activeByRoles.mp member
    exact ⟨entry, found, same⟩
  | some ids =>
    obtain ⟨entry, found, _, same⟩ := mem_activeByIds.mp member
    exact ⟨entry, found, same⟩

end ReachAudit
