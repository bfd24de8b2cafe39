import ReachAudit.Proofs.Auditor.World
import ReachAudit.Proofs.ListUpdate
import ReachAudit.Proofs.Rule.Depiction

namespace ReachAudit

open History (Key Row Store)

variable {τ : Type}

structure Task.IsProbeOf (task : Task τ) (v : RuleVersion) : Prop where
  rule : task.key.rule = v.id
  generation : task.row.generation = v.generation
  strategy : task.strategy = v.rule.strategy
  depicts : v.rule.Depicts task.key task.row

theorem Task.IsProbeOf.next {c : Conditions τ} {a : Auditor τ} {task task' : Task τ}
    {v : RuleVersion} (probe : task.IsProbeOf v) (next : task.Next c a task') :
    task'.IsProbeOf v := by
  cases next with
  | probes probing =>
    refine ⟨probe.rule, probe.generation, probe.strategy, probe.depicts.covered,
      probe.depicts.proxied, ?_⟩
    exact Outcome.message?_isSome_iff _
  | _ => exact ⟨probe.rule, probe.generation, probe.strategy, probe.depicts⟩

theorem tasksOf_origins (now : τ) (batch : Nat) (id : NodeId) (node : Node τ) (time : Nat)
    (v : RuleVersion) :
    List.Forall₂ (fun (task : Task τ) o => o = (time, v) ∧ task.IsProbeOf v)
      (Pool.tasksOf now batch id node v) (v.rule.targets.map fun _ => (time, v)) := by
  rw [Pool.tasksOf, List.forall₂_map_left_iff, List.forall₂_map_right_iff, List.forall₂_same]
  intro target member
  refine ⟨rfl, rfl, rfl, rfl, (Rule.mem_targets_iff.mp member).2, rfl, ?_⟩
  simp [Row.pending]

theorem spawned_origins (now : τ) (batch : Nat) (id : NodeId) (node : Node τ) (f : Finding) :
    List.Forall₂ (fun (task : Task τ) o => o.1 = f.time ∧ o.2 ∈ f.versions ∧ task.IsProbeOf o.2)
      (f.versions.flatMap (Pool.tasksOf now batch id node)) f.origins := by
  have same : List.Forall₂ (fun v u : RuleVersion => v = u ∧ v ∈ f.versions)
      f.versions f.versions := List.forall₂_same.mpr fun v member => ⟨rfl, member⟩
  refine List.rel_flatMap same ?_
  intro v u both
  obtain ⟨rfl, member⟩ := both
  refine (tasksOf_origins now batch id node f.time v).imp ?_
  intro task o origin
  obtain ⟨rfl, probe⟩ := origin
  exact ⟨rfl, member, probe⟩

inductive Action.Changed (action : Action τ) (index : RuleIndex τ) : RuleIndex τ → Prop where
  | applied (now : τ) (id : RuleId) (rule : Rule) (next : RuleIndex τ)
    (same : action = .apply now id rule) (arrival : RuleIndex.Applied now id rule index next) :
    Changed action index next
  | deleted (id : RuleId) (next : RuleIndex τ) (same : action = .delete id)
    (removal : RuleIndex.Deleted id index next) : Changed action index next
  | written (history : Store τ) (quiet : ∀ v, ¬ action.Disturbs v)
    (generation : ∀ rule, history.generation rule = index.history.generation rule)
    (placed : index.history.Placed → history.Placed) : Changed action index { index with history }

theorem Action.Changed.idle {action : Action τ} {index : RuleIndex τ}
    (quiet : ∀ v, ¬ action.Disturbs v) : action.Changed index index :=
  .written index.history quiet (fun _ => rfl) id

theorem World.changed_take (w : World τ) (action : Action τ) :
    action.Changed w.auditor.rules (w.take action).auditor.rules := by
  cases action with
  | apply now id rule => exact .applied now id rule _ rfl (RuleIndex.applied_apply ..)
  | delete id => exact .deleted id _ rfl (RuleIndex.deleted_delete ..)
  | addNode now id node => exact .idle fun _ disturbs => disturbs
  | lookUp ids roles => exact .idle fun _ disturbs => disturbs
  | launch now id node n =>
    have same : (w.take (.launch now id node n)).auditor.rules = w.auditor.rules := by
      simp only [take, act]
      split <;> rfl
    rw [same]
    exact .idle fun _ disturbs => disturbs
  | probe c i =>
    simp only [take, act]
    cases found : w.auditor.pool.tasks[i]? with
    | none =>
      rw [Auditor.step_of_none found]
      exact .idle fun _ disturbs => disturbs
    | some task =>
      obtain ⟨task', stepped⟩ := Auditor.stepped_step c found
      rw [stepped.rules]
      exact .written _ (fun _ disturbs => disturbs)
        (w.auditor.generation_storeAfter c task) fun placed => Auditor.placed_storeAfter placed c task

namespace RuleIndex

variable {index next : RuleIndex τ} {action : Action τ} {v : RuleVersion}

theorem Synced.changed (synced : index.Synced) (changed : action.Changed index next) :
    next.Synced := by
  cases changed with
  | applied now id rule _ same arrival => exact synced.applied arrival
  | deleted id _ same removal => exact synced.deleted removal
  | written history quiet generation placed =>
    refine ⟨placed synced.placed, ?_⟩
    intro id entry found
    rw [synced.generation id entry found, generation]

theorem Superseded.changed (past : index.Superseded v) (changed : action.Changed index next) :
    next.Superseded v := by
  cases changed with
  | applied now id rule _ same arrival => exact past.applied arrival
  | deleted id _ same removal => exact past.deleted removal
  | written history quiet generation placed =>
    rw [Superseded, generation]
    exact past

theorem Current.changed (current : index.Current v) (changed : action.Changed index next)
    (quiet : ¬ action.Disturbs v) : next.Current v := by
  cases changed with
  | applied now id rule _ same arrival =>
    subst same
    refine current.applied arrival fun own => ?_
    by_contra different
    exact quiet ⟨own, different⟩
  | deleted id _ same removal =>
    subst same
    exact current.deleted removal quiet
  | written history quiet generation placed => exact current

theorem Current.superseded (current : index.Current v) (synced : index.Synced)
    (changed : action.Changed index next) (disturbs : action.Disturbs v) : next.Superseded v := by
  cases changed with
  | applied now id rule _ same arrival =>
    subst same
    obtain ⟨rfl, different⟩ := disturbs
    exact current.superseded_of_reshape synced arrival different
  | deleted id _ same removal =>
    subst same
    rw [show id = v.id from disturbs] at removal
    exact current.superseded_of_delete synced removal
  | written history quiet generation placed => exact absurd disturbs (quiet v)

end RuleIndex

end ReachAudit
