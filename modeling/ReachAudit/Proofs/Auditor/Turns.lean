import ReachAudit.Auditor.Scan
import ReachAudit.Proofs.Auditor.Steps
import ReachAudit.Proofs.Rule.Index

namespace ReachAudit

open History (Store)

variable {τ : Type}

/-- What can happen to an auditor. A scan may be of any rules, whether the index has them or not. -/
inductive Turn (τ : Type) where
  | apply (now : τ) (id : RuleId) (rule : Rule)
  | delete (id : RuleId)
  | addNode (now : τ) (id : NodeId) (node : Node τ)
  | scan (now : τ) (id : NodeId) (node : Node τ) (rules : List RuleVersion)
  | probe (c : Conditions τ) (i : Nat)

def Turn.probes (steps : List (Conditions τ × Nat)) : List (Turn τ) :=
  steps.map fun step => .probe step.1 step.2

def Task.reporting (task : Task τ) : List (Nat × Report) :=
  match task.phase with
  | .reporting recorded => [(task.batch, task.report recorded)]
  | _ => []

namespace Auditor

def turn (a : Auditor τ) : Turn τ → Auditor τ
  | .apply now id rule => a.mapRules (·.apply now id rule)
  | .delete id => a.mapRules (·.delete id)
  | .addNode now id node => a.mapNodes (NodeIndex.apply now id node)
  | .scan now id node rules => (a.scanRules now id node rules).2
  | .probe c i => a.step c i

def run (a : Auditor τ) (turns : List (Turn τ)) : Auditor τ := turns.foldl turn a

theorem run_append (a : Auditor τ) (first second : List (Turn τ)) :
    a.run (first ++ second) = (a.run first).run second := List.foldl_append

theorem run_concat (a : Auditor τ) (turns : List (Turn τ)) (t : Turn τ) :
    a.run (turns ++ [t]) = (a.run turns).turn t := run_append a turns [t]

theorem run_keeps (holds : Auditor τ → Prop) (keeps : ∀ a t, holds a → holds (a.turn t))
    (a : Auditor τ) (turns : List (Turn τ)) (start : holds a) : holds (a.run turns) := by
  induction turns generalizing a with
  | nil => exact start
  | cons t rest ih => exact ih (a.turn t) (keeps a t start)

def spawned (a : Auditor τ) (now : τ) (id : NodeId) (node : Node τ) (rules : List RuleVersion) :
    List (Task τ) :=
  rules.flatMap (Pool.tasksOf now a.pool.batches id node)

theorem queued_of_mem_spawned {a : Auditor τ} {now : τ} {id : NodeId} {node : Node τ}
    {rules : List RuleVersion} {task : Task τ} (member : task ∈ a.spawned now id node rules) :
    task.phase = .queued ∧ task.batch = a.pool.batches := by
  obtain ⟨v, _, member⟩ := List.mem_flatMap.mp member
  obtain ⟨target, _, rfl⟩ := List.mem_map.mp member
  exact ⟨rfl, rfl⟩

theorem pool_write (c : Conditions τ) (key : History.Key) (row : History.Row τ) (a : Auditor τ) :
    (a.write c key row).2.pool = a.pool := by
  unfold write
  split <;> rfl

structure PoolStepped (c : Conditions τ) (i : Nat) (task task' : Task τ) (a : Auditor τ)
    (pool : Pool τ) : Prop where
  next : task.Next c a task'
  tasks : pool.tasks = a.pool.tasks.set i task'
  reports : pool.reports = a.pool.reports ++ task.reporting
  limit : pool.limit = a.pool.limit
  batches : pool.batches = a.pool.batches

theorem poolStepped {c : Conditions τ} {i : Nat} {task task' : Task τ} {a : Auditor τ}
    (found : a.pool.tasks[i]? = some task) (stepped : Stepped c i task task' a (a.step c i)) :
    PoolStepped c i task task' a (a.step c i).pool := by
  have same : a.step c i = a.stepTask c i task := by simp only [step, found]
  refine ⟨stepped.next, stepped.tasks, ?_, ?_, ?_⟩
  all_goals
    rw [same]
    cases phase : task.phase with
    | queued =>
      simp only [stepTask, phase, Task.reporting]
      split <;> simp [setTask, Pool.setTask]
    | _ => simp [stepTask, phase, Task.reporting, setTask, Pool.setTask, mapMetrics, pool_write]

inductive PoolMoved (a : Auditor τ) (t : Turn τ) : Pool τ → Prop where
  | kept (idle : ∀ c i, t = .probe c i → a.pool.tasks[i]? = none) : PoolMoved a t a.pool
  | grown (now : τ) (id : NodeId) (node : Node τ) (rules : List RuleVersion)
    (same : t = .scan now id node rules) :
    PoolMoved a t {
      a.pool with
      tasks := a.pool.tasks ++ a.spawned now id node rules
      batches := a.pool.batches + 1 }
  | stepped (c : Conditions τ) (i : Nat) (task task' : Task τ) (pool : Pool τ)
    (same : t = .probe c i) (found : a.pool.tasks[i]? = some task)
    (stepped : PoolStepped c i task task' a pool) : PoolMoved a t pool

theorem poolMoved_turn (a : Auditor τ) (t : Turn τ) : a.PoolMoved t (a.turn t).pool := by
  cases t with
  | apply now id rule => exact .kept (by simp)
  | delete id => exact .kept (by simp)
  | addNode now id node => exact .kept (by simp)
  | scan now id node rules => exact .grown now id node rules rfl
  | probe c i =>
    simp only [turn]
    cases found : a.pool.tasks[i]? with
    | none =>
      rw [step_of_none found]
      refine .kept ?_
      rintro _ _ ⟨rfl, rfl⟩
      exact found
    | some task =>
      obtain ⟨task', stepped⟩ := stepped_step c found
      exact .stepped c i task task' _ rfl found (poolStepped found stepped)

theorem placed_turn {a : Auditor τ} (placed : a.history.Placed) (t : Turn τ) :
    (a.turn t).history.Placed := by
  cases t with
  | apply now id rule =>
    have arrival := RuleIndex.applied_apply now id rule a.rules
    change (a.rules.apply now id rule).history.Placed
    generalize a.rules.apply now id rule = next at arrival ⊢
    cases arrival with
    | reshaped known found different => exact Store.Placed.clear placed id
    | _ => exact placed
  | delete id =>
    have removal := RuleIndex.deleted_delete id a.rules
    change (a.rules.delete id).history.Placed
    generalize a.rules.delete id = next at removal ⊢
    cases removal with
    | ignored absent => exact placed
    | removed known found => exact Store.Placed.clear placed id
  | addNode now id node => exact placed
  | scan now id node rules => exact placed
  | probe c i =>
    simp only [turn]
    cases found : a.pool.tasks[i]? with
    | none => rw [step_of_none found]; exact placed
    | some task =>
      obtain ⟨task', stepped⟩ := stepped_step c found
      rw [stepped.history]
      exact placed_storeAfter placed c task

theorem placed_run {a : Auditor τ} (placed : a.history.Placed) (turns : List (Turn τ)) :
    (a.run turns).history.Placed :=
  run_keeps (·.history.Placed) (fun _ t placed => placed_turn placed t) a turns placed

end Auditor

end ReachAudit
