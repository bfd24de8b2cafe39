import ReachAudit.Auditor.Step
import ReachAudit.Proofs.History.Effects

namespace ReachAudit

open History (Key Row Store)

variable {τ : Type}

def Phase.writes : Phase → Bool
  | .announcing | .recording => true
  | _ => false

def Phase.isOpen : Phase → Bool
  | .reporting _ | .done => false
  | _ => true

theorem Phase.isOpen_of_writes {phase : Phase} (writes : phase.writes = true) :
    phase.isOpen = true := by
  cases phase <;> first | rfl | cases writes

inductive Task.Next (c : Conditions τ) (a : Auditor τ) (task : Task τ) : Task τ → Prop where
  | waits (queued : task.phase = .queued) (full : a.pool.limit ≤ a.pool.running) : Next c a task task
  | starts (queued : task.phase = .queued) (free : a.pool.running < a.pool.limit) :
    Next c a task { task with phase := .checking }
  | skips (checking : task.phase = .checking)
    (known : c.checkFails task.key = true ∨ a.history.contains task.key = true) :
    Next c a task { task with phase := .probing }
  | misses (checking : task.phase = .checking) (answered : c.checkFails task.key = false)
    (absent : a.history.contains task.key = false) : Next c a task { task with phase := .announcing }
  | announces (announcing : task.phase = .announcing) : Next c a task { task with phase := .probing }
  | probes (probing : task.phase = .probing) :
    Next c a task {
      task with
      row := task.concluded c.now (c.probe task.strategy task.key.address task.key.port)
      phase := .recording }
  | records (recording : task.phase = .recording) :
    Next c a task { task with phase := .reporting !c.writeFails task.key }
  | reports (recorded : Bool) (reporting : task.phase = .reporting recorded) :
    Next c a task { task with phase := .done }
  | rests (done : task.phase = .done) : Next c a task task

namespace Task.Next

variable {c : Conditions τ} {a : Auditor τ} {task task' : Task τ}

theorem key (next : task.Next c a task') : task'.key = task.key := by
  cases next <;> rfl

theorem closes (next : task.Next c a task') (closed : task'.phase.isOpen = false) :
    task.phase = .recording ∨ task.phase.isOpen = false := by
  cases next with
  | records recording => exact Or.inl recording
  | reports recorded reporting => exact Or.inr (by rw [reporting]; rfl)
  | waits _ _ => exact Or.inr closed
  | rests _ => exact Or.inr closed
  | _ => cases closed

end Task.Next

def Auditor.storeAfter (a : Auditor τ) (c : Conditions τ) (task : Task τ) : Store τ :=
  if task.phase.writes = true ∧ c.writeFails task.key = false then
    a.history.upsert task.key task.row
  else a.history

/-- What one step of task `i` does to an auditor. -/
structure Stepped (c : Conditions τ) (i : Nat) (task task' : Task τ) (a a' : Auditor τ) : Prop where
  next : task.Next c a task'
  tasks : a'.pool.tasks = a.pool.tasks.set i task'
  rules : a'.rules = { a.rules with history := a.storeAfter c task }
  nodes : a'.nodes = a.nodes

theorem Stepped.history {c : Conditions τ} {i : Nat} {task task' : Task τ} {a a' : Auditor τ}
    (stepped : Stepped c i task task' a a') : a'.history = a.storeAfter c task :=
  congrArg RuleIndex.history stepped.rules

namespace Auditor

theorem storeAfter_induct (holds : Store τ → Prop) {a : Auditor τ} {c : Conditions τ} {task : Task τ}
    (kept : holds a.history)
    (written : task.phase.writes = true → holds (a.history.upsert task.key task.row)) :
    holds (a.storeAfter c task) := by
  unfold storeAfter
  split
  · rename_i writes
    exact written writes.1
  · exact kept

theorem generation_storeAfter (a : Auditor τ) (c : Conditions τ) (task : Task τ) (rule : RuleId) :
    (a.storeAfter c task).generation rule = a.history.generation rule :=
  storeAfter_induct (·.generation rule = a.history.generation rule) rfl
    fun _ => Store.generation_upsert ..

theorem placed_storeAfter {a : Auditor τ} (placed : a.history.Placed) (c : Conditions τ)
    (task : Task τ) : (a.storeAfter c task).Placed :=
  storeAfter_induct Store.Placed placed fun _ => placed.upsert ..

theorem step_of_none {c : Conditions τ} {i : Nat} {a : Auditor τ}
    (missing : a.pool.tasks[i]? = none) : a.step c i = a := by
  simp only [step, missing]

theorem step_of_done {c : Conditions τ} {i : Nat} {task : Task τ} {a : Auditor τ}
    (found : a.pool.tasks[i]? = some task) (done : task.phase = .done) : a.step c i = a := by
  simp only [step, found, stepTask, done]

theorem stepped_step {i : Nat} {task : Task τ} {a : Auditor τ} (c : Conditions τ)
    (found : a.pool.tasks[i]? = some task) :
    ∃ task', Stepped c i task task' a (a.step c i) := by
  have same : a.pool.tasks.set i task = a.pool.tasks := by
    rw [← (List.getElem?_eq_some_iff.mp found).2, List.set_getElem_self]
  have idle (writeless : task.phase.writes = false) : a.storeAfter c task = a.history := by
    simp [storeAfter, writeless]
  simp only [step, found]
  cases phase : task.phase with
  | queued =>
    have kept := idle (by rw [phase]; rfl)
    simp only [stepTask, phase]
    split
    · rename_i free
      exact ⟨_, .starts phase free, rfl, by rw [kept]; rfl, rfl⟩
    · rename_i full
      exact ⟨_, .waits phase (Nat.not_lt.mp full), same.symm, by rw [kept]; rfl, rfl⟩
  | checking =>
    have kept := idle (by rw [phase]; rfl)
    simp only [stepTask, phase]
    cases skips : c.checkFails task.key || a.history.contains task.key with
    | true => exact ⟨_, .skips phase (Bool.or_eq_true_iff.mp skips), rfl, by rw [kept]; rfl, rfl⟩
    | false =>
      obtain ⟨answered, absent⟩ := Bool.or_eq_false_iff.mp skips
      exact ⟨_, .misses phase answered absent, rfl, by rw [kept]; rfl, rfl⟩
  | announcing =>
    refine ⟨_, .announces phase, ?_, ?_, ?_⟩
    all_goals
      simp only [stepTask, phase, write, storeAfter, Phase.writes, true_and]
      cases c.writeFails task.key <;> rfl
  | probing =>
    have kept := idle (by rw [phase]; rfl)
    simp only [stepTask, phase]
    exact ⟨_, .probes phase, rfl, by rw [kept]; rfl, rfl⟩
  | recording =>
    refine ⟨_, .records phase, ?_, ?_, ?_⟩
    all_goals
      simp only [stepTask, phase, write, storeAfter, Phase.writes, true_and]
      cases c.writeFails task.key <;> rfl
  | reporting recorded =>
    have kept := idle (by rw [phase]; rfl)
    simp only [stepTask, phase]
    exact ⟨_, .reports recorded phase, rfl, by rw [kept]; rfl, rfl⟩
  | done =>
    have kept := idle (by rw [phase]; rfl)
    simp only [stepTask, phase]
    exact ⟨_, .rests phase, same.symm, by rw [kept]; rfl, rfl⟩

end Auditor

def sampleNode : Node Nat where
  name := "n"
  roles := .ofList ["db"]
  address := {}
  createdAt := 1
  updatedAt := 1

end ReachAudit
