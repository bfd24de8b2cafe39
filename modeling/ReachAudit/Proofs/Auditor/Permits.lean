import ReachAudit.Proofs.Auditor.Turns
import ReachAudit.Proofs.ListUpdate

namespace ReachAudit

variable {τ : Type}

def Phase.stepsLeft : Phase → Nat
  | .queued => 6
  | .checking => 5
  | .announcing => 4
  | .probing => 3
  | .recording => 2
  | .reporting _ => 1
  | .done => 0

def Phase.isCalling : Phase → Bool
  | .checking | .announcing | .probing | .recording => true
  | _ => false

theorem Phase.isRunning_of_isCalling {phase : Phase} (calling : phase.isCalling = true) :
    phase.isRunning = true := by
  cases phase <;> first | rfl | cases calling

namespace Task.Next

variable {c : Conditions τ} {a : Auditor τ} {task task' : Task τ}

theorem batch (next : task.Next c a task') : task'.batch = task.batch := by
  cases next <;> rfl

theorem free_of_begins (next : task.Next c a task') (resting : task.phase.isRunning = false)
    (running : task'.phase.isRunning = true) : a.pool.running < a.pool.limit := by
  cases next with
  | starts queued free => exact free
  | waits queued full =>
    rw [resting] at running
    cases running
  | rests done =>
    rw [resting] at running
    cases running
  | skips phase _ | misses phase _ _ | announces phase | probes phase | records phase =>
    rw [phase] at resting
    cases resting
  | reports recorded phase =>
    rw [phase] at resting
    cases resting

theorem stepsLeft_lt (next : task.Next c a task') (unfinished : task.phase ≠ .done)
    (able : task.phase.isRunning = true ∨ a.pool.running < a.pool.limit) :
    task'.phase.stepsLeft < task.phase.stepsLeft := by
  cases next with
  | waits queued full =>
    rcases able with running | free
    · rw [queued] at running
      cases running
    · omega
  | rests done => exact absurd done unfinished
  | starts phase _ | skips phase _ | misses phase _ _ | announces phase | probes phase
  | records phase | reports _ phase =>
    rw [phase]
    simp [Phase.stepsLeft]

theorem ends (next : task.Next c a task') :
    (task.reporting = [] ∧ (task'.phase = .done ↔ task.phase = .done)) ∨
      ∃ recorded, task.phase = .reporting recorded ∧
        task.reporting = [(task.batch, task.report recorded)] ∧ task'.phase = .done := by
  cases next with
  | reports recorded phase => exact Or.inr ⟨recorded, phase, by rw [Task.reporting, phase], rfl⟩
  | waits phase _ | rests phase => exact Or.inl ⟨by rw [Task.reporting, phase], Iff.rfl⟩
  | starts phase _ | skips phase _ | misses phase _ _ | announces phase | probes phase
  | records phase => exact Or.inl ⟨by rw [Task.reporting, phase], by simp [phase]⟩

end Task.Next

namespace Pool

def stepsLeft (pool : Pool τ) : Nat := pool.tasks.foldr (fun task n => task.phase.stepsLeft + n) 0

def spawned (pool : Pool τ) (batch : Nat) : Nat := pool.tasks.countP (·.batch = batch)

def completed (pool : Pool τ) (batch : Nat) : Nat :=
  pool.tasks.countP fun task => task.batch = batch && task.phase = .done

theorem completed_le_spawned (pool : Pool τ) (batch : Nat) :
    pool.completed batch ≤ pool.spawned batch :=
  List.countP_mono_left fun _ _ both => (Bool.and_eq_true_iff.mp both).1

theorem isFinished_iff_completed {pool : Pool τ} {batch : Nat} :
    pool.isFinished batch = true ↔ pool.completed batch = pool.spawned batch := by
  have done : pool.completed batch =
      (pool.tasks.filter (·.batch = batch)).countP (·.phase = .done) := by
    rw [List.countP_filter, completed]
    exact List.countP_congr fun task _ => by rw [Bool.and_comm]
  have all : pool.spawned batch = (pool.tasks.filter (·.batch = batch)).length :=
    List.countP_eq_length_filter
  rw [done, all, List.countP_eq_length]
  simp [isFinished, List.mem_filter, or_iff_not_imp_left]

def Bounded (pool : Pool τ) : Prop := pool.running ≤ pool.limit

def Accounted (pool : Pool τ) : Prop :=
  ∀ batch, (pool.reportsOf batch).length = pool.completed batch

end Pool

namespace Auditor

variable {a : Auditor τ} {t : Turn τ} {pool : Pool τ}

theorem PoolMoved.limit (moved : a.PoolMoved t pool) : pool.limit = a.pool.limit := by
  cases moved with
  | kept idle => rfl
  | grown now id node rules same => rfl
  | stepped c i task task' _ same found stepped => exact stepped.limit

theorem PoolMoved.bounded (moved : a.PoolMoved t pool) (bounded : a.pool.Bounded) :
    pool.Bounded := by
  cases moved with
  | kept idle => exact bounded
  | grown now id node rules same =>
    have idle : (a.spawned now id node rules).countP (·.phase.isRunning) = 0 := by
      rw [List.countP_eq_zero]
      intro task member
      rw [(queued_of_mem_spawned member).1]
      simp [Phase.isRunning]
    rw [Pool.Bounded, Pool.running, List.countP_append, idle]
    exact bounded
  | stepped c i task task' _ same found stepped =>
    have count := countP_set_add task' (·.phase.isRunning) found
    have free := stepped.next.free_of_begins
    rw [Pool.Bounded, Pool.running, stepped.tasks, stepped.limit]
    simp only [Pool.Bounded, Pool.running] at bounded free
    cases before : task.phase.isRunning with
    | true =>
      rw [before, if_pos rfl] at count
      split at count <;> omega
    | false =>
      rw [before, if_neg (by simp)] at count
      split at count
      · rename_i after
        have := free before after
        omega
      · omega

theorem PoolMoved.accounted (moved : a.PoolMoved t pool) (accounted : a.pool.Accounted) :
    pool.Accounted := by
  intro batch
  cases moved with
  | kept idle => exact accounted batch
  | grown now id node rules same =>
    have unfinished : (a.spawned now id node rules).countP
        (fun task => task.batch = batch && task.phase = .done) = 0 := by
      rw [List.countP_eq_zero]
      intro task member
      rw [(queued_of_mem_spawned member).1]
      simp
    rw [Pool.completed, List.countP_append, unfinished]
    exact accounted batch
  | stepped c i task task' _ same found stepped =>
    have count := countP_set_add task' (fun task => task.batch = batch && task.phase = .done) found
    have before := accounted batch
    simp only [Pool.reportsOf, List.length_map, Pool.completed] at before ⊢
    rw [stepped.tasks, stepped.reports, List.filter_append, List.length_append, before]
    simp only [stepped.next.batch] at count
    rcases stepped.next.ends with ⟨silent, ended⟩ | ⟨recorded, reporting, made, ended⟩
    · rw [silent]
      simp only [ended] at count
      simp
      omega
    · rw [made]
      simp only [reporting, ended] at count
      by_cases own : task.batch = batch <;> simp_all

/-- What a pool keeps to, whatever happens. -/
structure Orderly (limit : Nat) (pool : Pool τ) : Prop where
  limit : pool.limit = limit
  bounded : pool.Bounded
  accounted : pool.Accounted

theorem PoolMoved.orderly {limit : Nat} (moved : a.PoolMoved t pool)
    (orderly : Orderly limit a.pool) : Orderly limit pool where
  limit := moved.limit.trans orderly.limit
  bounded := moved.bounded orderly.bounded
  accounted := moved.accounted orderly.accounted

theorem orderly_run (hash : History.Key → Nat) (shards limit : Nat) (turns : List (Turn τ)) :
    Orderly (max limit 1) ((new hash shards limit).run turns).pool :=
  run_keeps (fun a => Orderly (max limit 1) a.pool)
    (fun a t orderly => (poolMoved_turn a t).orderly orderly) _ turns
    ⟨rfl, Nat.zero_le _, fun _ => rfl⟩

theorem stepsLeft_step (c : Conditions τ) {i : Nat} {task : Task τ}
    (found : a.pool.tasks[i]? = some task) :
    ∃ task', task.Next c a task' ∧
      (a.step c i).pool.stepsLeft + task.phase.stepsLeft =
        a.pool.stepsLeft + task'.phase.stepsLeft := by
  obtain ⟨task', stepped⟩ := stepped_step c found
  refine ⟨task', stepped.next, ?_⟩
  rw [Pool.stepsLeft, stepped.tasks]
  exact foldr_add_set task' (·.phase.stepsLeft) found

theorem step_eq_or_lt (a : Auditor τ) (c : Conditions τ) (i : Nat) :
    a.step c i = a ∨ (a.step c i).pool.stepsLeft < a.pool.stepsLeft := by
  cases found : a.pool.tasks[i]? with
  | none => exact Or.inl (step_of_none found)
  | some task =>
    by_cases done : task.phase = .done
    · exact Or.inl (step_of_done found done)
    by_cases able : task.phase.isRunning = true ∨ a.pool.running < a.pool.limit
    · obtain ⟨task', next, balance⟩ := stepsLeft_step c found
      have := next.stepsLeft_lt done able
      exact Or.inr (by omega)
    · obtain ⟨resting, full⟩ := not_or.mp able
      have queued : task.phase = .queued := by
        cases phase : task.phase with
        | queued => rfl
        | done => exact absurd phase done
        | _ => exact absurd (by rw [phase]; rfl) resting
      exact Or.inl (by simp only [step, found, stepTask, queued, if_neg full])

/-- While a task is not done some task gets on, whatever it meets: one that has a permit, and if
    none has one then any. -/
theorem exists_step_lt (unfinished : ∃ task ∈ a.pool.tasks, task.phase ≠ .done) :
    ∃ i, ∀ c, (a.step c i).pool.stepsLeft < a.pool.stepsLeft := by
  have able : ∃ task ∈ a.pool.tasks, task.phase ≠ .done ∧
      (task.phase.isRunning = true ∨ a.pool.running < a.pool.limit) := by
    by_cases running : ∃ task ∈ a.pool.tasks, task.phase.isRunning = true
    · obtain ⟨task, member, running⟩ := running
      refine ⟨task, member, ?_, Or.inl running⟩
      intro done
      rw [done] at running
      cases running
    · obtain ⟨task, member, unfinished⟩ := unfinished
      have none : a.pool.running = 0 := by
        rw [Pool.running, List.countP_eq_zero]
        exact fun task member held => running ⟨task, member, held⟩
      exact ⟨task, member, unfinished, Or.inr (none ▸ a.pool.limit_pos)⟩
  obtain ⟨task, member, unfinished, able⟩ := able
  obtain ⟨i, found⟩ := List.mem_iff_getElem?.mp member
  refine ⟨i, fun c => ?_⟩
  obtain ⟨task', next, balance⟩ := stepsLeft_step c found
  have := next.stepsLeft_lt unfinished able
  omega

theorem reported_iff_all_done (accounted : a.pool.Accounted) :
    (∀ batch, (a.pool.reportsOf batch).length = a.pool.spawned batch) ↔
      ∀ task ∈ a.pool.tasks, task.phase = .done := by
  simp only [accounted _, ← Pool.isFinished_iff_completed, Pool.isFinished, List.all_eq_true]
  constructor
  · intro finished task member
    simpa using finished task.batch task member
  · intro done batch task member
    simp [done task member]

theorem eq_of_running (bounded : a.pool.Bounded) (single : a.pool.limit = 1) {i j : Nat}
    {task other : Task τ} (here : a.pool.tasks[i]? = some task)
    (there : a.pool.tasks[j]? = some other) (running : task.phase.isRunning = true)
    (running' : other.phase.isRunning = true) : i = j := by
  by_contra apart
  -- With the permit of one task taken away the other would still be counted.
  have count := countP_set_add { task with phase := .done } (·.phase.isRunning) here
  have kept : other ∈ a.pool.tasks.set i { task with phase := .done } := by
    refine List.mem_iff_getElem?.mpr ⟨j, ?_⟩
    rw [List.getElem?_set_ne apart]
    exact there
  have counted : 0 < (a.pool.tasks.set i { task with phase := .done }).countP (·.phase.isRunning) :=
    List.countP_pos_iff.mpr ⟨other, kept, running'⟩
  rw [running, if_pos rfl, if_neg (by simp [Phase.isRunning])] at count
  rw [Pool.Bounded, Pool.running, single] at bounded
  omega

theorem step_of_not_calling {i : Nat} {task : Task τ} (found : a.pool.tasks[i]? = some task)
    (apart : task.phase.isCalling = false) (c c' : Conditions τ) :
    a.step c i = a.step c' i ∧ (a.step c i).history = a.history := by
  simp only [step, found, stepTask]
  cases phase : task.phase with
  | queued =>
    refine ⟨rfl, ?_⟩
    dsimp only
    split <;> rfl
  | reporting recorded => exact ⟨rfl, rfl⟩
  | done => exact ⟨rfl, rfl⟩
  | _ =>
    rw [phase] at apart
    cases apart

/-- No more tasks run than there are permits, and with one permit no two do. While a probe has not
    reported some task can get on, whatever it meets, and no step leads back. -/
theorem pool_bounded_and_never_stuck (hash : History.Key → Nat) (shards limit : Nat)
    (turns : List (Turn τ)) :
    let a := (new hash shards limit).run turns
    a.pool.running ≤ max limit 1 ∧
      a.pool.tasks.countP (·.phase.isCalling) ≤ max limit 1 ∧
      (∀ (i : Nat) (task : Task τ), a.pool.tasks[i]? = some task → task.phase.isCalling = false →
        ∀ c c', a.step c i = a.step c' i ∧ (a.step c i).history = a.history) ∧
      (limit ≤ 1 → ∀ (i j : Nat) (task other : Task τ), a.pool.tasks[i]? = some task →
        a.pool.tasks[j]? = some other → task.phase.isRunning = true →
        other.phase.isRunning = true → i = j) ∧
      (∀ batch, (a.pool.reportsOf batch).length ≤ a.pool.spawned batch) ∧
      ((∀ batch, (a.pool.reportsOf batch).length = a.pool.spawned batch) ∨
        ∃ i, ∀ c, (a.step c i).pool.stepsLeft < a.pool.stepsLeft) ∧
      ∀ c i, a.step c i = a ∨ (a.step c i).pool.stepsLeft < a.pool.stepsLeft := by
  intro a
  obtain ⟨limited, bounded, accounted⟩ := orderly_run hash shards limit turns
  have few : a.pool.running ≤ max limit 1 := limited ▸ bounded
  refine ⟨few, ?_, fun _ _ => step_of_not_calling, ?_, ?_, ?_, step_eq_or_lt a⟩
  · refine Nat.le_trans (List.countP_mono_left ?_) few
    exact fun task _ calling => Phase.isRunning_of_isCalling calling
  · intro single i j task other here there running running'
    exact eq_of_running bounded (limited.trans (by omega)) here there running running'
  · intro batch
    rw [accounted batch]
    exact a.pool.completed_le_spawned batch
  · by_cases finished : ∀ task ∈ a.pool.tasks, task.phase = .done
    · exact Or.inl ((reported_iff_all_done accounted).mpr finished)
    · push Not at finished
      exact Or.inr (exists_step_lt finished)

end Auditor

end ReachAudit
