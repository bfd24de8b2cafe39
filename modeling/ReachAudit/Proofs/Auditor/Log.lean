import ReachAudit.Proofs.Auditor.Turns
import ReachAudit.Proofs.ListUpdate

namespace ReachAudit

open History (Key)

variable {τ : Type}

namespace Task

inductive Call (τ : Type) where
  | check (failed : Bool)
  | announce (failed : Bool)
  | probe (now : τ) (outcome : Outcome)
  | record (failed : Bool)
  deriving DecidableEq

def call? (c : Conditions τ) (task : Task τ) : Option (Call τ) :=
  match task.phase with
  | .checking => some (.check (c.checkFails task.key))
  | .announcing => some (.announce (c.writeFails task.key))
  | .probing => some (.probe c.now (c.probe task.strategy task.key.address task.key.port))
  | .recording => some (.record (c.writeFails task.key))
  | _ => none

/-- What becomes of a task from its start to its end. One that finds a row, or fails to look for it,
    announces nothing. -/
structure Life (τ : Type) where
  checkFailed : Bool
  announceFailed : Option Bool
  now : τ
  outcome : Outcome
  recordFailed : Bool

namespace Life

def opening (checkFailed : Bool) (announceFailed : Option Bool) : List (Call τ) :=
  .check checkFailed :: announceFailed.toList.map .announce

def calls (life : Life τ) : List (Call τ) :=
  opening life.checkFailed life.announceFailed ++
    [.probe life.now life.outcome, .record life.recordFailed]

def report (life : Life τ) (key : Key) : Report where
  key := key
  status := match life.outcome with
    | .success => .success
    | .error _ => .error
  recorded := !life.recordFailed

theorem status_report (life : Life τ) (key : Key) :
    (life.report key).status = life.outcome.status := by
  rw [report]
  cases life.outcome <;> rfl

theorem report_eq_of_calls_eq {life other : Life τ} (same : life.calls = other.calls) (key : Key) :
    life.report key = other.report key := by
  obtain ⟨_, announced, now, outcome, failed⟩ := life
  obtain ⟨_, announced', now', outcome', failed'⟩ := other
  cases announced <;> cases announced' <;> simp_all [calls, opening, report]

end Life

def Lived (task : Task τ) (made : List (Call τ)) : Prop :=
  match task.phase with
  | .queued | .checking => made = []
  | .announcing => made = [.check false]
  | .probing => ∃ checked announced, made = Life.opening checked announced
  | .recording => ∃ checked announced now outcome,
      made = Life.opening checked announced ++ [.probe now outcome] ∧
        task.row.status = outcome.status
  | .reporting recorded => ∃ life : Life τ,
      made = life.calls ∧ task.report recorded = life.report task.key
  | .done => ∃ life : Life τ, made = life.calls

theorem Lived.next {c : Conditions τ} {a : Auditor τ} {task task' : Task τ} {made : List (Call τ)}
    (lived : task.Lived made) (next : task.Next c a task') :
    task'.Lived (made ++ (task.call? c).toList) := by
  cases next with
  | waits phase _ | starts phase _ =>
    simp only [Lived, phase] at lived
    simp only [Lived, call?, phase, lived]
    rfl
  | skips phase known =>
    simp only [Lived, phase] at lived
    simp only [Lived, call?, phase, lived]
    exact ⟨c.checkFails task.key, none, rfl⟩
  | misses phase answered absent =>
    simp only [Lived, phase] at lived
    simp only [Lived, call?, phase, lived, answered]
    rfl
  | announces phase =>
    simp only [Lived, phase] at lived
    simp only [Lived, call?, phase, lived]
    exact ⟨false, some (c.writeFails task.key), rfl⟩
  | probes phase =>
    simp only [Lived, phase] at lived
    obtain ⟨checked, announced, rfl⟩ := lived
    simp only [Lived, call?, phase]
    exact ⟨checked, announced, _, _, rfl, rfl⟩
  | records phase =>
    simp only [Lived, phase] at lived
    obtain ⟨checked, announced, now, outcome, rfl, status⟩ := lived
    simp only [Lived, call?, phase]
    refine ⟨⟨checked, announced, now, outcome, c.writeFails task.key⟩, ?_, ?_⟩
    · simp [Life.calls]
    · have same := Life.status_report
        ⟨checked, announced, now, outcome, c.writeFails task.key⟩ task.key
      rw [← status] at same
      rw [report, ← same]
      rfl
  | reports recorded phase =>
    simp only [Lived, phase] at lived
    obtain ⟨life, rfl, _⟩ := lived
    simp only [Lived, call?, phase]
    exact ⟨life, List.append_nil _⟩
  | rests phase =>
    simp only [Lived, phase] at lived
    obtain ⟨life, rfl⟩ := lived
    simp only [Lived, call?, phase]
    exact ⟨life, List.append_nil _⟩

end Task

structure Logged (τ : Type) where
  task : Nat
  key : Key
  call : Task.Call τ
  deriving DecidableEq

def callsOf (task : Nat) (log : List (Logged τ)) : List (Task.Call τ) :=
  (log.filter (·.task = task)).map Logged.call

namespace Auditor

def logged (a : Auditor τ) : Turn τ → List (Logged τ)
  | .probe c i =>
    match a.pool.tasks[i]? with
    | some task => (task.call? c).toList.map (Logged.mk i task.key)
    | none => []
  | _ => []

def log (a : Auditor τ) : List (Turn τ) → List (Logged τ)
  | [] => []
  | t :: rest => a.logged t ++ (a.turn t).log rest

theorem log_append (a : Auditor τ) (first second : List (Turn τ)) :
    a.log (first ++ second) = a.log first ++ (a.run first).log second := by
  induction first generalizing a with
  | nil => rfl
  | cons t rest ih =>
    simp only [List.cons_append, log, ih, List.append_assoc]
    rfl

theorem run_log_keeps (holds : Auditor τ → List (Logged τ) → Prop)
    (keeps : ∀ a log t, holds a log → holds (a.turn t) (log ++ a.logged t))
    (a : Auditor τ) (turns : List (Turn τ)) (start : holds a []) :
    holds (a.run turns) (a.log turns) := by
  have further (turns : List (Turn τ)) : ∀ (a : Auditor τ) (log : List (Logged τ)),
      holds a log → holds (a.run turns) (log ++ a.log turns) := by
    induction turns with
    | nil =>
      intro a log here
      rw [Auditor.log, List.append_nil]
      exact here
    | cons t rest ih =>
      intro a log here
      rw [Auditor.log, ← List.append_assoc]
      exact ih (a.turn t) _ (keeps a log t here)
  exact further turns a [] start

theorem logged_probe {a : Auditor τ} {i : Nat} {task : Task τ} (c : Conditions τ)
    (found : a.pool.tasks[i]? = some task) :
    a.logged (.probe c i) = (task.call? c).toList.map (Logged.mk i task.key) := by
  simp only [logged, found]

theorem logged_of_idle {a : Auditor τ} {t : Turn τ}
    (idle : ∀ c i, t = .probe c i → a.pool.tasks[i]? = none) : a.logged t = [] := by
  cases t with
  | probe c i => simp only [logged, idle c i rfl]
  | _ => rfl

end Auditor

theorem callsOf_append (i : Nat) (first second : List (Logged τ)) :
    callsOf i (first ++ second) = callsOf i first ++ callsOf i second := by
  simp only [callsOf, List.filter_append, List.map_append]

theorem callsOf_mk (i : Nat) (key : Key) (calls : List (Task.Call τ)) :
    callsOf i (calls.map (Logged.mk i key)) = calls := by
  simp [callsOf, List.filter_map, Function.comp_def]

theorem callsOf_mk_of_ne {i j : Nat} (apart : i ≠ j) (key : Key) (calls : List (Task.Call τ)) :
    callsOf j (calls.map (Logged.mk i key)) = [] := by
  simp [callsOf, List.filter_map, Function.comp_def, apart]

def Attributed (pool : Pool τ) (log : List (Logged τ)) : Prop :=
  ∀ entry ∈ log, ∃ task, pool.tasks[entry.task]? = some task ∧ task.key = entry.key

theorem Attributed.callsOf_filter {pool : Pool τ} {log : List (Logged τ)} {i : Nat} {task : Task τ}
    (attributed : Attributed pool log) (found : pool.tasks[i]? = some task) :
    callsOf i (log.filter (·.key = task.key)) = callsOf i log := by
  rw [callsOf, List.filter_filter, callsOf]
  refine congrArg _ (List.filter_congr fun entry member => ?_)
  obtain ⟨maker, there, same⟩ := attributed entry member
  by_cases own : entry.task = i
  · subst own
    obtain rfl := Option.some.inj (found.symm.trans there)
    simp [same]
  · simp [own]

theorem Attributed.moved {a : Auditor τ} {t : Turn τ} {pool : Pool τ} {log : List (Logged τ)}
    (moved : a.PoolMoved t pool) (attributed : Attributed a.pool log) :
    Attributed pool (log ++ a.logged t) := by
  cases moved with
  | kept idle =>
    rw [Auditor.logged_of_idle idle, List.append_nil]
    exact attributed
  | grown now id node rules same =>
    subst same
    have silent : a.logged (.scan now id node rules) = [] := rfl
    rw [silent, List.append_nil]
    intro entry member
    obtain ⟨task, found, same⟩ := attributed entry member
    refine ⟨task, ?_, same⟩
    rw [List.getElem?_append_left (List.getElem?_eq_some_iff.mp found).1]
    exact found
  | stepped c i task task' _ same found stepped =>
    subst same
    have kept (entry : Logged τ) (old : ∃ task, a.pool.tasks[entry.task]? = some task ∧
        task.key = entry.key) : ∃ task, pool.tasks[entry.task]? = some task ∧
          task.key = entry.key := by
      obtain ⟨old, there, same⟩ := old
      rw [stepped.tasks]
      by_cases moved : i = entry.task
      · subst moved
        obtain rfl := Option.some.inj (found.symm.trans there)
        rw [getElem?_set_found _ found]
        exact ⟨task', rfl, stepped.next.key.trans same⟩
      · rw [List.getElem?_set_ne moved]
        exact ⟨old, there, same⟩
    intro entry member
    rcases List.mem_append.mp member with member | member
    · exact kept entry (attributed entry member)
    · rw [Auditor.logged_probe c found] at member
      obtain ⟨call, _, rfl⟩ := List.mem_map.mp member
      exact kept _ ⟨task, found, rfl⟩

theorem attributed_run (a : Auditor τ) (turns : List (Turn τ)) :
    Attributed (a.run turns).pool (a.log turns) :=
  Auditor.run_log_keeps (fun a log => Attributed a.pool log)
    (fun a _ t attributed => attributed.moved (Auditor.poolMoved_turn a t)) a turns
    (by simp [Attributed])

end ReachAudit
