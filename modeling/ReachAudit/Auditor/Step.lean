import ReachAudit.Auditor

namespace ReachAudit

open History (Key Row)

/-- What a step of a probe meets outside the auditor. -/
structure Conditions (τ : Type) where
  now : τ
  probe : Strategy → (address : String) → (port : Option String) → Outcome
  lasts : Strategy → (address : String) → (port : Option String) → Bool := fun _ _ _ => false
  checkFails : Key → Bool := fun _ => false
  writeFails : Key → Bool := fun _ => false

namespace Auditor

variable {τ : Type}

def write (c : Conditions τ) (key : Key) (row : Row τ) (a : Auditor τ) : Bool × Auditor τ :=
  if c.writeFails key then (false, a.mapMetrics Metrics.historyWriteFailed)
  else (true, a.mapHistory (·.upsert key row))

def setTask (i : Nat) (task : Task τ) (a : Auditor τ) : Auditor τ :=
  { a with pool := a.pool.setTask i task }

/-- The next step of one task. A queued task stays so while no permit is left, and a task that is
    done takes no more steps. -/
def stepTask (c : Conditions τ) (i : Nat) (task : Task τ) (a : Auditor τ) : Auditor τ :=
  match task.phase with
  | .queued =>
    if a.pool.running < a.pool.limit then a.setTask i { task with phase := .checking } else a
  | .checking =>
    let skips := c.checkFails task.key || a.history.contains task.key
    a.setTask i { task with phase := if skips then .probing else .announcing }
  | .announcing => (a.write c task.key task.row).2.setTask i { task with phase := .probing }
  | .probing =>
    let outcome := c.probe task.strategy task.key.address task.key.port
    let a := (a.mapMetrics (·.probeCompleted task.strategy outcome.status)).setTask i
      { task with row := task.concluded c.now outcome, phase := .recording }
    { a with pool.waiting := a.pool.waiting ++ [i] }
  | .recording =>
    let (recorded, a) := a.write c task.key task.row
    let a := a.setTask i { task with phase := .reporting recorded }
    { a with pool.waiting := a.pool.waiting.erase i }
  | .reporting recorded =>
    let a := a.setTask i { task with phase := .done }
    { a with pool.reports := a.pool.reports ++ [(task.batch, task.report recorded)] }
  | .done => a

def step (c : Conditions τ) (i : Nat) (a : Auditor τ) : Auditor τ :=
  match a.pool.tasks[i]? with
  | some task => a.stepTask c i task
  | none => a

def taskSteps : Nat := 6

def isIn (p : Phase → Bool) (i : Nat) (a : Auditor τ) : Bool :=
  (a.pool.tasks[i]?.map Task.phase).any p

def isLasting (c : Conditions τ) (i : Nat) (a : Auditor τ) : Bool :=
  a.pool.tasks[i]?.any fun task =>
    task.phase = .probing && c.lasts task.strategy task.key.address task.key.port

def runTask (c : Conditions τ) (held : Bool) (i : Nat) (a : Auditor τ) : Auditor τ :=
  (List.range taskSteps).foldl (fun a _ =>
    if (held && a.isIn (· = .recording) i) || a.isLasting c i then a else a.step c i) a

def runQueued (c : Conditions τ) (held : Bool) (a : Auditor τ) : Auditor τ :=
  (List.range a.pool.tasks.length).foldl (fun a i =>
    if a.isIn (· = .queued) i then a.runTask c held i else a) a

def endProbe (c : Conditions τ) (held : Bool) (i : Nat) (a : Auditor τ) : Auditor τ :=
  if a.isLasting c i then ((a.step c i).runTask c held i).runQueued c held else a

/-- Lets the tasks run until nothing moves any more. Outcomes are written in the order in which they
    came; a permit that a task gives back goes to the queued ones before the next outcome is
    written. Probes that take time end when all else has been done, in the order of their tasks. -/
def settle (c : Conditions τ) (held : Bool) (a : Auditor τ) : Auditor τ :=
  let a := a.pool.waiting.foldl (fun a i => (a.runTask c held i).runQueued c held) a
  let a := a.runQueued c held
  (List.range a.pool.tasks.length).foldl (fun a i => a.endProbe c held i) a

end Auditor

end ReachAudit
