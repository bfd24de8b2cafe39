import ReachAudit.Scan.Target
import ReachAudit.Scan.Task

namespace ReachAudit

/-- The probes of all scans, of which a limited number runs at once. -/
structure Pool (τ : Type) where
  limit : Nat
  limit_pos : 0 < limit
  tasks : List (Task τ) := []
  /-- The tasks whose outcome waits to be written, in the order in which they came to it. -/
  waiting : List Nat := []
  batches : Nat := 0
  reports : List (Nat × Report) := []

structure Batch where
  id : Nat
  probes : Nat
  deriving DecidableEq, Repr

namespace Pool

variable {τ : Type}

/-- The greatest limit. More permits cannot be counted. -/
def greatestLimit : Nat := UInt64.size / 8 - 1

def new (limit : Nat) : Pool τ := { limit := max limit 1, limit_pos := by omega }

def running (pool : Pool τ) : Nat := pool.tasks.countP (·.phase.isRunning)

def permits (pool : Pool τ) : Nat := pool.limit - pool.running

def inFlight (pool : Pool τ) : Nat := pool.tasks.countP (·.phase = .recording)

def setTask (pool : Pool τ) (i : Nat) (task : Task τ) : Pool τ :=
  { pool with tasks := pool.tasks.set i task }

def isFinished (pool : Pool τ) (batch : Nat) : Bool :=
  pool.tasks.all fun task => task.batch ≠ batch || task.phase = .done

def reportsOf (pool : Pool τ) (batch : Nat) : List Report :=
  (pool.reports.filter (·.1 = batch)).map Prod.snd

def tasksOf (now : τ) (batch : Nat) (id : NodeId) (node : Node τ) (v : RuleVersion) :
    List (Task τ) :=
  v.rule.targets.map fun target => {
    batch
    key := target.key v.id id
    strategy := v.rule.strategy
    row := History.Row.pending now v node }

def spawn (now : τ) (id : NodeId) (node : Node τ) (rules : List RuleVersion) (pool : Pool τ) :
    Batch × Pool τ :=
  let tasks := rules.flatMap (tasksOf now pool.batches id node)
  ({ id := pool.batches, probes := tasks.length },
    { pool with tasks := pool.tasks ++ tasks, batches := pool.batches + 1 })

end Pool

end ReachAudit
