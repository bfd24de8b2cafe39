import ReachAudit.Metrics
import ReachAudit.Probe.Outcome

namespace ReachAudit

open History (Key Row Status)

/-- How far the probe of a destination has come. From `checking` to `reporting` it holds one of
    the pool's permits. -/
inductive Phase where
  | queued
  | checking
  | announcing
  | probing
  | recording
  /-- About to report, `recorded` being whether the outcome could be written. -/
  | reporting (recorded : Bool)
  | done
  deriving DecidableEq, Repr

def Phase.isRunning : Phase → Bool
  | .queued => false
  | .done => false
  | _ => true

structure Task (τ : Type) where
  batch : Nat
  key : Key
  strategy : Strategy
  /-- The row to be written: pending at first, then with the outcome. -/
  row : Row τ
  phase : Phase := .queued
  deriving DecidableEq

structure Report where
  key : Key
  status : Status
  recorded : Bool
  deriving DecidableEq, Repr

namespace Task

variable {τ : Type}

def concluded (task : Task τ) (now : τ) (outcome : Outcome) : Row τ :=
  { task.row with status := outcome.status, message := outcome.message?, updatedAt := now }

def report (task : Task τ) (recorded : Bool) : Report :=
  { key := task.key, status := task.row.status, recorded }

end Task

end ReachAudit
