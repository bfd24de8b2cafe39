import Mathlib.Logic.Function.Basic
import ReachAudit.Proofs.Auditor.Log

namespace ReachAudit

open History (Key Row Store)

variable {τ : Type}

/-- What there is to one destination: its row, the generation that rows must have to be taken, and
    the row that each of its tasks is to write next. -/
structure Outlook (τ : Type) where
  generation : Nat
  row : Option (Row τ)
  next : Nat → Option (Row τ)

namespace Outlook

def write (o : Outlook τ) (i : Nat) (failed : Bool) : Outlook τ :=
  match o.next i with
  | some row =>
    if failed = false ∧ o.generation ≤ row.generation then { o with row := some (row.onto o.row) }
    else o
  | none => o

def hear (o : Outlook τ) (entry : Logged τ) : Outlook τ :=
  match entry.call with
  | .check _ => o
  | .announce failed | .record failed => o.write entry.task failed
  | .probe now outcome =>
    { o with
      next := Function.update o.next entry.task ((o.next entry.task).map fun row => {
        row with
        status := outcome.status
        message := outcome.message?
        updatedAt := now }) }

end Outlook

namespace Auditor

def outlook (a : Auditor τ) (key : Key) : Outlook τ where
  generation := a.history.generation key.rule
  row := a.history.get? key
  next i := (a.pool.tasks[i]?.filter (·.key = key)).map Task.row

theorem outlook_of_ne {c : Conditions τ} {i : Nat} {task task' : Task τ} {a a' : Auditor τ}
    {key : Key} (placed : a.history.Placed) (found : a.pool.tasks[i]? = some task)
    (stepped : Stepped c i task task' a a') (apart : task.key ≠ key) :
    a'.outlook key = a.outlook key := by
  have row : (a.storeAfter c task).get? key = a.history.get? key := by
    refine storeAfter_induct (·.get? key = a.history.get? key) rfl fun _ => ?_
    rw [Store.get?_upsert placed, if_neg fun both => apart both.1]
  have next (j : Nat) : (a.pool.tasks.set i task')[j]?.filter (·.key = key) =
      a.pool.tasks[j]?.filter (·.key = key) := by
    by_cases same : i = j
    · subst same
      rw [getElem?_set_found _ found, found]
      simp [Option.filter, stepped.next.key, apart]
    · rw [List.getElem?_set_ne same]
  simp only [outlook, stepped.history, stepped.tasks, generation_storeAfter, row, next]

theorem outlook_of_eq {c : Conditions τ} {i : Nat} {task task' : Task τ} {a a' : Auditor τ}
    (found : a.pool.tasks[i]? = some task) (stepped : Stepped c i task task' a a') :
    a'.outlook task.key = {
      a.outlook task.key with
      row := (a.storeAfter c task).get? task.key
      next := Function.update (a.outlook task.key).next i (some task'.row) } := by
  have next : (fun j => ((a.pool.tasks.set i task')[j]?.filter (·.key = task.key)).map Task.row) =
      Function.update (a.outlook task.key).next i (some task'.row) := by
    funext j
    by_cases same : i = j
    · subst same
      rw [getElem?_set_found _ found, Function.update_self]
      simp [Option.filter, stepped.next.key]
    · rw [List.getElem?_set_ne same, Function.update_of_ne (Ne.symm same)]
      rfl
  simp only [outlook, stepped.history, stepped.tasks, generation_storeAfter, next]

theorem outlook_next {i : Nat} {task : Task τ} {a : Auditor τ}
    (found : a.pool.tasks[i]? = some task) :
    (a.outlook task.key).next i = some task.row := by
  simp [outlook, found, Option.filter]

theorem write_outlook {c : Conditions τ} {i : Nat} {task : Task τ} {a : Auditor τ}
    (placed : a.history.Placed) (found : a.pool.tasks[i]? = some task)
    (writes : task.phase.writes = true) :
    (a.outlook task.key).write i (c.writeFails task.key) =
      { a.outlook task.key with row := (a.storeAfter c task).get? task.key } := by
  simp only [Outlook.write, outlook_next found, storeAfter, writes, true_and]
  cases failed : c.writeFails task.key with
  | true => rfl
  | false =>
    simp only [outlook, if_true, true_and, Store.get?_upsert placed]
    by_cases fresh : a.history.generation task.key.rule ≤ task.row.generation
    · rw [if_pos fresh, if_pos fresh]
    · rw [if_neg fresh, if_neg fresh]

theorem outlook_step {a : Auditor τ} (placed : a.history.Placed) (c : Conditions τ) (i : Nat)
    (key : Key) :
    (a.step c i).outlook key =
      ((a.logged (.probe c i)).filter (·.key = key)).foldl Outlook.hear (a.outlook key) := by
  cases found : a.pool.tasks[i]? with
  | none =>
    rw [step_of_none found, logged, found]
    rfl
  | some task =>
    obtain ⟨task', stepped⟩ := stepped_step c found
    by_cases own : task.key = key
    · subst own
      rw [outlook_of_eq found stepped, logged_probe c found]
      have here := outlook_next found
      have idle : Function.update (a.outlook task.key).next i (some task.row) =
          (a.outlook task.key).next := by
        rw [← here, Function.update_eq_self]
      have next := stepped.next
      cases next with
      | announces phase | records phase =>
        have written := write_outlook (c := c) placed found (by rw [phase]; rfl)
        simp [Task.call?, phase, Outlook.hear, idle, written]
      | probes phase =>
        simp [storeAfter, Task.call?, phase, Phase.writes, Outlook.hear, here, Task.concluded]
        rfl
      | waits phase _ | starts phase _ | skips phase _ | misses phase _ _ | rests phase =>
        simp [storeAfter, Task.call?, phase, Phase.writes, Outlook.hear, idle]
        rfl
      | reports recorded phase =>
        simp [storeAfter, Task.call?, phase, Phase.writes, idle]
        rfl
    · have silent : (a.logged (.probe c i)).filter (·.key = key) = [] := by
        rw [logged_probe c found]
        simp [List.filter_map, Function.comp_def, own]
      rw [silent]
      exact outlook_of_ne placed found stepped own

theorem outlook_run {a : Auditor τ} (placed : a.history.Placed)
    (steps : List (Conditions τ × Nat)) (key : Key) :
    (a.run (Turn.probes steps)).outlook key =
      ((a.log (Turn.probes steps)).filter (·.key = key)).foldl Outlook.hear (a.outlook key) := by
  induction steps generalizing a with
  | nil => rfl
  | cons step rest ih =>
    obtain ⟨c, i⟩ := step
    have first := outlook_step placed c i key
    have later := ih (placed_turn placed (.probe c i))
    simp only [Turn.probes, List.map_cons, log, List.filter_append, List.foldl_append] at later ⊢
    rw [← first]
    exact later

end Auditor

end ReachAudit
