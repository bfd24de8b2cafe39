import ReachAudit.Proofs.Auditor.Permits

namespace ReachAudit.Auditor

variable {τ : Type} {a : Auditor τ}

theorem length_tasks_step (a : Auditor τ) (c : Conditions τ) (i : Nat) :
    (a.step c i).pool.tasks.length = a.pool.tasks.length := by
  cases found : a.pool.tasks[i]? with
  | none => rw [step_of_none found]
  | some task =>
    obtain ⟨task', stepped⟩ := stepped_step c found
    rw [stepped.tasks, List.length_set]

def firstSteps (schedule : Nat → Conditions τ × Nat) (n : Nat) : List (Turn τ) :=
  Turn.probes ((List.range n).map schedule)

variable (schedule : Nat → Conditions τ × Nat)

theorem run_firstSteps_succ (a : Auditor τ) (n : Nat) :
    a.run (firstSteps schedule (n + 1)) =
      (a.run (firstSteps schedule n)).step (schedule n).1 (schedule n).2 := by
  rw [firstSteps, List.range_succ, List.map_append, Turn.probes, List.map_append]
  exact run_concat ..

theorem length_tasks_firstSteps (a : Auditor τ) (n : Nat) :
    (a.run (firstSteps schedule n)).pool.tasks.length = a.pool.tasks.length := by
  induction n with
  | zero => rfl
  | succ n ih => rw [run_firstSteps_succ, length_tasks_step, ih]

theorem exists_progress {n : Nat}
    (fair : ∀ i < a.pool.tasks.length, ∀ n, ∃ m, n ≤ m ∧ (schedule m).2 = i)
    (unfinished : ∃ task ∈ (a.run (firstSteps schedule n)).pool.tasks, task.phase ≠ .done) :
    ∃ m, (a.run (firstSteps schedule m)).pool.stepsLeft <
      (a.run (firstSteps schedule n)).pool.stepsLeft := by
  by_contra stuck
  obtain ⟨i, moves⟩ := exists_step_lt unfinished
  -- Until the schedule comes to the task that can move nothing changes.
  have still (k : Nat) :
      a.run (firstSteps schedule (n + k)) = a.run (firstSteps schedule n) := by
    induction k with
    | zero => rfl
    | succ k ih =>
      have same := step_eq_or_lt (a.run (firstSteps schedule (n + k)))
        (schedule (n + k)).1 (schedule (n + k)).2
      rw [← run_firstSteps_succ, ih] at same
      exact same.resolve_right fun progress => stuck ⟨_, progress⟩
  have among : i < a.pool.tasks.length := by
    by_contra beyond
    have missing : (a.run (firstSteps schedule n)).pool.tasks[i]? = none := by
      rw [List.getElem?_eq_none_iff, length_tasks_firstSteps]
      exact Nat.not_lt.mp beyond
    have moved := moves (schedule 0).1
    rw [step_of_none missing] at moved
    exact Nat.lt_irrefl _ moved
  obtain ⟨m, later, chosen⟩ := fair i among n
  obtain ⟨k, rfl⟩ := Nat.exists_eq_add_of_le later
  refine stuck ⟨n + k + 1, ?_⟩
  rw [run_firstSteps_succ, still, chosen]
  exact moves _

theorem exists_all_done (a : Auditor τ)
    (fair : ∀ i < a.pool.tasks.length, ∀ n, ∃ m, n ≤ m ∧ (schedule m).2 = i) :
    ∃ n, ∀ task ∈ (a.run (firstSteps schedule n)).pool.tasks, task.phase = .done := by
  have reached (left : Nat) : ∀ n, (a.run (firstSteps schedule n)).pool.stepsLeft = left →
      ∃ n, ∀ task ∈ (a.run (firstSteps schedule n)).pool.tasks, task.phase = .done := by
    induction left using Nat.strong_induction_on with
    | h left ih =>
      intro n here
      by_cases finished : ∀ task ∈ (a.run (firstSteps schedule n)).pool.tasks, task.phase = .done
      · exact ⟨n, finished⟩
      · push Not at finished
        obtain ⟨m, progress⟩ := exists_progress schedule fair finished
        exact ih _ (here ▸ progress) m rfl
  exact reached _ 0 rfl

end ReachAudit.Auditor
