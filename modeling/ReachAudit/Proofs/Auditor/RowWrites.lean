import ReachAudit.Proofs.Auditor.PendingRows

namespace ReachAudit

open History (Key Row Status Store)

variable {τ : Type}

namespace Task.Next

variable {c : Conditions τ} {a : Auditor τ} {task task' : Task τ}

theorem kept_of_closed (next : task.Next c a task') (closed : task.phase.isOpen = false) :
    task'.row = task.row ∧ task'.phase.isOpen = false := by
  cases next with
  | waits _ _ | rests _ => exact ⟨rfl, closed⟩
  | reports _ phase => exact ⟨rfl, rfl⟩
  | starts phase _ | skips phase _ | misses phase _ _ | announces phase | probes phase
  | records phase =>
    rw [phase] at closed
    cases closed

theorem closed_of_recording (next : task.Next c a task') (recording : task.phase = .recording) :
    task'.phase.isOpen = false ∧ task'.row = task.row := by
  cases next with
  | records _ => exact ⟨rfl, rfl⟩
  | waits phase _ | starts phase _ | skips phase _ | misses phase _ _ | announces phase
  | probes phase | rests phase | reports _ phase =>
    rw [phase] at recording
    cases recording

theorem from_probing (next : task.Next c a task') (probing : task'.phase = .probing) :
    task.phase = .announcing ∨ task.phase = .checking ∧
      (c.checkFails task.key = true ∨ a.history.contains task.key = true) := by
  cases next with
  | skips phase known => exact Or.inr ⟨phase, known⟩
  | announces phase => exact Or.inl phase
  | waits phase _ | rests phase =>
    rw [phase] at probing
    cases probing
  | _ => cases probing

theorem from_recording (next : task.Next c a task') (recording : task'.phase = .recording) :
    task.phase = .probing ∧ task'.row.updatedAt = c.now := by
  cases next with
  | probes phase => exact ⟨phase, rfl⟩
  | waits phase _ | rests phase =>
    rw [phase] at recording
    cases recording
  | _ => cases recording

theorem generation (next : task.Next c a task') : task'.row.generation = task.row.generation := by
  cases next <;> rfl

end Task.Next

namespace World

variable {w : World τ} {action : Action τ} {key : Key} {row : Row τ} {i : Nat} {task : Task τ}

theorem generation_le_take (w : World τ) (action : Action τ) (rule : RuleId) :
    w.auditor.history.generation rule ≤ (w.take action).auditor.history.generation rule := by
  have changed := w.changed_take action
  change w.auditor.rules.history.generation rule ≤
    (w.take action).auditor.rules.history.generation rule
  generalize (w.take action).auditor.rules = next at changed ⊢
  cases changed with
  | applied now id arrived _ same arrival =>
    cases arrival with
    | reshaped known found different => exact Store.generation_le_clear ..
    | _ => exact Nat.le_refl _
  | deleted id _ same removal =>
    cases removal with
    | ignored absent => exact Nat.le_refl _
    | removed known found => exact Store.generation_le_clear ..
  | written history quiet generation placed => exact Nat.le_of_eq (generation rule).symm

theorem stays_take (placed : w.auditor.history.Placed)
    (stored : w.auditor.history.get? key = some row)
    (kept : (w.take action).auditor.history.generation key.rule ≤
      w.auditor.history.generation key.rule) :
    (w.take action).auditor.history.get? key = some row ∨
      ∃ i task, w.Writes action i task ∧ task.key = key ∧
        (w.take action).auditor.history.get? key = some (task.row.onto (some row)) := by
  cases action with
  | probe c i =>
    change (w.auditor.step c i).history.get? key = some row ∨ ∃ j task, _ ∧ _ ∧
      (w.auditor.step c i).history.get? key = _
    cases found : w.auditor.pool.tasks[i]? with
    | none =>
      rw [Auditor.step_of_none found]
      exact Or.inl stored
    | some task =>
      obtain ⟨after, stepped⟩ := Auditor.stepped_step c found
      rw [stepped.history, Auditor.storeAfter]
      split
      · rename_i writes
        rw [Store.get?_upsert placed]
        split
        · rename_i own
          obtain ⟨rfl, accepted⟩ := own
          exact Or.inr ⟨i, task, ⟨⟨c, rfl, writes.2⟩, found, writes.1, accepted⟩, rfl,
            congrArg (fun old => some (task.row.onto old)) stored⟩
        · exact Or.inl stored
      · exact Or.inl stored
  | apply now id rule =>
    have arrival := RuleIndex.applied_apply now id rule w.auditor.rules
    change (w.auditor.rules.apply now id rule).history.generation key.rule ≤ _ at kept
    change (w.auditor.rules.apply now id rule).history.get? key = some row ∨ _
    generalize w.auditor.rules.apply now id rule = next at arrival kept ⊢
    cases arrival with
    | reshaped known found different =>
      exact Or.inl ((Store.get?_clear_of_le placed kept).trans stored)
    | _ => exact Or.inl stored
  | delete id =>
    have removal := RuleIndex.deleted_delete id w.auditor.rules
    change (w.auditor.rules.delete id).history.generation key.rule ≤ _ at kept
    change (w.auditor.rules.delete id).history.get? key = some row ∨ _
    generalize w.auditor.rules.delete id = next at removal kept ⊢
    cases removal with
    | ignored absent => exact Or.inl stored
    | removed known found => exact Or.inl ((Store.get?_clear_of_le placed kept).trans stored)
  | launch now id node n =>
    simp only [take, act]
    split <;> exact Or.inl stored
  | addNode now id node => exact Or.inl stored
  | lookUp ids roles => exact Or.inl stored

theorem createdAt_take {row' : Row τ} (placed : w.auditor.history.Placed)
    (stored : w.auditor.history.get? key = some row)
    (after : (w.take action).auditor.history.get? key = some row') :
    row'.createdAt = row.createdAt := by
  rcases get?_take placed after with before | ⟨i, task, written, own, rfl⟩
  · rw [stored] at before
    cases before
    rfl
  · rw [stored]
    rfl

theorem createdAt_run (sound : w.Sound) {after : List (Action τ)} {row' : Row τ}
    (stored : w.auditor.history.get? key = some row)
    (lives : ∀ middle rest, after = middle ++ rest →
      ∃ row, (w.run middle).auditor.history.get? key = some row)
    (still : (w.run after).auditor.history.get? key = some row') :
    row'.createdAt = row.createdAt := by
  induction after generalizing w row with
  | nil =>
    rw [show (w.run []).auditor.history.get? key = some row from stored] at still
    cases still
    rfl
  | cons action rest ih =>
    obtain ⟨next, after⟩ := lives [action] rest rfl
    refine (ih (sound.take action) after ?_ still).trans
      (createdAt_take sound.synced.placed stored after)
    intro middle last split
    exact lives (action :: middle) last (by rw [split]; rfl)

theorem Sound.generation_le (sound : w.Sound) (found : w.auditor.pool.tasks[i]? = some task) :
    task.row.generation ≤ w.auditor.history.generation task.key.rule := by
  obtain ⟨time, v, _, tracked, probe⟩ := sound.origin found
  rw [probe.rule, probe.generation]
  by_cases disturbed : w.Disturbed time v
  · exact Nat.le_of_lt (tracked.superseded disturbed)
  · obtain ⟨entry, present, generation, _⟩ := tracked.current disturbed
    rw [← generation]
    exact Nat.le_of_eq (sound.synced.generation v.id entry present)

theorem history_take_of_not_writes {c : Conditions τ} (found : w.auditor.pool.tasks[i]? = some task)
    (silent : task.phase.writes = false) :
    (w.take (.probe c i)).auditor.history = w.auditor.history := by
  obtain ⟨after, stepped⟩ := Auditor.stepped_step c found
  change (w.auditor.step c i).history = _
  rw [stepped.history, Auditor.storeAfter, if_neg]
  rintro ⟨writes, _⟩
  rw [silent] at writes
  cases writes

def Live (w : World τ) (task : Task τ) : Prop :=
  w.auditor.history.generation task.key.rule ≤ task.row.generation

theorem taskAt_of_closed {j : Nat} {other : Task τ}
    (found : w.auditor.pool.tasks[j]? = some other) (closed : other.phase.isOpen = false)
    (action : Action τ) :
    ∃ later, (w.take action).auditor.pool.tasks[j]? = some later ∧ later.key = other.key ∧
      later.row = other.row ∧ later.phase.isOpen = false := by
  cases action with
  | probe c i =>
    change ∃ later, (w.auditor.step c i).pool.tasks[j]? = some later ∧ _
    cases moving : w.auditor.pool.tasks[i]? with
    | none =>
      rw [Auditor.step_of_none moving]
      exact ⟨other, found, rfl, rfl, closed⟩
    | some task =>
      obtain ⟨after, stepped⟩ := Auditor.stepped_step c moving
      rw [stepped.tasks]
      by_cases own : i = j
      · subst own
        obtain rfl := Option.some.inj (found.symm.trans moving)
        obtain ⟨row, closed⟩ := stepped.next.kept_of_closed closed
        rw [getElem?_set_found _ found]
        exact ⟨after, rfl, stepped.next.key, row, closed⟩
      · rw [List.getElem?_set_ne own]
        exact ⟨other, found, rfl, rfl, closed⟩
  | launch now id node n =>
    simp only [take, act]
    split
    · refine ⟨other, ?_, rfl, rfl, closed⟩
      change (w.auditor.pool.tasks ++ _)[j]? = some other
      rw [List.getElem?_append_left (List.getElem?_eq_some_iff.mp found).1]
      exact found
    · exact ⟨other, found, rfl, rfl, closed⟩
  | _ => exact ⟨other, found, rfl, rfl, closed⟩

def Recorded (w : World τ) (key : Key) (time : τ) : Prop :=
  ∃ (j : Nat) (other : Task τ), w.auditor.pool.tasks[j]? = some other ∧ other.key = key ∧
    other.phase.isOpen = false ∧ other.row.updatedAt = time

theorem Recorded.take {time : τ} (recorded : w.Recorded key time) (action : Action τ) :
    (w.take action).Recorded key time := by
  obtain ⟨j, other, found, own, closed, rfl⟩ := recorded
  obtain ⟨later, found, same, row, closed⟩ := taskAt_of_closed found closed action
  exact ⟨j, later, found, same.trans own, closed, by rw [row]⟩

theorem truthful_start (hash : Key → Nat) (shards limit : Nat) (actions : List (Action τ)) :
    ∀ task ∈ ((World.new hash shards limit : World τ).run actions).auditor.pool.tasks,
      task.Truthful :=
  truthful_run (fun _ member => by cases member) actions

theorem Writes.recording_of_settled (written : w.Writes action i task) (truthful : task.Truthful)
    (settled : task.row.status ≠ .pending) : task.phase = .recording := by
  have writes := written.writes
  have outcome : task.phase.hasOutcome ≠ false := fun none => settled (truthful.mpr none)
  cases phase : task.phase <;> simp_all [Phase.writes, Phase.hasOutcome]

theorem Writes.announcing_of_pending (written : w.Writes action i task) (truthful : task.Truthful)
    (pending : task.row.status = .pending) : task.phase = .announcing := by
  have writes := written.writes
  have ahead := truthful.mp pending
  cases phase : task.phase <;> simp_all [Phase.writes, Phase.hasOutcome]

theorem Writes.recorded_take (written : w.Writes action i task)
    (recording : task.phase = .recording) :
    (w.take action).Recorded task.key task.row.updatedAt := by
  obtain ⟨⟨c, rfl, taken⟩, found, _, _⟩ := written
  obtain ⟨after, stepped⟩ := Auditor.stepped_step c found
  have found' : (w.auditor.step c i).pool.tasks[i]? = some after := by
    rw [stepped.tasks, getElem?_set_found _ found]
  obtain ⟨closed, row⟩ := stepped.next.closed_of_recording recording
  exact ⟨i, after, found', stepped.next.key, closed, by rw [row]⟩

theorem Sound.live_of_take (sound : w.Sound) (found : w.auditor.pool.tasks[i]? = some task)
    (live : (w.take action).Live task) : w.Live task ∧
      (w.take action).auditor.history.generation task.key.rule ≤
        w.auditor.history.generation task.key.rule :=
  ⟨Nat.le_trans (generation_le_take w action _) live,
    Nat.le_trans live (sound.generation_le found)⟩

end World

end ReachAudit
