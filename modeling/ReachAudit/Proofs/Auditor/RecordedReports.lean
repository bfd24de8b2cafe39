import Mathlib.Data.List.Induction
import ReachAudit.Proofs.Auditor.PendingRows
import ReachAudit.Proofs.Auditor.Turns

namespace ReachAudit

open History (Key Row Status Store)

variable {τ : Type}

namespace World

variable {start w : World τ} {batch k i : Nat} {c : Conditions τ} {r : Report} {task : Task τ}

/-- A step of a run hands the outcome of task `i` to the store. -/
structure FinalWrite (start : World τ) (actions earlier : List (Action τ)) (c : Conditions τ)
    (i : Nat) (task : Task τ) : Prop where
  step : ∃ later, actions = earlier ++ .probe c i :: later
  found : (start.run earlier).auditor.pool.tasks[i]? = some task
  recording : task.phase = .recording

/-- A step of task `i` in a run makes the report that then is at place `k`. -/
structure ReportedBy (start : World τ) (actions earlier : List (Action τ)) (k i : Nat)
    (made : Nat × Report) : Prop where
  count : (start.run earlier).auditor.pool.reports.length = k
  step : ∃ c later, actions = earlier ++ .probe c i :: later ∧
    ((start.run earlier).take (.probe c i)).auditor.pool.reports =
      (start.run earlier).auditor.pool.reports ++ [made]

theorem FinalWrite.concat {actions earlier : List (Action τ)}
    (written : FinalWrite start actions earlier c i task) (action : Action τ) :
    FinalWrite start (actions ++ [action]) earlier c i task := by
  obtain ⟨⟨later, rfl⟩, found, recording⟩ := written
  exact ⟨⟨later ++ [action], by simp⟩, found, recording⟩

theorem ReportedBy.concat {actions earlier : List (Action τ)} {made : Nat × Report}
    (reported : ReportedBy start actions earlier k i made) (action : Action τ) :
    ReportedBy start (actions ++ [action]) earlier k i made := by
  obtain ⟨count, c, later, rfl, grown⟩ := reported
  exact ⟨count, c, later ++ [action], by simp, grown⟩

theorem finalWrite_of_reporting (idle : start.auditor.pool.tasks = []) (actions : List (Action τ))
    {recorded : Bool} (found : (start.run actions).auditor.pool.tasks[i]? = some task)
    (reporting : task.phase = .reporting recorded) :
    ∃ earlier c before, FinalWrite start actions earlier c i before ∧
      task.batch = before.batch ∧
        task.report recorded = before.report (!c.writeFails before.key) := by
  induction actions using List.reverseRecOn with
  | nil =>
    change start.auditor.pool.tasks[i]? = some task at found
    rw [idle] at found
    cases found
  | append_singleton actions action ih =>
    rw [run_append] at found
    cases taskFrom_take found with
    | kept here other =>
      obtain ⟨earlier, c, before, written, rest⟩ := ih here
      exact ⟨earlier, c, before, written.concat action, rest⟩
    | spawned queued pending =>
      rw [queued] at reporting
      cases reporting
    | stepped c before same here next =>
      cases next with
      | records recording =>
        cases reporting
        exact ⟨actions, c, before, ⟨⟨[], by rw [same]⟩, here, recording⟩, rfl, rfl⟩
      | waits queued full =>
        rw [queued] at reporting
        cases reporting
      | rests done =>
        rw [done] at reporting
        cases reporting
      | _ => cases reporting

theorem reports_take (w : World τ) (action : Action τ) :
    (w.take action).auditor.pool.reports = w.auditor.pool.reports ∨
      ∃ c i task recorded, action = .probe c i ∧ w.auditor.pool.tasks[i]? = some task ∧
        task.phase = .reporting recorded ∧ (w.take action).auditor.pool.reports =
          w.auditor.pool.reports ++ [(task.batch, task.report recorded)] := by
  cases action with
  | probe c i =>
    change (w.auditor.step c i).pool.reports = _ ∨ _
    cases found : w.auditor.pool.tasks[i]? with
    | none =>
      rw [Auditor.step_of_none found]
      exact Or.inl rfl
    | some task =>
      obtain ⟨after, stepped⟩ := Auditor.stepped_step c found
      have made := (Auditor.poolStepped found stepped).reports
      cases phase : task.phase with
      | reporting recorded =>
        rw [Task.reporting, phase] at made
        exact Or.inr ⟨c, i, task, recorded, rfl, found, phase, made⟩
      | _ =>
        rw [Task.reporting, phase, List.append_nil] at made
        exact Or.inl made
  | launch now id node n =>
    simp only [take, act]
    split <;> exact Or.inl rfl
  | apply now id rule => exact Or.inl rfl
  | delete id => exact Or.inl rfl
  | addNode now id node => exact Or.inl rfl
  | lookUp ids roles => exact Or.inl rfl

theorem finalWrite_of_report (idle : start.auditor.pool.tasks = [])
    (silent : start.auditor.pool.reports = []) (actions : List (Action τ))
    (made : (start.run actions).auditor.pool.reports[k]? = some (batch, r)) :
    ∃ first earlier c i task, ReportedBy start actions first k i (batch, r) ∧
      FinalWrite start first earlier c i task ∧ batch = task.batch ∧
        r = task.report (!c.writeFails task.key) := by
  induction actions using List.reverseRecOn with
  | nil =>
    change start.auditor.pool.reports[k]? = some (batch, r) at made
    rw [silent] at made
    cases made
  | append_singleton actions action ih =>
    have earlier (before : (start.run actions).auditor.pool.reports[k]? = some (batch, r)) :
        ∃ first earlier c i task, ReportedBy start (actions ++ [action]) first k i (batch, r) ∧
          FinalWrite start first earlier c i task ∧ batch = task.batch ∧
            r = task.report (!c.writeFails task.key) := by
      obtain ⟨first, earlier, c, i, task, reported, rest⟩ := ih before
      exact ⟨first, earlier, c, i, task, reported.concat action, rest⟩
    rw [run_append] at made
    change ((start.run actions).take action).auditor.pool.reports[k]? = some (batch, r) at made
    rcases reports_take (start.run actions) action with same | made'
    · rw [same] at made
      exact earlier made
    · obtain ⟨c, i, task, recorded, rfl, found, reporting, grown⟩ := made'
      rw [grown, List.getElem?_append] at made
      split at made
      · exact earlier made
      · rename_i late
        obtain ⟨position, value⟩ := List.getElem?_eq_some_iff.mp made
        rw [List.length_singleton] at position
        rw [List.getElem_singleton] at value
        cases value
        obtain ⟨earlier, c', before, written, batch, report⟩ :=
          finalWrite_of_reporting idle actions found reporting
        exact ⟨actions, earlier, c', i, before, ⟨by omega, c, [], rfl, grown⟩, written, batch,
          report⟩

theorem history_take_of_recording (found : w.auditor.pool.tasks[i]? = some task)
    (recording : task.phase = .recording) (c : Conditions τ) :
    (w.take (.probe c i)).auditor.history =
      if c.writeFails task.key then w.auditor.history
      else w.auditor.history.upsert task.key task.row := by
  obtain ⟨task', stepped⟩ := Auditor.stepped_step c found
  change (w.auditor.step c i).history = _
  rw [stepped.history, Auditor.storeAfter, recording]
  cases c.writeFails task.key <;> rfl

/-- A report says that the outcome was recorded when the store did not fail. Its row is there, with
    what the probe wrote, just if the rule was neither deleted nor applied in another shape between
    the look-up that led to the probe and its final write. Otherwise the outcome is dropped, and the
    report says that it was recorded all the same. -/
theorem recorded_report_has_row_iff (hash : Key → Nat) (shards limit : Nat)
    (actions : List (Action τ)) (k batch : Nat) (r : Report)
    (made : ((new hash shards limit).run actions).auditor.pool.reports[k]? = some (batch, r)) :
    let start : World τ := new hash shards limit
    ∃ first earlier c i task time v, ReportedBy start actions first k i (batch, r) ∧
      FinalWrite start first earlier c i task ∧
      batch = task.batch ∧ r = ⟨task.key, task.row.status, !c.writeFails task.key⟩ ∧
      (start.run earlier).origins[i]? = some (time, v) ∧
      (∃ ids roles, earlier[time]? = some (.lookUp ids roles) ∧
        v ∈ (start.run (earlier.take time)).auditor.rules.lookUp ids roles) ∧
      let before := (start.run earlier).auditor.history
      let after := ((start.run earlier).take (.probe c i)).auditor.history
      let disturbed := ∃ action ∈ earlier.drop time, action.Disturbs v
      (r.recorded = true →
        ((∃ row, after.get? r.key = some row ∧ row.status = r.status ∧ Carries row task.row) ↔
          ¬ disturbed)) ∧
      (r.recorded = false ∨ disturbed → after = before) := by
  intro start
  obtain ⟨first, earlier, c, i, task, reported, written, own, rfl⟩ :=
    finalWrite_of_report rfl rfl actions made
  have sound : (start.run earlier).Sound := (Sound.new hash shards limit).run earlier
  have past : (start.run earlier).past = earlier := past_run start earlier
  have documented := documented_run hash shards limit earlier
  obtain ⟨time, v, origin, tracked, probe⟩ := sound.origin written.found
  have effect := history_take_of_recording written.found written.recording c
  have undisturbed := (tracked.write sound probe).1
  have dropped := (tracked.write sound probe).2
  simp only [Disturbed, past] at undisturbed dropped
  refine ⟨first, earlier, c, i, task, time, v, reported, written, own, rfl, origin, ?_, ?_, ?_⟩
  · obtain ⟨f, member, same, has⟩ := documented.origins (time, v) (List.mem_of_getElem? origin)
    obtain ⟨ids, roles, at_time, versions⟩ := documented.findings f member
    dsimp only at same has
    rw [← same, show ((new hash shards limit : World τ).run earlier).past = earlier from past]
      at at_time versions
    exact ⟨ids, roles, at_time, versions ▸ has⟩
  · intro recorded
    have taken : c.writeFails task.key = false := by simpa [Task.report] using recorded
    rw [taken] at effect
    rw [show ((start.run earlier).take (.probe c i)).auditor.history = _ from effect,
      ← undisturbed]
    constructor
    · rintro ⟨row, stored, _, carries⟩
      exact ⟨row, stored, carries⟩
    · rintro ⟨row, stored, carries⟩
      exact ⟨row, stored, carries.1, carries⟩
  · intro lost
    rw [show ((start.run earlier).take (.probe c i)).auditor.history = _ from effect]
    split
    · rfl
    · rename_i taken
      refine dropped (lost.resolve_left fun unrecorded => taken ?_)
      simpa [Task.report] using unrecorded

def deletedInFlight : List (Action Nat) := [
  .apply 1 "ns/r" sampleRule, .lookUp none ["db"], .launch 2 "n" sampleNode 0,
  .probe sampleConditions 0, .probe sampleConditions 0, .probe sampleConditions 0,
  .probe sampleConditions 0, .delete "ns/r"]

def deletedAndReported : List (Action Nat) :=
  deletedInFlight ++ [.probe sampleConditions 0, .probe sampleConditions 0]

theorem recorded_report_has_row_iff_deleted :
    ((new Key.checksum 2 1).run deletedAndReported).auditor.pool.reports[0]? =
        some (0, ⟨sampleTask.key, .success, true⟩) ∧
      ∃ first earlier c i task,
        ReportedBy (new Key.checksum 2 1) deletedAndReported first 0 i
          (0, ⟨sampleTask.key, .success, true⟩) ∧
        FinalWrite (new Key.checksum 2 1) first earlier c i task ∧
          task.key = sampleTask.key ∧ task.row.status = .success ∧
          c.writeFails task.key = false := by
  have made : ((new Key.checksum 2 1).run deletedAndReported).auditor.pool.reports[0]? =
      some (0, ⟨sampleTask.key, .success, true⟩) := by decide +kernel
  obtain ⟨first, earlier, c, i, task, time, v, reported, written, rest⟩ :=
    recorded_report_has_row_iff Key.checksum 2 1 deletedAndReported 0 0 _ made
  obtain ⟨key, outcome, taken⟩ := Report.mk.inj rest.2.1
  exact ⟨made, first, earlier, c, i, task, reported, written, key.symm, outcome.symm,
    by simpa using taken.symm⟩

/-- The outcome is dropped, yet reported as recorded. -/
theorem recorded_report_without_row :
    (((new Key.checksum 2 1).run deletedInFlight).take
        (.probe sampleConditions 0)).auditor.history.get? sampleTask.key = none ∧
      ((new Key.checksum 2 1).run deletedAndReported).auditor.pool.reports =
        [(0, ⟨sampleTask.key, .success, true⟩)] := by
  decide +kernel

end World

end ReachAudit
