import ReachAudit.Proofs.Auditor.Tracking

namespace ReachAudit

open History (Key Row Store)

variable {τ : Type}

def Carries (stored written : Row τ) : Prop :=
  stored.status = written.status ∧ stored.message = written.message ∧
    stored.updatedAt = written.updatedAt ∧ stored.generation = written.generation

namespace World

structure Documented (start w : World τ) : Prop where
  replayed : w = start.run w.past
  findings : ∀ f ∈ w.findings, ∃ ids roles, w.past[f.time]? = some (.lookUp ids roles) ∧
    f.versions = (start.run (w.past.take f.time)).auditor.rules.lookUp ids roles
  origins : ∀ o ∈ w.origins, ∃ f ∈ w.findings, o.1 = f.time ∧ o.2 ∈ f.versions

theorem Finding.of_origin {f : Finding} {o : Nat × RuleVersion} (member : o ∈ f.origins) :
    o.1 = f.time ∧ o.2 ∈ f.versions := by
  obtain ⟨v, has, member⟩ := List.mem_flatMap.mp member
  obtain ⟨target, _, rfl⟩ := List.mem_map.mp member
  exact ⟨rfl, has⟩

theorem Documented.take {start w : World τ} (documented : Documented start w) (action : Action τ) :
    Documented start (w.take action) := by
  have earlier : ∀ f ∈ w.findings, ∃ ids roles,
      (w.past ++ [action])[f.time]? = some (.lookUp ids roles) ∧
        f.versions = (start.run ((w.past ++ [action]).take f.time)).auditor.rules.lookUp ids roles := by
    intro f member
    obtain ⟨ids, roles, at_time, versions⟩ := documented.findings f member
    have bound : f.time < w.past.length := (List.getElem?_eq_some_iff.mp at_time).1
    refine ⟨ids, roles, ?_, ?_⟩
    · rw [List.getElem?_append_left bound]
      exact at_time
    · rw [List.take_append_of_le_length (Nat.le_of_lt bound)]
      exact versions
  refine ⟨?_, ?_, ?_⟩
  · change w.take action = start.run (w.past ++ [action])
    rw [run_append, ← documented.replayed]
    rfl
  · cases action with
    | lookUp ids roles =>
      intro f member
      rcases List.mem_append.mp member with member | member
      · exact earlier f member
      · rw [List.mem_singleton.mp member]
        refine ⟨ids, roles, List.getElem?_concat_length, ?_⟩
        simp only [World.take, List.take_left]
        rw [← documented.replayed]
    | launch now id node n =>
      intro f member
      simp only [World.take, act] at member
      split at member <;> exact earlier f member
    | _ => exact earlier
  · cases action with
    | lookUp ids roles =>
      intro o member
      obtain ⟨f, has, origin⟩ := documented.origins o member
      exact ⟨f, List.mem_append_left _ has, origin⟩
    | launch now id node n =>
      intro o member
      simp only [World.take, act] at member ⊢
      cases found : w.findings[n]? with
      | none =>
        simp only [found] at member ⊢
        exact documented.origins o member
      | some f =>
        simp only [found] at member ⊢
        rcases List.mem_append.mp member with member | member
        · exact documented.origins o member
        · exact ⟨f, List.mem_of_getElem? found, Finding.of_origin member⟩
    | _ => exact documented.origins

theorem documented_run (hash : Key → Nat) (shards limit : Nat) (actions : List (Action τ)) :
    Documented (new hash shards limit) ((new hash shards limit : World τ).run actions) := by
  refine run_keeps (Documented (new hash shards limit)) (fun _ action here => here.take action) _
    actions ⟨rfl, ?_, ?_⟩
  · intro f member
    cases member
  · intro o member
    cases member

/-- The write of a probe finds its version current and takes effect, or finds it superseded and
    leaves no trace. -/
theorem Tracked.write {w : World τ} {time : Nat} {v : RuleVersion} {task : Task τ} (sound : w.Sound)
    (tracked : w.Tracked time v) (probe : task.IsProbeOf v) :
    let after := w.auditor.history.upsert task.key task.row
    ((∃ row, after.get? task.key = some row ∧ Carries row task.row) ↔ ¬ w.Disturbed time v) ∧
      (w.Disturbed time v → after = w.auditor.history) := by
  have refused : w.Disturbed time v →
      w.auditor.history.upsert task.key task.row = w.auditor.history := by
    intro disturbed
    apply Store.upsert_of_superseded
    rw [probe.generation, probe.rule]
    exact tracked.superseded disturbed
  refine ⟨⟨?_, ?_⟩, refused⟩
  · intro effective disturbed
    obtain ⟨row, stored, carries⟩ := effective
    rw [refused disturbed] at stored
    obtain ⟨entry, found, generation, _⟩ := sound.faithful task.key row stored
    have past : v.generation < w.auditor.rules.history.generation v.id :=
      tracked.superseded disturbed
    have present := sound.synced.generation task.key.rule entry found
    have written := carries.2.2.2
    rw [probe.rule] at present
    rw [generation, present, probe.generation] at written
    omega
  · intro undisturbed
    have accepted : w.auditor.history.generation task.key.rule ≤ task.row.generation := by
      rw [probe.rule, probe.generation]
      exact (tracked.generation_le_iff sound.synced).mpr undisturbed
    obtain ⟨generation, status, message, updatedAt⟩ :=
      task.row.onto_carries (w.auditor.history.get? task.key)
    refine ⟨task.row.onto (w.auditor.history.get? task.key), ?_, status, message, updatedAt,
      generation⟩
    have placed : w.auditor.history.Placed := sound.synced.placed
    rw [Store.get?_upsert placed, if_pos ⟨rfl, accepted⟩]

/-- Nothing is lost and nothing stale is kept: when a probe of a version that was looked up at some
    time writes its row, pending or with the outcome, the row takes effect just if the rule was
    neither deleted nor applied in another shape since. Otherwise the history stays as it was. -/
theorem write_takes_effect_iff (hash : Key → Nat) (shards limit : Nat) (actions : List (Action τ))
    (i : Nat) (task : Task τ) (time : Nat) (v : RuleVersion) (c : Conditions τ)
    (found : ((new hash shards limit).run actions).auditor.pool.tasks[i]? = some task)
    (origin : ((new hash shards limit : World τ).run actions).origins[i]? = some (time, v))
    (writing : task.phase.writes = true) (taken : c.writeFails task.key = false) :
    let start : World τ := new hash shards limit
    let before := (start.run actions).auditor.history
    let after := ((start.run actions).take (.probe c i)).auditor.history
    (∃ ids roles, actions[time]? = some (.lookUp ids roles) ∧
      v ∈ (start.run (actions.take time)).auditor.rules.lookUp ids roles) ∧
    ((∃ row, after.get? task.key = some row ∧ Carries row task.row) ↔
      ¬ ∃ action ∈ actions.drop time, action.Disturbs v) ∧
    ((∃ action ∈ actions.drop time, action.Disturbs v) → after = before) := by
  intro start before after
  have sound : (start.run actions).Sound := (Sound.new hash shards limit).run actions
  have past : (start.run actions).past = actions := past_run start actions
  have documented := documented_run hash shards limit actions
  constructor
  · obtain ⟨f, member, same, has⟩ := documented.origins (time, v) (List.mem_of_getElem? origin)
    obtain ⟨ids, roles, at_time, versions⟩ := documented.findings f member
    dsimp only at same has
    rw [← same, show ((new hash shards limit : World τ).run actions).past = actions from past]
      at at_time versions
    exact ⟨ids, roles, at_time, versions ▸ has⟩
  · obtain ⟨t, u, here, tracked, probe⟩ := sound.origin found
    rw [show (start.run actions).origins[i]? = some (time, v) from origin] at here
    cases here
    have effect : after = before.upsert task.key task.row := by
      obtain ⟨task', stepped⟩ := Auditor.stepped_step c found
      change ((start.run actions).auditor.step c i).history = _
      rw [stepped.history, Auditor.storeAfter, if_pos ⟨writing, taken⟩]
    have disturbed : (start.run actions).Disturbed time v ↔
        ∃ action ∈ actions.drop time, action.Disturbs v := by
      rw [Disturbed, past]
    rw [effect, ← disturbed]
    exact tracked.write sound probe

def sampleRule : Rule := { roles := ["db"], addresses := ["a"], ports := ["1"] }

def sampleConditions : Conditions Nat := { now := 3, probe := fun _ _ _ => .success }

def sampleTask : Task Nat where
  batch := 0
  key := ⟨"ns/r", "n", "a", some "1"⟩
  strategy := .direct
  row := Row.pending 2 ⟨"ns/r", sampleRule, 0⟩ sampleNode
  phase := .announcing

def editedInFlight : List (Action Nat) := [
  .apply 1 "ns/r" sampleRule, .lookUp none ["db"], .launch 2 "n" sampleNode 0,
  .probe sampleConditions 0, .probe sampleConditions 0,
  .apply 3 "ns/r" { sampleRule with addresses := ["a", "a"], description := some "edited" }]

theorem write_takes_effect_edited :
    ∃ row, (((new Key.checksum 2 1).run editedInFlight).take
        (.probe sampleConditions 0)).auditor.history.get? sampleTask.key = some row ∧
      row.status = .pending := by
  have found : ((new Key.checksum 2 1).run editedInFlight).auditor.pool.tasks[0]? =
      some sampleTask := by decide +kernel
  have origin : ((new Key.checksum 2 1).run editedInFlight).origins[0]? =
      some (1, ⟨"ns/r", sampleRule, 0⟩) := by decide +kernel
  have undisturbed : ¬ ∃ action ∈ editedInFlight.drop 1,
      action.Disturbs ⟨"ns/r", sampleRule, 0⟩ := by
    simp only [editedInFlight, List.drop_succ_cons, List.drop_zero, List.mem_cons, List.not_mem_nil,
      or_false, exists_eq_or_imp, exists_eq_left, Action.Disturbs, false_or, not_and, not_not]
    intro _
    exact Rule.sameShape_iff.mp (by decide)
  obtain ⟨row, stored, status, _⟩ := (write_takes_effect_iff Key.checksum 2 1 editedInFlight 0
    sampleTask 1 _ sampleConditions found origin rfl rfl).2.1.mpr undisturbed
  exact ⟨row, stored, status⟩

end World

end ReachAudit
