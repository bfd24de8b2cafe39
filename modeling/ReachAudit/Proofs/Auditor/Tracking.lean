import ReachAudit.Proofs.Auditor.Origins

namespace ReachAudit

open History (Key Row Store)

variable {τ : Type}

namespace World

def Disturbed (w : World τ) (time : Nat) (v : RuleVersion) : Prop :=
  ∃ action ∈ w.past.drop time, action.Disturbs v

/-- What has become of a version that was looked up some time ago. -/
structure Tracked (w : World τ) (time : Nat) (v : RuleVersion) : Prop where
  passed : time ≤ w.past.length
  superseded : w.Disturbed time v → w.auditor.rules.Superseded v
  current : ¬ w.Disturbed time v → w.auditor.rules.Current v

theorem disturbed_take {w : World τ} {time : Nat} {v : RuleVersion} {action : Action τ}
    (passed : time ≤ w.past.length) :
    (w.take action).Disturbed time v ↔ w.Disturbed time v ∨ action.Disturbs v := by
  simp only [Disturbed, take, List.drop_append_of_le_length passed, List.mem_append,
    List.mem_singleton]
  constructor
  · intro disturbed
    obtain ⟨x, member | rfl, disturbs⟩ := disturbed
    · exact Or.inl ⟨x, member, disturbs⟩
    · exact Or.inr disturbs
  · intro disturbed
    rcases disturbed with ⟨x, member, disturbs⟩ | disturbs
    · exact ⟨x, Or.inl member, disturbs⟩
    · exact ⟨action, Or.inr rfl, disturbs⟩

theorem Tracked.take {w : World τ} {time : Nat} {v : RuleVersion} (tracked : w.Tracked time v)
    (synced : w.auditor.rules.Synced) (action : Action τ) : (w.take action).Tracked time v := by
  have changed := w.changed_take action
  constructor
  · simp only [World.take, List.length_append]
    exact Nat.le_add_right_of_le tracked.passed
  · intro disturbed
    by_cases before : w.Disturbed time v
    · exact (tracked.superseded before).changed changed
    · have now := ((disturbed_take tracked.passed).mp disturbed).resolve_left before
      exact (tracked.current before).superseded synced changed now
  · intro undisturbed
    rw [disturbed_take tracked.passed, not_or] at undisturbed
    exact (tracked.current undisturbed.1).changed changed undisturbed.2

theorem tracked_lookUp {w : World τ} {ids : Option (List RuleId)} {roles : List String}
    {v : RuleVersion} (found : v ∈ w.auditor.rules.lookUp ids roles) :
    (w.take (.lookUp ids roles)).Tracked w.past.length v := by
  have undisturbed : ¬ (w.take (.lookUp ids roles)).Disturbed w.past.length v := by
    rw [disturbed_take (Nat.le_refl _), not_or]
    refine ⟨?_, fun disturbs => disturbs⟩
    intro earlier
    obtain ⟨action, member, _⟩ := earlier
    simp at member
  obtain ⟨entry, present, same⟩ := RuleIndex.mem_lookUp found
  refine ⟨?_, fun disturbed => absurd disturbed undisturbed, fun _ => ?_⟩
  · simp [World.take]
  · refine ⟨entry, present, ?_, ?_⟩
    · rw [same]
    · rw [same]

theorem Tracked.generation_le_iff {w : World τ} {time : Nat} {v : RuleVersion}
    (tracked : w.Tracked time v) (synced : w.auditor.rules.Synced) :
    w.auditor.history.generation v.id ≤ v.generation ↔ ¬ w.Disturbed time v := by
  constructor
  · intro fresh disturbed
    exact absurd (tracked.superseded disturbed) (Nat.not_lt.mpr fresh)
  · intro undisturbed
    obtain ⟨entry, found, generation, _⟩ := tracked.current undisturbed
    rw [← generation, synced.generation v.id entry found]
    exact Nat.le_refl _

/-- What holds at every moment of a run. -/
structure Sound (w : World τ) : Prop where
  synced : w.auditor.rules.Synced
  faithful : w.auditor.rules.Faithful
  findings : ∀ f ∈ w.findings, ∀ v ∈ f.versions, w.Tracked f.time v
  origins : List.Forall₂ (fun task o => w.Tracked o.1 o.2 ∧ Task.IsProbeOf task o.2)
    w.auditor.pool.tasks w.origins

theorem Sound.new (hash : Key → Nat) (shards limit : Nat) :
    (new hash shards limit : World τ).Sound := by
  refine ⟨⟨Store.Placed.new hash shards, ?_⟩, ?_, ?_, .nil⟩
  · intro id entry found
    cases found
  · intro key row stored
    change (Store.new hash shards).get? key = some row at stored
    rw [Store.get?_new] at stored
    cases stored
  · intro f member
    cases member

variable {w : World τ}

theorem Sound.origin (sound : w.Sound) {i : Nat} {task : Task τ}
    (found : w.auditor.pool.tasks[i]? = some task) :
    ∃ time v, w.origins[i]? = some (time, v) ∧ w.Tracked time v ∧ task.IsProbeOf v := by
  obtain ⟨⟨time, v⟩, at_i, tracked, probe⟩ := forall₂_getElem? sound.origins found
  exact ⟨time, v, at_i, tracked, probe⟩

theorem Sound.faithful_take (sound : w.Sound) (action : Action τ) :
    (w.take action).auditor.rules.Faithful := by
  cases action with
  | apply now id rule => exact sound.faithful.applied sound.synced (RuleIndex.applied_apply ..)
  | delete id => exact sound.faithful.deleted sound.synced (RuleIndex.deleted_delete ..)
  | addNode now id node => exact sound.faithful
  | lookUp ids roles => exact sound.faithful
  | launch now id node n =>
    simp only [World.take, act]
    split <;> exact sound.faithful
  | probe c i =>
    simp only [World.take, act]
    cases found : w.auditor.pool.tasks[i]? with
    | none => rw [Auditor.step_of_none found]; exact sound.faithful
    | some task =>
      obtain ⟨task', stepped⟩ := Auditor.stepped_step c found
      obtain ⟨time, v, _, tracked, probe⟩ := sound.origin found
      rw [stepped.rules]
      refine Auditor.storeAfter_induct
        (fun history => RuleIndex.Faithful { w.auditor.rules with history }) sound.faithful ?_
      intro _
      apply sound.faithful.upsert sound.synced probe.rule probe.generation probe.depicts
      by_cases disturbed : w.Disturbed time v
      · exact Or.inl (tracked.superseded disturbed)
      · exact Or.inr (tracked.current disturbed)

theorem Sound.findings_take (sound : w.Sound) (action : Action τ) :
    ∀ f ∈ (w.take action).findings, ∀ v ∈ f.versions, (w.take action).Tracked f.time v := by
  have kept : ∀ f ∈ w.findings, ∀ v ∈ f.versions, (w.take action).Tracked f.time v :=
    fun f member v has => (sound.findings f member v has).take sound.synced action
  intro f member v has
  cases action with
  | lookUp ids roles =>
    rcases List.mem_append.mp member with member | member
    · exact kept f member v has
    · rw [List.mem_singleton.mp member] at has ⊢
      exact tracked_lookUp has
  | launch now id node n =>
    refine kept f ?_ v has
    simp only [World.take, act] at member
    split at member <;> exact member
  | _ => exact kept f member v has

theorem Sound.origins_take (sound : w.Sound) (action : Action τ) :
    List.Forall₂ (fun task o => (w.take action).Tracked o.1 o.2 ∧ Task.IsProbeOf task o.2)
      (w.take action).auditor.pool.tasks (w.take action).origins := by
  have kept : List.Forall₂ (fun task o => (w.take action).Tracked o.1 o.2 ∧ Task.IsProbeOf task o.2)
      w.auditor.pool.tasks w.origins := by
    refine sound.origins.imp ?_
    intro task o both
    obtain ⟨tracked, probe⟩ := both
    exact ⟨tracked.take sound.synced action, probe⟩
  cases action with
  | launch now id node n =>
    cases found : w.findings[n]? with
    | none =>
      have same : w.act (.launch now id node n) = w := by simp only [act, found]
      rw [show (w.take (.launch now id node n)).auditor = w.auditor by rw [World.take, same],
        show (w.take (.launch now id node n)).origins = w.origins by rw [World.take, same]]
      exact kept
    | some f =>
      have same : (w.act (.launch now id node n)).auditor.pool.tasks = w.auditor.pool.tasks ++
          f.versions.flatMap (Pool.tasksOf now w.auditor.pool.batches id node) := by
        simp only [act, found]
        rfl
      have more : (w.act (.launch now id node n)).origins = w.origins ++ f.origins := by
        simp only [act, found]
      rw [show (w.take (.launch now id node n)).auditor.pool.tasks = _ from same,
        show (w.take (.launch now id node n)).origins = _ from more]
      refine List.rel_append kept ?_
      refine (spawned_origins now w.auditor.pool.batches id node f).imp ?_
      intro task o origin
      obtain ⟨time, member, probe⟩ := origin
      have tracked := sound.findings f (List.mem_of_getElem? found) o.2 member
      rw [time]
      exact ⟨tracked.take sound.synced _, probe⟩
  | probe c i =>
    cases found : w.auditor.pool.tasks[i]? with
    | none =>
      have same : w.auditor.step c i = w.auditor := Auditor.step_of_none found
      rw [show (w.take (.probe c i)).auditor = w.auditor from same]
      exact kept
    | some task =>
      obtain ⟨task', stepped⟩ := Auditor.stepped_step c found
      rw [show (w.take (.probe c i)).auditor.pool.tasks = _ from stepped.tasks]
      refine forall₂_set kept ?_
      intro o at_i
      obtain ⟨time, v, here, tracked, probe⟩ := sound.origin found
      rw [show w.origins[i]? = some o from at_i] at here
      cases here
      exact ⟨tracked.take sound.synced _, probe.next stepped.next⟩
  | _ => exact kept

theorem Sound.take (sound : w.Sound) (action : Action τ) : (w.take action).Sound where
  synced := sound.synced.changed (w.changed_take action)
  faithful := sound.faithful_take action
  findings := sound.findings_take action
  origins := sound.origins_take action

theorem Sound.run (sound : w.Sound) (actions : List (Action τ)) : (w.run actions).Sound :=
  run_keeps Sound (fun _ action here => here.take action) w actions sound

end World

end ReachAudit
