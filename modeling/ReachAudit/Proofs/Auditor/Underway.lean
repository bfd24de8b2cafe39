import ReachAudit.Auditor.Scan
import ReachAudit.Proofs.Auditor.Origins
import ReachAudit.Proofs.History.Kept

namespace ReachAudit

open History (Key Row Store)

variable {τ : Type}

/-- A scan that starts when no other probe is under way, and the rules that it found. -/
structure Launch (τ : Type) where
  before : Auditor τ
  now : τ
  id : NodeId
  node : Node τ
  versions : List RuleVersion
  idle : ∀ task ∈ before.pool.tasks, task.phase = .done
  placed : before.history.Placed
  active : ∀ v ∈ versions, v.rule.active = true
  generation : ∀ v ∈ versions, before.history.generation v.id = v.generation

namespace Launch

def start (launch : Launch τ) : Auditor τ :=
  (launch.before.scanRules launch.now launch.id launch.node launch.versions).2

def batch (launch : Launch τ) : Nat := launch.before.pool.batches

def Targets (launch : Launch τ) (key : Key) : Prop :=
  key.node = launch.id ∧
    ∃ v ∈ launch.versions, key.rule = v.id ∧ v.rule.Covers key.address key.port

structure Owns (launch : Launch τ) (task : Task τ) : Prop where
  batch : task.batch = launch.batch
  node : task.key.node = launch.id
  probe : ∃ v ∈ launch.versions, task.IsProbeOf v

def Concluded (launch : Launch τ) (probed : Key → Strategy → Outcome → Prop) (key : Key)
    (row : Row τ) : Prop :=
  ∃ v ∈ launch.versions, key.rule = v.id ∧ ∃ outcome, probed key v.rule.strategy outcome ∧
    row.status = outcome.status ∧ row.message = outcome.message?

/-- How far a scan has come, when nothing but its own probes moves. -/
structure Underway (launch : Launch τ) (probed : Key → Strategy → Outcome → Prop) (a : Auditor τ) :
    Prop where
  rules : a.rules.rules = launch.before.rules.rules
  placed : a.history.Placed
  generation : ∀ rule, a.history.generation rule = launch.before.history.generation rule
  tasks : ∀ task ∈ a.pool.tasks, task.phase = .done ∨ launch.Owns task
  outcomes : ∀ task ∈ a.pool.tasks, task.phase = .recording →
    launch.Concluded probed task.key task.row
  /-- While a destination has no outcome, some task is still to write one. -/
  reached : ∀ key, launch.Targets key →
    (∃ task ∈ a.pool.tasks, task.key = key ∧ task.phase.isOpen = true) ∨
      ∃ row, a.history.get? key = some row ∧ launch.Concluded probed key row
  others : ∀ rule, (∀ v ∈ launch.versions, rule ≠ v.id) →
    a.history.byRule rule = launch.before.history.byRule rule
  kept : launch.before.history.Keeps a.history

variable {launch : Launch τ} {probed probed' : Key → Strategy → Outcome → Prop}
  {a a' : Auditor τ} {c : Conditions τ} {i : Nat} {task task' : Task τ} {key : Key} {row : Row τ}

theorem Owns.next (own : launch.Owns task) (next : task.Next c a task') : launch.Owns task' := by
  obtain ⟨v, member, probe⟩ := own.probe
  refine ⟨?_, ?_, v, member, probe.next next⟩
  · rw [← own.batch]
    cases next <;> rfl
  · rw [← own.node]
    cases next <;> rfl

theorem Concluded.later (concluded : launch.Concluded probed key row)
    (grows : ∀ key strategy outcome, probed key strategy outcome → probed' key strategy outcome) :
    launch.Concluded probed' key row := by
  obtain ⟨v, member, rule, outcome, was, rest⟩ := concluded
  exact ⟨v, member, rule, outcome, grows _ _ _ was, rest⟩

theorem mem_start {task : Task τ} :
    task ∈ launch.start.pool.tasks ↔ task ∈ launch.before.pool.tasks ∨
      ∃ v ∈ launch.versions,
        task ∈ Pool.tasksOf launch.now launch.batch launch.id launch.node v := by
  change task ∈ launch.before.pool.tasks ++ launch.versions.flatMap
    (Pool.tasksOf launch.now launch.batch launch.id launch.node) ↔ _
  rw [List.mem_append, List.mem_flatMap]

theorem underway_start : launch.Underway probed launch.start where
  rules := rfl
  placed := launch.placed
  generation _ := rfl
  tasks := by
    intro task member
    rcases mem_start.mp member with member | ⟨v, has, member⟩
    · exact Or.inl (launch.idle task member)
    · obtain ⟨target, among, rfl⟩ := List.mem_map.mp member
      refine Or.inr ⟨rfl, rfl, v, has, rfl, rfl, rfl, ?_⟩
      exact ⟨(Rule.mem_targets_iff.mp among).2, rfl, by simp [Row.pending]⟩
  outcomes := by
    intro task member recording
    rcases mem_start.mp member with member | ⟨v, has, member⟩
    · rw [launch.idle task member] at recording
      cases recording
    · obtain ⟨target, among, rfl⟩ := List.mem_map.mp member
      cases recording
  reached := by
    intro key targeted
    obtain ⟨rule, node, address, port⟩ := key
    obtain ⟨own, v, has, same, covers⟩ := targeted
    dsimp only at own same covers
    subst own same
    have among : (⟨address, port⟩ : Target) ∈ v.rule.targets :=
      Rule.mem_targets_iff.mpr ⟨launch.active v has, covers⟩
    refine Or.inl ⟨_, mem_start.mpr (Or.inr ⟨v, has, List.mem_map.mpr ⟨_, among, rfl⟩⟩), rfl, rfl⟩
  others _ _ := rfl
  kept := Store.Keeps.refl _

theorem Underway.later (here : launch.Underway probed a)
    (grows : ∀ key strategy outcome, probed key strategy outcome → probed' key strategy outcome) :
    launch.Underway probed' a where
  rules := here.rules
  placed := here.placed
  generation := here.generation
  tasks := here.tasks
  outcomes task member recording := (here.outcomes task member recording).later grows
  reached key targeted :=
    (here.reached key targeted).imp_right fun ⟨row, stored, concluded⟩ =>
      ⟨row, stored, concluded.later grows⟩
  others := here.others
  kept := here.kept

theorem Underway.accepted (here : launch.Underway probed a) (own : launch.Owns task) :
    a.history.generation task.key.rule ≤ task.row.generation := by
  obtain ⟨v, member, probe⟩ := own.probe
  rw [here.generation, probe.rule, probe.generation, launch.generation v member]

theorem Underway.get?_storeAfter (here : launch.Underway probed a) (own : launch.Owns task)
    (taken : c.writeFails task.key = false) (key : Key) :
    (a.storeAfter c task).get? key =
      if task.phase.writes = true ∧ task.key = key then
        some (task.row.onto (a.history.get? task.key))
      else a.history.get? key := by
  unfold Auditor.storeAfter
  by_cases writes : task.phase.writes = true
  · rw [if_pos ⟨writes, taken⟩, Store.get?_upsert here.placed]
    simp only [writes, here.accepted own, and_true, true_and]
  · rw [if_neg fun both => writes both.1, if_neg fun both => writes both.1]

theorem Underway.outcomes_step (here : launch.Underway probed a) (own : launch.Owns task)
    (stepped : Stepped c i task task' a a')
    (probes : task.phase = .probing → probed task.key task.strategy
      (c.probe task.strategy task.key.address task.key.port)) :
    ∀ u ∈ a'.pool.tasks, u.phase = .recording → launch.Concluded probed u.key u.row := by
  intro u has recording
  rw [stepped.tasks] at has
  rcases List.mem_or_eq_of_mem_set has with has | rfl
  · exact here.outcomes u has recording
  · have next := stepped.next
    cases next with
    | probes probing =>
      obtain ⟨v, among, probe⟩ := own.probe
      refine ⟨v, among, probe.rule, _, ?_, rfl, rfl⟩
      rw [← probe.strategy]
      exact probes probing
    | waits queued full =>
      rw [queued] at recording
      cases recording
    | rests done =>
      rw [done] at recording
      cases recording
    | _ => cases recording

theorem Underway.reached_step (here : launch.Underway probed a) (own : launch.Owns task)
    (stepped : Stepped c i task task' a a') (taken : c.writeFails task.key = false)
    (found : a.pool.tasks[i]? = some task) :
    ∀ key, launch.Targets key →
      (∃ u ∈ a'.pool.tasks, u.key = key ∧ u.phase.isOpen = true) ∨
        ∃ row, a'.history.get? key = some row ∧ launch.Concluded probed key row := by
  intro key targeted
  have bound : i < a.pool.tasks.length := (List.getElem?_eq_some_iff.mp found).1
  have placed : task' ∈ a'.pool.tasks := by
    rw [stepped.tasks]
    exact List.mem_set bound task'
  have after := here.get?_storeAfter own taken key
  rw [← stepped.history] at after
  by_cases records : task.phase = .recording ∧ task.key = key
  · obtain ⟨recording, rfl⟩ := records
    obtain ⟨v, among, rule, outcome, was, status, message⟩ :=
      here.outcomes task (List.mem_of_getElem? found) recording
    obtain ⟨_, status', message', _⟩ := task.row.onto_carries (a.history.get? task.key)
    rw [if_pos ⟨by rw [recording]; rfl, rfl⟩] at after
    exact Or.inr ⟨_, after, v, among, rule, outcome, was, status'.trans status,
      message'.trans message⟩
  have stays : task.phase.isOpen = true → task.key = key → task'.phase.isOpen = true := by
    intro opened mine
    by_contra closed
    rcases stepped.next.closes (Bool.eq_false_iff.mpr closed) with recording | was
    · exact records ⟨recording, mine⟩
    · rw [opened] at was
      cases was
  rcases here.reached key targeted with ⟨u, member, mine, opened⟩ | ⟨row, stored, concluded⟩
  · by_cases moved : u = task
    · subst moved
      exact Or.inl ⟨task', placed, stepped.next.key.trans mine, stays opened mine⟩
    · refine Or.inl ⟨u, ?_, mine, opened⟩
      rw [stepped.tasks]
      exact (mem_set_or_eq found member).resolve_right moved
  · by_cases writes : task.phase.writes = true ∧ task.key = key
    -- The pending row may replace the outcome of another task for the key: this one is still open.
    · have opened := stays (Phase.isOpen_of_writes writes.1) writes.2
      exact Or.inl ⟨task', placed, stepped.next.key.trans writes.2, opened⟩
    · rw [if_neg writes] at after
      exact Or.inr ⟨row, after.trans stored, concluded⟩

theorem Underway.stepped (here : launch.Underway probed a) (own : launch.Owns task)
    (stepped : Stepped c i task task' a a') (taken : c.writeFails task.key = false)
    (probes : task.phase = .probing → probed task.key task.strategy
      (c.probe task.strategy task.key.address task.key.port))
    (found : a.pool.tasks[i]? = some task) : launch.Underway probed a' where
  rules := by rw [stepped.rules]; exact here.rules
  placed := by
    rw [stepped.history]
    exact Auditor.placed_storeAfter here.placed c task
  generation rule := by
    rw [stepped.history, Auditor.generation_storeAfter]
    exact here.generation rule
  tasks := by
    intro u member
    rw [stepped.tasks] at member
    rcases List.mem_or_eq_of_mem_set member with member | rfl
    · exact here.tasks u member
    · exact Or.inr (own.next stepped.next)
  outcomes := here.outcomes_step own stepped probes
  reached := here.reached_step own stepped taken found
  others := by
    intro rule apart
    obtain ⟨v, member, probe⟩ := own.probe
    have other : task.key.rule ≠ rule :=
      fun own => apart v member (own.symm.trans probe.rule)
    rw [stepped.history, ← here.others rule apart]
    exact Auditor.storeAfter_induct (·.byRule rule = a.history.byRule rule) rfl
      fun _ => Store.byRule_upsert task.row other
  kept := by
    rw [stepped.history]
    refine here.kept.trans ?_
    exact Auditor.storeAfter_induct a.history.Keeps (.refl _)
      fun _ => here.placed.keeps_upsert task.key task.row

theorem Underway.step (here : launch.Underway probed a) (c : Conditions τ) (i : Nat)
    (taken : ∀ key, c.writeFails key = false)
    (probes : ∀ task, a.pool.tasks[i]? = some task → task.phase = .probing →
      probed task.key task.strategy (c.probe task.strategy task.key.address task.key.port)) :
    launch.Underway probed (a.step c i) := by
  cases found : a.pool.tasks[i]? with
  | none =>
    rw [Auditor.step_of_none found]
    exact here
  | some task =>
    rcases here.tasks task (List.mem_of_getElem? found) with done | own
    · rw [Auditor.step_of_done found done]
      exact here
    · obtain ⟨task', stepped⟩ := Auditor.stepped_step c found
      exact here.stepped own stepped (taken _) (probes task found) found

theorem Underway.concluded (here : launch.Underway probed a)
    (finished : a.pool.isFinished launch.batch = true) {key : Key} (targeted : launch.Targets key) :
    ∃ row, a.history.get? key = some row ∧ launch.Concluded probed key row := by
  refine (here.reached key targeted).resolve_left ?_
  intro unsettled
  obtain ⟨task, member, _, opened⟩ := unsettled
  have done : task.phase = .done := by
    rcases here.tasks task member with done | own
    · exact done
    · have ended := List.all_eq_true.mp finished task member
      simpa [own.batch] using ended
  rw [done] at opened
  cases opened

end Launch

end ReachAudit
