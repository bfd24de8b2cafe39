import Mathlib.Data.List.Induction
import ReachAudit.Proofs.Auditor.WriteEffect

namespace ReachAudit

open History (Key Row Status Store)

variable {τ : Type}

def Phase.hasOutcome : Phase → Bool
  | .recording | .reporting _ | .done => true
  | _ => false

def Task.Truthful (task : Task τ) : Prop :=
  task.row.status = .pending ↔ task.phase.hasOutcome = false

theorem Task.Truthful.next {c : Conditions τ} {a : Auditor τ} {task task' : Task τ}
    (truthful : task.Truthful) (next : task.Next c a task') : task'.Truthful := by
  have same : task.phase.hasOutcome = task'.phase.hasOutcome → task.row = task'.row →
      task'.Truthful := by
    intro phase row
    rw [Task.Truthful, ← phase, ← row]
    exact truthful
  cases next with
  | waits queued full => exact truthful
  | rests done => exact truthful
  | probes probing =>
    have settled := (c.probe task.strategy task.key.address task.key.port).status_ne_pending
    exact iff_of_false settled (by simp [Phase.hasOutcome])
  | starts phase _ | skips phase _ | misses phase _ _ | announces phase | records phase
  | reports _ phase => exact same (by rw [phase]; rfl) rfl

namespace World

inductive TaskFrom (w : World τ) (action : Action τ) (i : Nat) (task : Task τ) : Prop where
  | kept (found : w.auditor.pool.tasks[i]? = some task) (other : ∀ c, action ≠ .probe c i)
  | spawned (queued : task.phase = .queued) (pending : task.row.status = .pending)
    (launch : ∃ now id node n, action = .launch now id node n ∧
      task.row.createdAt = now ∧ task.row.updatedAt = now)
  | stepped (c : Conditions τ) (before : Task τ) (same : action = .probe c i)
    (found : w.auditor.pool.tasks[i]? = some before) (next : before.Next c w.auditor task)

theorem taskFrom_take {w : World τ} {action : Action τ} {i : Nat} {task : Task τ}
    (found : (w.take action).auditor.pool.tasks[i]? = some task) : w.TaskFrom action i task := by
  cases action with
  | probe c j =>
    change (w.auditor.step c j).pool.tasks[i]? = some task at found
    cases at_j : w.auditor.pool.tasks[j]? with
    | none =>
      rw [Auditor.step_of_none at_j] at found
      refine .kept found fun c' same => ?_
      cases same
      rw [at_j] at found
      cases found
    | some before =>
      obtain ⟨after, stepped⟩ := Auditor.stepped_step c at_j
      rw [stepped.tasks, List.getElem?_set] at found
      split at found
      · rename_i own
        subst own
        rw [if_pos (List.getElem?_eq_some_iff.mp at_j).1] at found
        cases found
        exact .stepped c before rfl at_j stepped.next
      · rename_i apart
        exact .kept found fun c' same => apart (by cases same; rfl)
  | launch now id node n =>
    simp only [take, act] at found
    split at found
    · rename_i f _
      change (w.auditor.pool.tasks ++ f.versions.flatMap
        (Pool.tasksOf now w.auditor.pool.batches id node))[i]? = some task at found
      rw [List.getElem?_append] at found
      split at found
      · exact .kept found (by simp)
      · obtain ⟨v, _, member⟩ := List.mem_flatMap.mp (List.mem_of_getElem? found)
        obtain ⟨target, _, rfl⟩ := List.mem_map.mp member
        exact .spawned rfl rfl ⟨now, id, node, n, rfl, rfl, rfl⟩
    · exact .kept found (by simp)
  | apply now id rule => exact .kept found (by simp)
  | delete id => exact .kept found (by simp)
  | addNode now id node => exact .kept found (by simp)
  | lookUp ids roles => exact .kept found (by simp)

/-- An action hands the row of task `i` to the store, which takes it. -/
structure Writes (w : World τ) (action : Action τ) (i : Nat) (task : Task τ) : Prop where
  probe : ∃ c, action = .probe c i ∧ c.writeFails task.key = false
  found : w.auditor.pool.tasks[i]? = some task
  writes : task.phase.writes = true
  accepted : w.auditor.history.generation task.key.rule ≤ task.row.generation

theorem Writes.get?_take {w : World τ} {action : Action τ} {i : Nat} {task : Task τ}
    (placed : w.auditor.history.Placed) (written : w.Writes action i task) :
    (w.take action).auditor.history.get? task.key =
      some (task.row.onto (w.auditor.history.get? task.key)) := by
  obtain ⟨⟨c, rfl, taken⟩, found, writes, accepted⟩ := written
  obtain ⟨after, stepped⟩ := Auditor.stepped_step c found
  change (w.auditor.step c i).history.get? task.key = _
  rw [stepped.history, Auditor.storeAfter, if_pos ⟨writes, taken⟩, Store.get?_upsert placed,
    if_pos ⟨rfl, accepted⟩]

theorem get?_take {w : World τ} {action : Action τ} {key : Key} {row : Row τ}
    (placed : w.auditor.history.Placed)
    (stored : (w.take action).auditor.history.get? key = some row) :
    w.auditor.history.get? key = some row ∨ ∃ i task, w.Writes action i task ∧ task.key = key ∧
      row = task.row.onto (w.auditor.history.get? key) := by
  cases action with
  | probe c i =>
    change (w.auditor.step c i).history.get? key = some row at stored
    cases found : w.auditor.pool.tasks[i]? with
    | none =>
      rw [Auditor.step_of_none found] at stored
      exact Or.inl stored
    | some task =>
      obtain ⟨after, stepped⟩ := Auditor.stepped_step c found
      rw [stepped.history, Auditor.storeAfter] at stored
      split at stored
      · rename_i writes
        rw [Store.get?_upsert placed] at stored
        split at stored
        · rename_i own
          obtain ⟨rfl, accepted⟩ := own
          refine Or.inr ⟨i, task, ⟨⟨c, rfl, writes.2⟩, found, writes.1, accepted⟩, rfl, ?_⟩
          exact (Option.some.inj stored).symm
        · exact Or.inl stored
      · exact Or.inl stored
  | apply now id rule =>
    exact Or.inl ((RuleIndex.applied_apply now id rule _).get?_history placed stored)
  | delete id => exact Or.inl ((RuleIndex.deleted_delete id _).get?_history placed stored)
  | launch now id node n =>
    simp only [take, act] at stored
    split at stored <;> exact Or.inl stored
  | addNode now id node => exact Or.inl stored
  | lookUp ids roles => exact Or.inl stored

theorem truthful_take {w : World τ} (truthful : ∀ task ∈ w.auditor.pool.tasks, task.Truthful)
    (action : Action τ) : ∀ task ∈ (w.take action).auditor.pool.tasks, task.Truthful := by
  intro task member
  obtain ⟨i, found⟩ := List.mem_iff_getElem?.mp member
  cases taskFrom_take found with
  | kept earlier other => exact truthful task (List.mem_of_getElem? earlier)
  | spawned queued pending => exact iff_of_true pending (by rw [queued]; rfl)
  | stepped c before same earlier next =>
    exact (truthful before (List.mem_of_getElem? earlier)).next next

def Announces (w : World τ) (action : Action τ) (i : Nat) (key : Key) : Prop :=
  ∃ task, w.Writes action i task ∧ task.key = key ∧ task.phase = .announcing

theorem pending_take_iff {w : World τ} {action : Action τ} {key : Key} {old : Row τ}
    (placed : w.auditor.history.Placed) (truthful : ∀ task ∈ w.auditor.pool.tasks, task.Truthful)
    (stored : w.auditor.history.get? key = some old) (settled : old.status ≠ .pending) :
    (∃ row, (w.take action).auditor.history.get? key = some row ∧ row.status = .pending) ↔
      ∃ i, w.Announces action i key := by
  constructor
  · intro reopened
    obtain ⟨row, after, pending⟩ := reopened
    rcases get?_take placed after with before | ⟨i, task, written, own, carried⟩
    · rw [stored] at before
      cases before
      exact absurd pending settled
    · rw [carried, (task.row.onto_carries _).2.1] at pending
      have ahead := (truthful task (List.mem_of_getElem? written.found)).mp pending
      have writes := written.writes
      refine ⟨i, task, written, own, ?_⟩
      cases phase : task.phase <;> simp_all [Phase.writes, Phase.hasOutcome]
  · intro announced
    obtain ⟨i, task, written, rfl, announcing⟩ := announced
    have ahead : task.phase.hasOutcome = false := by rw [announcing]; rfl
    have pending := (truthful task (List.mem_of_getElem? written.found)).mpr ahead
    exact ⟨_, written.get?_take placed, (task.row.onto_carries _).2.1.trans pending⟩

/-- When a probe writes a row no other one is about to announce the same destination. -/
def Unraced (w : World τ) (action : Action τ) : Prop :=
  ∀ i task, w.Writes action i task → ∀ j other, j ≠ i → w.auditor.pool.tasks[j]? = some other →
    other.phase = .announcing → other.key ≠ task.key

def RunsUnraced (w : World τ) : List (Action τ) → Prop
  | [] => True
  | action :: rest => w.Unraced action ∧ (w.take action).RunsUnraced rest

/-- A destination that is about to be announced has no row. -/
def Unannounced (w : World τ) : Prop :=
  ∀ (i : Nat) (task : Task τ), w.auditor.pool.tasks[i]? = some task → task.phase = .announcing →
    w.auditor.history.get? task.key = none

theorem get?_of_misses {c : Conditions τ} {w : World τ} {task task' : Task τ}
    (next : task.Next c w.auditor task') (announcing : task'.phase = .announcing) :
    task.phase = .checking ∧ w.auditor.history.get? task.key = none := by
  cases next with
  | misses checking answered absent =>
    refine ⟨checking, ?_⟩
    simpa [Store.contains] using absent
  | waits queued full =>
    rw [queued] at announcing
    cases announcing
  | rests done =>
    rw [done] at announcing
    cases announcing
  | _ => cases announcing

theorem Unannounced.take {w : World τ} {action : Action τ} (unannounced : w.Unannounced)
    (placed : w.auditor.history.Placed) (unraced : w.Unraced action) :
    (w.take action).Unannounced := by
  intro i task found announcing
  rw [Option.eq_none_iff_forall_ne_some]
  intro row stored
  have written := get?_take placed stored
  cases taskFrom_take found with
  | kept earlier other =>
    rw [unannounced i task earlier announcing] at written
    rcases written with before | ⟨j, writer, written, own, _⟩
    · cases before
    · obtain ⟨c, same, _⟩ := written.probe
      refine unraced j writer written i task ?_ earlier announcing own.symm
      rintro rfl
      exact other c same
  | spawned queued pending =>
    rw [queued] at announcing
    cases announcing
  | stepped c before same earlier next =>
    obtain ⟨checking, absent⟩ := get?_of_misses next announcing
    rw [next.key, absent] at written
    rcases written with before | ⟨j, writer, written, _⟩
    · cases before
    · obtain ⟨c', same', _⟩ := written.probe
      rw [same] at same'
      cases same'
      have here := written.found
      rw [earlier] at here
      cases here
      have writes := written.writes
      rw [checking] at writes
      cases writes

theorem announcing_found_none {start : World τ} (empty : start.auditor.pool.tasks = [])
    (actions : List (Action τ)) {i : Nat} {task : Task τ}
    (found : (start.run actions).auditor.pool.tasks[i]? = some task)
    (announcing : task.phase = .announcing) :
    ∃ earlier c later looking, actions = earlier ++ .probe c i :: later ∧
      (start.run earlier).auditor.pool.tasks[i]? = some looking ∧ looking.phase = .checking ∧
      (start.run earlier).auditor.history.get? task.key = none := by
  induction actions using List.reverseRecOn with
  | nil =>
    change start.auditor.pool.tasks[i]? = some task at found
    rw [empty] at found
    cases found
  | append_singleton before action ih =>
    rw [run_append] at found
    cases taskFrom_take found with
    | kept here other =>
      obtain ⟨earlier, c, later, looking, rfl, rest⟩ := ih here
      exact ⟨earlier, c, later ++ [action], looking, by simp, rest⟩
    | spawned queued pending =>
      rw [queued] at announcing
      cases announcing
    | stepped c looking same here next =>
      obtain ⟨checking, absent⟩ := get?_of_misses next announcing
      rw [← next.key] at absent
      exact ⟨before, c, [], looking, by rw [same], here, checking, absent⟩

theorem Unannounced.run {w : World τ} (unannounced : w.Unannounced) (sound : w.Sound)
    {actions : List (Action τ)} (unraced : w.RunsUnraced actions) :
    (w.run actions).Unannounced := by
  induction actions generalizing w with
  | nil => exact unannounced
  | cons action rest ih =>
    exact ih (unannounced.take sound.synced.placed unraced.1) (sound.take action) unraced.2

theorem truthful_run {w : World τ} (truthful : ∀ task ∈ w.auditor.pool.tasks, task.Truthful)
    (actions : List (Action τ)) : ∀ task ∈ (w.run actions).auditor.pool.tasks, task.Truthful :=
  run_keeps (fun w => ∀ task ∈ w.auditor.pool.tasks, task.Truthful)
    (fun _ action here => truthful_take here action) w actions truthful

theorem Unannounced.settled_run {w : World τ} (unannounced : w.Unannounced) (sound : w.Sound)
    (truthful : ∀ task ∈ w.auditor.pool.tasks, task.Truthful) {key : Key} {old : Row τ}
    (stored : w.auditor.history.get? key = some old) (settled : old.status ≠ .pending)
    {after : List (Action τ)} (unraced : w.RunsUnraced after)
    (lives : ∀ middle rest, after = middle ++ rest →
      ∃ row, (w.run middle).auditor.history.get? key = some row) :
    ∃ row, (w.run after).auditor.history.get? key = some row ∧ row.status ≠ .pending := by
  induction after generalizing w old with
  | nil => exact ⟨old, stored, settled⟩
  | cons action rest ih =>
    have placed := sound.synced.placed
    obtain ⟨row, next⟩ := lives [action] rest rfl
    have kept : row.status ≠ .pending := by
      intro pending
      obtain ⟨i, task, written, own, announcing⟩ :=
        (pending_take_iff placed truthful stored settled).mp ⟨row, next, pending⟩
      have absent := unannounced i task written.found announcing
      rw [own, stored] at absent
      cases absent
    refine ih (unannounced.take placed unraced.1) (sound.take action) (truthful_take truthful action)
      next kept unraced.2 ?_
    intro middle last split
    exact lives (action :: middle) last (by rw [split]; rfl)

/-- A settled row goes back to pending just when a probe announces its destination, having found no
    row when it looked. Where no two probes race for a destination, pending rows are only written
    where there is no row, and a settled row stays settled for as long as it is there. -/
theorem settled_row_reopens_iff_announced (hash : Key → Nat) (shards limit : Nat)
    (actions : List (Action τ)) :
    let start : World τ := new hash shards limit
    let w := start.run actions
    (∀ action key old, w.auditor.history.get? key = some old → old.status ≠ .pending →
      ((∃ row, (w.take action).auditor.history.get? key = some row ∧ row.status = .pending) ↔
        ∃ i, w.Announces action i key)) ∧
    (∀ action i key, w.Announces action i key →
      ∃ earlier c later looking, actions = earlier ++ .probe c i :: later ∧
        (start.run earlier).auditor.pool.tasks[i]? = some looking ∧ looking.phase = .checking ∧
        (start.run earlier).auditor.history.get? key = none) ∧
    (start.RunsUnraced actions →
      (∀ action i key, w.Announces action i key → w.auditor.history.get? key = none) ∧
      ∀ key old after, w.auditor.history.get? key = some old → old.status ≠ .pending →
        w.RunsUnraced after →
        (∀ middle rest, after = middle ++ rest →
          ∃ row, (w.run middle).auditor.history.get? key = some row) →
        ∃ row, (w.run after).auditor.history.get? key = some row ∧ row.status ≠ .pending) := by
  intro start w
  have initial : start.Sound := Sound.new hash shards limit
  have sound : w.Sound := initial.run actions
  have truthful : ∀ task ∈ w.auditor.pool.tasks, task.Truthful :=
    truthful_run (fun _ member => by cases member) actions
  refine ⟨?_, ?_, ?_⟩
  · intro action key old stored settled
    exact pending_take_iff sound.synced.placed truthful stored settled
  · intro action i key announced
    obtain ⟨task, written, rfl, announcing⟩ := announced
    have idle : start.auditor.pool.tasks = [] := rfl
    exact announcing_found_none idle actions written.found announcing
  · intro unraced
    have none : start.Unannounced := fun i task found => by cases found
    have unannounced : w.Unannounced := none.run initial unraced
    constructor
    · intro action i key announced
      obtain ⟨task, written, rfl, announcing⟩ := announced
      exact unannounced i task written.found announcing
    · intro key old after stored settled later lives
      exact unannounced.settled_run sound truthful stored settled later lives

/-- An address is repeated, and both of its probes look before either writes. The first one comes to
    an outcome before the second one announces itself. -/
def racing : List (Action Nat) := [
  .apply 1 "ns/r" { sampleRule with addresses := ["a", "a"] }, .lookUp none ["db"],
  .launch 2 "n" sampleNode 0, .probe sampleConditions 0, .probe sampleConditions 1,
  .probe sampleConditions 0, .probe sampleConditions 1, .probe sampleConditions 0,
  .probe sampleConditions 0, .probe sampleConditions 0]

theorem settled_row_reopened :
    (((new Key.checksum 2 2).run racing).auditor.history.get? sampleTask.key).map Row.status =
        some .success ∧
      ((((new Key.checksum 2 2).run racing).take (.probe sampleConditions 1)).auditor.history.get?
        sampleTask.key).map Row.status = some .pending := by
  decide +kernel

end World

end ReachAudit
