import Mathlib.Order.Defs.LinearOrder
import ReachAudit.Proofs.Auditor.RowWrites

namespace ReachAudit

open History (Key Row Status Store)

variable {τ : Type}

def Action.time? : Action τ → Option τ
  | .apply now _ _ => some now
  | .addNode now _ _ => some now
  | .launch now _ _ _ => some now
  | .probe c _ => some c.now
  | .delete _ => none
  | .lookUp _ _ => none

def Action.Reliable : Action τ → Prop
  | .probe c _ => ∀ key, c.checkFails key = false ∧ c.writeFails key = false
  | _ => True

theorem Task.Next.times {c : Conditions τ} {a : Auditor τ} {task task' : Task τ}
    (next : task.Next c a task') :
    task'.row.createdAt = task.row.createdAt ∧
      (task'.row.updatedAt = task.row.updatedAt ∨ task'.row.updatedAt = c.now) := by
  cases next with
  | probes _ => exact ⟨rfl, Or.inr rfl⟩
  | _ => exact ⟨rfl, Or.inl rfl⟩

namespace World

def times (w : World τ) : List τ := w.past.filterMap Action.time?

variable {w : World τ} {action : Action τ} {key : Key} {row : Row τ} {i : Nat} {task : Task τ}

theorem times_take (w : World τ) (action : Action τ) :
    (w.take action).times = w.times ++ action.time?.toList := by
  rw [times, take, List.filterMap_append, times]
  cases time : action.time? <;> simp [time]

theorem mem_times_take {time : τ} (before : time ∈ w.times) : time ∈ (w.take action).times := by
  rw [times_take]
  exact List.mem_append_left _ before

theorem mem_times_of_time? {time : τ} (now : action.time? = some time) :
    time ∈ (w.take action).times := by
  rw [times_take, now]
  exact List.mem_append_right _ (by simp)

section Clock

variable [LinearOrder τ]

/-- How the times in the history and in the tasks stand to each other. -/
structure Timed (w : World τ) : Prop where
  tasks : ∀ task ∈ w.auditor.pool.tasks,
    task.row.createdAt ∈ w.times ∧ task.row.updatedAt ∈ w.times ∧
      task.row.createdAt ≤ task.row.updatedAt
  rows : ∀ key row, w.auditor.history.get? key = some row →
    row.createdAt ∈ w.times ∧ row.updatedAt ∈ w.times
  settled : ∀ key row, w.auditor.history.get? key = some row → row.status ≠ .pending →
    row.createdAt ≤ row.updatedAt ∧ w.Recorded key row.updatedAt
  probing : ∀ task ∈ w.auditor.pool.tasks, w.Live task → task.phase = .probing →
    ∃ row, w.auditor.history.get? task.key = some row
  recording : ∀ task ∈ w.auditor.pool.tasks, w.Live task → task.phase = .recording →
    ∃ row, w.auditor.history.get? task.key = some row ∧ row.createdAt ≤ task.row.updatedAt ∧
      (row.status = .pending → row.updatedAt ≤ task.row.updatedAt)
  /-- A pending row that comes late is still of an earlier time than the outcomes to come. -/
  announcing : ∀ task ∈ w.auditor.pool.tasks, ∀ other ∈ w.auditor.pool.tasks,
    task.phase = .announcing → other.phase = .recording → task.key = other.key → w.Live other →
    task.row.updatedAt ≤ other.row.updatedAt

theorem le_of_mem_times {earlier now : τ} (clocked : (w.take action).times.Pairwise (· ≤ ·))
    (before : earlier ∈ w.times) (time : action.time? = some now) : earlier ≤ now := by
  rw [times_take, time] at clocked
  exact (List.pairwise_append.mp clocked).2.2 earlier before now (by simp)

theorem Timed.tasks_take (timed : w.Timed) (clocked : (w.take action).times.Pairwise (· ≤ ·)) :
    ∀ task ∈ (w.take action).auditor.pool.tasks,
      task.row.createdAt ∈ (w.take action).times ∧ task.row.updatedAt ∈ (w.take action).times ∧
        task.row.createdAt ≤ task.row.updatedAt := by
  intro task member
  obtain ⟨i, found⟩ := List.mem_iff_getElem?.mp member
  cases taskFrom_take found with
  | kept earlier other =>
    obtain ⟨created, updated, ordered⟩ := timed.tasks task (List.mem_of_getElem? earlier)
    exact ⟨mem_times_take created, mem_times_take updated, ordered⟩
  | spawned queued pending launch =>
    obtain ⟨now, id, node, n, rfl, created, updated⟩ := launch
    rw [created, updated]
    exact ⟨mem_times_of_time? rfl, mem_times_of_time? rfl, le_rfl⟩
  | stepped c before same earlier next =>
    subst same
    obtain ⟨created, updated, ordered⟩ := timed.tasks before (List.mem_of_getElem? earlier)
    obtain ⟨created', updated' | updated'⟩ := next.times
    · rw [created', updated']
      exact ⟨mem_times_take created, mem_times_take updated, ordered⟩
    · rw [created', updated']
      exact ⟨mem_times_take created, mem_times_of_time? rfl, le_of_mem_times clocked created rfl⟩

theorem Timed.rows_take (timed : w.Timed) (placed : w.auditor.history.Placed) :
    ∀ key row, (w.take action).auditor.history.get? key = some row →
      row.createdAt ∈ (w.take action).times ∧ row.updatedAt ∈ (w.take action).times := by
  intro key row stored
  rcases get?_take placed stored with before | ⟨i, task, written, rfl, rfl⟩
  · obtain ⟨created, updated⟩ := timed.rows key row before
    exact ⟨mem_times_take created, mem_times_take updated⟩
  · obtain ⟨created, updated, _⟩ := timed.tasks task (List.mem_of_getElem? written.found)
    cases old : w.auditor.history.get? task.key with
    | none => exact ⟨mem_times_take created, mem_times_take updated⟩
    | some row => exact ⟨mem_times_take (timed.rows _ row old).1, mem_times_take updated⟩

theorem Timed.settled_take (timed : w.Timed) (placed : w.auditor.history.Placed)
    (truthful : ∀ task ∈ w.auditor.pool.tasks, task.Truthful) :
    ∀ key row, (w.take action).auditor.history.get? key = some row → row.status ≠ .pending →
      row.createdAt ≤ row.updatedAt ∧ (w.take action).Recorded key row.updatedAt := by
  intro key row stored settled
  rcases get?_take placed stored with before | ⟨i, task, written, rfl, rfl⟩
  · obtain ⟨ordered, recorded⟩ := timed.settled key row before settled
    exact ⟨ordered, recorded.take action⟩
  · have member := List.mem_of_getElem? written.found
    obtain ⟨_, status, _, updated⟩ := task.row.onto_carries (w.auditor.history.get? task.key)
    rw [status] at settled
    have recording := written.recording_of_settled (truthful task member) settled
    obtain ⟨old, there, ordered, _⟩ := timed.recording task member written.accepted recording
    rw [updated]
    refine ⟨?_, written.recorded_take recording⟩
    rw [there]
    exact ordered

theorem Timed.probing_take (timed : w.Timed) (sound : w.Sound) (reliable : action.Reliable) :
    ∀ task ∈ (w.take action).auditor.pool.tasks, (w.take action).Live task →
      task.phase = .probing → ∃ row, (w.take action).auditor.history.get? task.key = some row := by
  intro task member live probing
  have placed := sound.synced.placed
  obtain ⟨i, found⟩ := List.mem_iff_getElem?.mp member
  cases taskFrom_take found with
  | kept earlier other =>
    obtain ⟨live, kept⟩ := sound.live_of_take earlier live
    obtain ⟨row, stored⟩ := timed.probing task (List.mem_of_getElem? earlier) live probing
    rcases stays_take placed stored kept with stays | ⟨_, _, _, _, written⟩
    · exact ⟨row, stays⟩
    · exact ⟨_, written⟩
  | spawned queued pending launch =>
    rw [queued] at probing
    cases probing
  | stepped c before same earlier next =>
    subst same
    rw [Live, next.key, next.generation] at live
    rw [next.key]
    rcases next.from_probing probing with announcing | ⟨checking, known⟩
    · have written : w.Writes (.probe c i) i before :=
        ⟨⟨c, rfl, (reliable before.key).2⟩, earlier, by rw [announcing]; rfl,
          (sound.live_of_take earlier live).1⟩
      exact ⟨_, written.get?_take placed⟩
    · rw [history_take_of_not_writes earlier (by rw [checking]; rfl)]
      have present := known.resolve_left (by rw [(reliable before.key).1]; exact Bool.false_ne_true)
      exact Option.isSome_iff_exists.mp present

theorem Timed.recording_take (timed : w.Timed) (sound : w.Sound)
    (truthful : ∀ task ∈ w.auditor.pool.tasks, task.Truthful)
    (clocked : (w.take action).times.Pairwise (· ≤ ·)) :
    ∀ task ∈ (w.take action).auditor.pool.tasks, (w.take action).Live task →
      task.phase = .recording → ∃ row, (w.take action).auditor.history.get? task.key = some row ∧
        row.createdAt ≤ task.row.updatedAt ∧
        (row.status = .pending → row.updatedAt ≤ task.row.updatedAt) := by
  intro task member live recording
  obtain ⟨i, found⟩ := List.mem_iff_getElem?.mp member
  cases taskFrom_take found with
  | kept earlier other =>
    obtain ⟨live, kept⟩ := sound.live_of_take earlier live
    have member := List.mem_of_getElem? earlier
    obtain ⟨row, stored, created, updated⟩ := timed.recording task member live recording
    rcases stays_take sound.synced.placed stored kept with stays | ⟨j, writer, written, own, after⟩
    · exact ⟨row, stays, created, updated⟩
    · refine ⟨_, after, created, fun pending => ?_⟩
      have writes := List.mem_of_getElem? written.found
      have announcing := written.announcing_of_pending (truthful writer writes) pending
      exact timed.announcing writer writes task member announcing recording own live
  | spawned queued pending launch =>
    rw [queued] at recording
    cases recording
  | stepped c before same earlier next =>
    subst same
    obtain ⟨probing, now⟩ := next.from_recording recording
    rw [Live, next.key, next.generation] at live
    obtain ⟨row, stored⟩ := timed.probing before (List.mem_of_getElem? earlier)
      (sound.live_of_take earlier live).1 probing
    obtain ⟨created, updated⟩ := timed.rows _ row stored
    rw [history_take_of_not_writes earlier (by rw [probing]; rfl), next.key, now]
    exact ⟨row, stored, le_of_mem_times clocked created rfl,
      fun _ => le_of_mem_times clocked updated rfl⟩

theorem Timed.announcing_take (timed : w.Timed) (sound : w.Sound)
    (clocked : (w.take action).times.Pairwise (· ≤ ·)) :
    ∀ task ∈ (w.take action).auditor.pool.tasks, ∀ other ∈ (w.take action).auditor.pool.tasks,
      task.phase = .announcing → other.phase = .recording → task.key = other.key →
      (w.take action).Live other → task.row.updatedAt ≤ other.row.updatedAt := by
  intro task member other member' announcing recording own live
  obtain ⟨i, found⟩ := List.mem_iff_getElem?.mp member
  obtain ⟨j, found'⟩ := List.mem_iff_getElem?.mp member'
  cases taskFrom_take found with
  | kept earlier apart =>
    have before := List.mem_of_getElem? earlier
    cases taskFrom_take found' with
    | kept earlier' apart' =>
      exact timed.announcing task before other (List.mem_of_getElem? earlier') announcing recording
        own (sound.live_of_take earlier' live).1
    | spawned queued pending launch =>
      rw [queued] at recording
      cases recording
    | stepped c was same earlier' next =>
      subst same
      rw [(next.from_recording recording).2]
      exact le_of_mem_times clocked (timed.tasks task before).2.1 rfl
  | spawned queued pending launch =>
    rw [queued] at announcing
    cases announcing
  | stepped c was same earlier next =>
    subst same
    -- While the outcome of another task is to come the destination has a row.
    obtain ⟨checking, absent⟩ := get?_of_misses next announcing
    cases taskFrom_take found' with
    | kept earlier' apart' =>
      obtain ⟨row, stored, _⟩ := timed.recording other (List.mem_of_getElem? earlier')
        (sound.live_of_take earlier' live).1 recording
      rw [← own, next.key, absent] at stored
      cases stored
    | spawned queued pending launch =>
      rw [queued] at recording
      cases recording
    | stepped c' was' same earlier' next' =>
      cases same
      obtain rfl := Option.some.inj (found.symm.trans found')
      exact le_rfl

theorem Timed.take (timed : w.Timed) (sound : w.Sound)
    (truthful : ∀ task ∈ w.auditor.pool.tasks, task.Truthful) (reliable : action.Reliable)
    (clocked : (w.take action).times.Pairwise (· ≤ ·)) : (w.take action).Timed where
  tasks := timed.tasks_take clocked
  rows := timed.rows_take sound.synced.placed
  settled := timed.settled_take sound.synced.placed truthful
  probing := timed.probing_take sound reliable
  recording := timed.recording_take sound truthful clocked
  announcing := timed.announcing_take sound clocked

theorem Timed.new (hash : Key → Nat) (shards limit : Nat) :
    (new hash shards limit : World τ).Timed := by
  have rowless (key : Key) (row : Row τ) :
      (World.new hash shards limit : World τ).auditor.history.get? key ≠ some row := by
    intro stored
    change (Store.new hash shards).get? key = some row at stored
    rw [Store.get?_new] at stored
    cases stored
  refine ⟨?_, fun key row stored => absurd stored (rowless key row),
    fun key row stored => absurd stored (rowless key row), ?_, ?_, ?_⟩
  all_goals
    intro task member
    cases member

/-- Nothing is wrong with the store or the clock in a run. -/
structure Regular (actions : List (Action τ)) : Prop where
  reliable : ∀ action ∈ actions, action.Reliable
  clocked : (actions.filterMap Action.time?).Pairwise (· ≤ ·)

theorem Regular.earlier {earlier later : List (Action τ)} (regular : Regular (earlier ++ later)) :
    Regular earlier where
  reliable action member := regular.reliable action (List.mem_append_left _ member)
  clocked := by
    have clocked := regular.clocked
    rw [List.filterMap_append] at clocked
    exact (List.pairwise_append.mp clocked).1

theorem timed_run (hash : Key → Nat) (shards limit : Nat) {actions : List (Action τ)}
    (regular : Regular actions) : ((new hash shards limit).run actions).Timed := by
  induction actions using List.reverseRecOn with
  | nil => exact Timed.new hash shards limit
  | append_singleton before action ih =>
    have sound : ((new hash shards limit).run before : World τ).Sound :=
      (Sound.new hash shards limit).run before
    have truthful := truthful_start hash shards limit before
    rw [run_append]
    refine (ih regular.earlier).take sound truthful
      (regular.reliable action (List.mem_append_right _ (List.mem_singleton_self action))) ?_
    change ((((new hash shards limit).run before).past ++ [action]).filterMap _).Pairwise _
    rw [past_run]
    exact regular.clocked

def AnnouncesNew (w : World τ) (action : Action τ) : Prop :=
  ∀ i key, w.Announces action i key → w.auditor.history.get? key = none

theorem Timed.ordered_take (timed : w.Timed) (placed : w.auditor.history.Placed)
    (truthful : ∀ task ∈ w.auditor.pool.tasks, task.Truthful) (new : w.AnnouncesNew action)
    (ordered : ∀ key row, w.auditor.history.get? key = some row → row.createdAt ≤ row.updatedAt) :
    ∀ key row, (w.take action).auditor.history.get? key = some row →
      row.createdAt ≤ row.updatedAt := by
  intro key row stored
  by_cases pending : row.status = .pending
  · rcases get?_take placed stored with before | ⟨i, task, written, rfl, rfl⟩
    · exact ordered key row before
    · have member := List.mem_of_getElem? written.found
      rw [(task.row.onto_carries _).2.1] at pending
      have announcing := written.announcing_of_pending (truthful task member) pending
      rw [new i task.key ⟨task, written, rfl, announcing⟩]
      exact (timed.tasks task member).2.2
  · exact (timed.settled_take placed truthful key row stored pending).1

theorem ordered_run (hash : Key → Nat) (shards limit : Nat) {actions : List (Action τ)}
    (regular : Regular actions)
    (new : ∀ earlier action later, actions = earlier ++ action :: later →
      ((World.new hash shards limit).run earlier).AnnouncesNew action) :
    ∀ key row, ((World.new hash shards limit).run actions).auditor.history.get? key = some row →
      row.createdAt ≤ row.updatedAt := by
  induction actions using List.reverseRecOn with
  | nil =>
    intro key row stored
    change (Store.new hash shards).get? key = some row at stored
    rw [Store.get?_new] at stored
    cases stored
  | append_singleton before action ih =>
    have sound : ((World.new hash shards limit).run before : World τ).Sound :=
      (Sound.new hash shards limit).run before
    have truthful := truthful_start hash shards limit before
    rw [run_append]
    refine (timed_run hash shards limit regular.earlier).ordered_take sound.synced.placed truthful
      (new before action [] rfl) (ih regular.earlier ?_)
    intro earlier step later split
    exact new earlier step (later ++ [action]) (by rw [split]; simp)

/-- The outcome of a probe is written after that of one that ended later, at the given time. -/
def Overtaken (w : World τ) (action : Action τ) (key : Key) (time : τ) : Prop :=
  w.Recorded key time ∧ ∃ i task, w.Writes action i task ∧ task.key = key ∧
    task.phase = .recording ∧ task.row.updatedAt < time

theorem Timed.updatedAt_take {row' : Row τ} (timed : w.Timed) (placed : w.auditor.history.Placed)
    (truthful : ∀ task ∈ w.auditor.pool.tasks, task.Truthful)
    (stored : w.auditor.history.get? key = some row)
    (after : (w.take action).auditor.history.get? key = some row')
    (new : w.AnnouncesNew action) :
    row.updatedAt ≤ row'.updatedAt ∨ w.Overtaken action key row.updatedAt := by
  rcases get?_take placed after with before | ⟨i, task, written, rfl, rfl⟩
  · rw [stored] at before
    cases before
    exact Or.inl le_rfl
  · have member := List.mem_of_getElem? written.found
    rw [(task.row.onto_carries _).2.2.2]
    by_cases pending : task.row.status = .pending
    · have announcing := written.announcing_of_pending (truthful task member) pending
      rw [new i task.key ⟨task, written, rfl, announcing⟩] at stored
      cases stored
    · have recording := written.recording_of_settled (truthful task member) pending
      obtain ⟨old, there, _, late⟩ := timed.recording task member written.accepted recording
      obtain rfl := Option.some.inj (stored.symm.trans there)
      by_cases settled : row.status = .pending
      · exact Or.inl (late settled)
      · rcases le_or_gt row.updatedAt task.row.updatedAt with ordered | overtaken
        · exact Or.inl ordered
        · exact Or.inr ⟨(timed.settled _ row stored settled).2, i, task, written, rfl, recording,
            overtaken⟩

/-- The row of a destination keeps the time at which it was created for as long as it is there. Once
    it is settled it was created no later than it was updated, and so it is before if pending rows
    are only written where there is no row. The last write wins: a row is put back to an earlier
    time when an outcome is written after that of a probe that ended later. -/
theorem row_times_coherent (hash : Key → Nat) (shards limit : Nat) (actions : List (Action τ))
    (regular : Regular actions) :
    let start : World τ := new hash shards limit
    let w := start.run actions
    (∀ key row after row', w.auditor.history.get? key = some row →
      (∀ middle rest, after = middle ++ rest →
        ∃ row, (w.run middle).auditor.history.get? key = some row) →
      (w.run after).auditor.history.get? key = some row' → row'.createdAt = row.createdAt) ∧
    (∀ key row, w.auditor.history.get? key = some row → row.status ≠ .pending →
      row.createdAt ≤ row.updatedAt) ∧
    ((∀ earlier action later, actions = earlier ++ action :: later →
        (start.run earlier).AnnouncesNew action) →
      ∀ key row, w.auditor.history.get? key = some row → row.createdAt ≤ row.updatedAt) ∧
    ∀ action key row row', w.AnnouncesNew action → w.auditor.history.get? key = some row →
      (w.take action).auditor.history.get? key = some row' →
      row.updatedAt ≤ row'.updatedAt ∨ w.Overtaken action key row.updatedAt := by
  intro start w
  have sound : w.Sound := (Sound.new hash shards limit).run actions
  have truthful := truthful_start hash shards limit actions
  have timed : w.Timed := timed_run hash shards limit regular
  refine ⟨?_, ?_, ordered_run hash shards limit regular, ?_⟩
  · intro key row after row' stored lives still
    exact createdAt_run sound stored lives still
  · intro key row stored settled
    exact (timed.settled key row stored settled).1
  · intro action key row row' new stored after
    exact timed.updatedAt_take sound.synced.placed truthful stored after new

end Clock

def conditionsAt (now : Nat) : Conditions Nat := { sampleConditions with now }

/-- Two scans overlap, and the probe that ends last writes its outcome first. -/
def overtaking : List (Action Nat) := [
  .apply 1 "ns/r" sampleRule, .lookUp none ["db"], .launch 2 "n" sampleNode 0,
  .launch 2 "n" sampleNode 0, .probe (conditionsAt 2) 0, .probe (conditionsAt 2) 0,
  .probe (conditionsAt 2) 0, .probe (conditionsAt 2) 1, .probe (conditionsAt 2) 1,
  .probe (conditionsAt 3) 0, .probe (conditionsAt 4) 1, .probe (conditionsAt 4) 1]

theorem regular_overtaking : Regular (overtaking ++ [.probe (conditionsAt 4) 0]) where
  reliable := by simp [overtaking, Action.Reliable, conditionsAt, sampleConditions]
  clocked := by decide

theorem row_times_coherent_overlapping :
    ∃ row, ((new Key.checksum 2 2).run overtaking).auditor.history.get? sampleTask.key = some row ∧
      row.createdAt = 2 ∧ row.updatedAt = 4 ∧ row.createdAt ≤ row.updatedAt := by
  have stored : ((new Key.checksum 2 2).run overtaking).auditor.history.get? sampleTask.key =
      some { sampleTask.row with status := .success, updatedAt := 4 } := by decide +kernel
  have coherent := row_times_coherent Key.checksum 2 2 overtaking regular_overtaking.earlier
  exact ⟨_, stored, rfl, rfl, coherent.2.1 _ _ stored (by decide)⟩

theorem updatedAt_goes_back :
    Regular (overtaking ++ [.probe (conditionsAt 4) 0]) ∧
      (((new Key.checksum 2 2).run overtaking).auditor.history.get? sampleTask.key).map
        Row.updatedAt = some 4 ∧
      (((new Key.checksum 2 2).run (overtaking ++ [.probe (conditionsAt 4) 0])).auditor.history.get?
        sampleTask.key).map Row.updatedAt = some 3 :=
  ⟨regular_overtaking, by decide +kernel, by decide +kernel⟩

end World

end ReachAudit
