import Mathlib.Data.List.Forall2
import ReachAudit.Proofs.Auditor.Log
import ReachAudit.Proofs.Auditor.Permits

namespace ReachAudit

open History (Key Row Store)

variable {τ : Type}

def RuleVersion.destinations (node : NodeId) (v : RuleVersion) : List Key :=
  if v.rule.active = false then []
  else if v.rule.proxied then v.rule.addresses.map fun address => ⟨v.id, node, address, none⟩
  else v.rule.addresses.flatMap fun address =>
    v.rule.ports.map fun port => ⟨v.id, node, address, some port⟩

theorem RuleVersion.destinations_eq (node : NodeId) (v : RuleVersion) :
    v.destinations node = v.rule.targets.map (·.key v.id node) := by
  unfold destinations Rule.targets
  split
  · rfl
  · split
    · rw [List.map_map]
      rfl
    · rw [List.map_flatMap]
      simp only [List.map_map]
      rfl

theorem Pool.map_key_tasksOf (now : τ) (batch : Nat) (id : NodeId) (node : Node τ)
    (v : RuleVersion) : (Pool.tasksOf now batch id node v).map Task.key = v.destinations id := by
  rw [RuleVersion.destinations_eq, Pool.tasksOf, List.map_map]
  rfl

namespace Auditor

variable {batch first : Nat} {keys : List Key} {log : List (Logged τ)} {a : Auditor τ} {t : Turn τ}

/-- The report is that of the `n`th destination, and tells how its own calls went. -/
def Tells (first : Nat) (keys : List Key) (log : List (Logged τ)) (n : Nat) (r : Report) : Prop :=
  keys[n]? = some r.key ∧ ∃ life : Task.Life τ,
    callsOf (first + n) log = life.calls ∧ r = life.report r.key

def IsDone (i : Nat) (pool : Pool τ) : Prop :=
  ∃ task, pool.tasks[i]? = some task ∧ task.phase = .done

theorem Tells.later {log' : List (Logged τ)} {n : Nat} {r : Report}
    (tells : Tells first keys log n r)
    (same : callsOf (first + n) log' = callsOf (first + n) log) : Tells first keys log' n r := by
  obtain ⟨key, life, calls, report⟩ := tells
  exact ⟨key, life, same.trans calls, report⟩

/-- How far a batch has come whose tasks begin at index `first`. -/
structure Covers (batch first : Nat) (keys : List Key) (pool : Pool τ) (log : List (Logged τ)) :
    Prop where
  past : batch < pool.batches
  tasks : ∀ n key, keys[n]? = some key → ∃ task, pool.tasks[first + n]? = some task ∧
    task.batch = batch ∧ task.key = key ∧ task.Lived (callsOf (first + n) log)
  others : ∀ i task, pool.tasks[i]? = some task → task.batch = batch →
    ∃ n < keys.length, i = first + n
  reports : ∃ order : List Nat, order.Nodup ∧
    (∀ n, n ∈ order ↔ n < keys.length ∧ IsDone (first + n) pool) ∧
    List.Forall₂ (Tells first keys log) order (pool.reportsOf batch)

theorem callsOf_logged_of_done {i : Nat} (done : IsDone i a.pool) (t : Turn τ) :
    callsOf i (a.logged t) = [] := by
  obtain ⟨task, found, done⟩ := done
  cases t with
  | probe c j =>
    by_cases same : j = i
    · subst same
      rw [logged_probe c found, callsOf_mk, Task.call?, done]
      rfl
    · cases other : a.pool.tasks[j]? with
      | none =>
        rw [logged, other]
        rfl
      | some task => rw [logged_probe c other, callsOf_mk_of_ne same]
  | _ => rfl

section Stepped

variable {c : Conditions τ} {i : Nat} {task task' : Task τ} {pool : Pool τ}

theorem isDone_stepped (found : a.pool.tasks[i]? = some task)
    (stepped : PoolStepped c i task task' a pool) (j : Nat) :
    IsDone j pool ↔ if i = j then task'.phase = .done else IsDone j a.pool := by
  rw [IsDone, stepped.tasks]
  split
  · rename_i same
    subst same
    rw [getElem?_set_found _ found]
    simp
  · rename_i apart
    rw [List.getElem?_set_ne apart]
    rfl

theorem reportsOf_stepped (stepped : PoolStepped c i task task' a pool) (batch : Nat) :
    pool.reportsOf batch = a.pool.reportsOf batch ++
      (task.reporting.filter (·.1 = batch)).map Prod.snd := by
  simp only [Pool.reportsOf, stepped.reports, List.filter_append, List.map_append]

theorem Covers.reports_stepped (covers : Covers batch first keys a.pool log)
    (found : a.pool.tasks[i]? = some task) (stepped : PoolStepped c i task task' a pool) :
    ∃ order : List Nat, order.Nodup ∧
      (∀ n, n ∈ order ↔ n < keys.length ∧ IsDone (first + n) pool) ∧
      List.Forall₂ (Tells first keys (log ++ a.logged (.probe c i))) order
        (pool.reportsOf batch) := by
  obtain ⟨order, distinct, members, told⟩ := covers.reports
  have told : List.Forall₂ (Tells first keys (log ++ a.logged (.probe c i))) order
      (a.pool.reportsOf batch) := by
    have both := (List.forall₂_and_left _ _).mpr ⟨fun n member => ((members n).mp member).2, told⟩
    refine both.imp ?_
    rintro n r ⟨done, tells⟩
    refine tells.later ?_
    rw [callsOf_append, callsOf_logged_of_done done, List.append_nil]
  rw [reportsOf_stepped stepped]
  simp only [isDone_stepped found stepped]
  rcases stepped.next.ends with ⟨silent, ended⟩ | ⟨recorded, reporting, made, ended⟩
  · rw [silent]
    refine ⟨order, distinct, fun n => (members n).trans (and_congr_right fun _ => ?_), ?_⟩
    · split
      · rename_i same
        subst same
        simp [IsDone, found, ended]
      · rfl
    · simpa using told
  have unfinished : ¬ IsDone i a.pool := by
    rintro ⟨task, there, done⟩
    obtain rfl := Option.some.inj (found.symm.trans there)
    rw [reporting] at done
    cases done
  rw [made]
  by_cases own : task.batch = batch
  · obtain ⟨n, small, rfl⟩ := covers.others i task found own
    obtain ⟨_, here, _, same, lived⟩ := covers.tasks n _ (List.getElem?_eq_getElem small)
    obtain rfl := Option.some.inj (found.symm.trans here)
    simp only [Task.Lived, reporting] at lived
    obtain ⟨life, calls, report⟩ := lived
    have tells : Tells first keys (log ++ a.logged (.probe c (first + n))) n
        (task.report recorded) := by
      refine ⟨(List.getElem?_eq_getElem small).trans (congrArg some same.symm), life, ?_, report⟩
      rw [callsOf_append, logged_probe c found, callsOf_mk, calls, Task.call?, reporting]
      exact List.append_nil _
    have fresh : n ∉ order := fun member => unfinished ((members n).mp member).2
    refine ⟨order ++ [n], ?_, ?_, ?_⟩
    · rw [List.nodup_append]
      refine ⟨distinct, List.nodup_singleton n, ?_⟩
      intro m member other only same
      rw [List.mem_singleton.mp only] at same
      exact fresh (same ▸ member)
    · intro m
      rw [List.mem_append, List.mem_singleton, members]
      by_cases same : m = n
      · subst same
        simp [small, ended]
      · rw [if_neg (by omega : ¬ first + n = first + m)]
        simp [same]
    · simpa [own] using List.rel_append told (.cons tells .nil)
  · refine ⟨order, distinct, fun n => (members n).trans (and_congr_right fun small => ?_), ?_⟩
    · have apart : i ≠ first + n := by
        rintro rfl
        obtain ⟨_, here, batch, _⟩ := covers.tasks n _ (List.getElem?_eq_getElem small)
        obtain rfl := Option.some.inj (found.symm.trans here)
        exact own batch
      rw [if_neg apart]
    · simpa [own] using told

theorem Covers.stepped (covers : Covers batch first keys a.pool log)
    (found : a.pool.tasks[i]? = some task) (stepped : PoolStepped c i task task' a pool) :
    Covers batch first keys pool (log ++ a.logged (.probe c i)) where
  past := stepped.batches ▸ covers.past
  tasks := by
    intro n key has
    obtain ⟨old, here, own, same, lived⟩ := covers.tasks n key has
    rw [stepped.tasks, callsOf_append, logged_probe c found]
    by_cases moved : i = first + n
    · subst moved
      obtain rfl := Option.some.inj (found.symm.trans here)
      rw [getElem?_set_found _ found, callsOf_mk]
      exact ⟨task', rfl, stepped.next.batch.trans own, stepped.next.key.trans same,
        lived.next stepped.next⟩
    · rw [List.getElem?_set_ne moved, callsOf_mk_of_ne moved, List.append_nil]
      exact ⟨old, here, own, same, lived⟩
  others := by
    intro j other there own
    rw [stepped.tasks] at there
    by_cases moved : i = j
    · subst moved
      rw [getElem?_set_found _ found] at there
      obtain rfl := Option.some.inj there
      exact covers.others i task found (stepped.next.batch.symm.trans own)
    · rw [List.getElem?_set_ne moved] at there
      exact covers.others j other there own
  reports := covers.reports_stepped found stepped

end Stepped

theorem Covers.moved {pool : Pool τ} (moved : a.PoolMoved t pool)
    (covers : Covers batch first keys a.pool log) :
    Covers batch first keys pool (log ++ a.logged t) := by
  cases moved with
  | kept idle =>
    rw [logged_of_idle idle, List.append_nil]
    exact covers
  | stepped c i task task' _ same found stepped =>
    subst same
    exact covers.stepped found stepped
  | grown now id node rules same =>
    subst same
    have silent : a.logged (.scan now id node rules) = [] := rfl
    rw [silent, List.append_nil]
    have kept {i : Nat} {task : Task τ} (found : a.pool.tasks[i]? = some task) :
        (a.pool.tasks ++ a.spawned now id node rules)[i]? = some task := by
      rw [List.getElem?_append_left (List.getElem?_eq_some_iff.mp found).1]
      exact found
    have new {i : Nat} {task : Task τ}
        (found : (a.pool.tasks ++ a.spawned now id node rules)[i]? = some task) :
        a.pool.tasks[i]? = some task ∨ task.phase = .queued ∧ task.batch = a.pool.batches := by
      rw [List.getElem?_append] at found
      split at found
      · exact Or.inl found
      · exact Or.inr (queued_of_mem_spawned (List.mem_of_getElem? found))
    refine ⟨Nat.lt_succ_of_lt covers.past, ?_, ?_, ?_⟩
    · intro n key has
      obtain ⟨task, here, rest⟩ := covers.tasks n key has
      exact ⟨task, kept here, rest⟩
    · intro i task found own
      rcases new found with found | ⟨_, fresh⟩
      · exact covers.others i task found own
      · have past := covers.past
        omega
    · obtain ⟨order, distinct, members, told⟩ := covers.reports
      refine ⟨order, distinct, fun n => (members n).trans ?_, told⟩
      refine and_congr_right fun _ => ⟨?_, ?_⟩
      · rintro ⟨task, found, done⟩
        exact ⟨task, kept found, done⟩
      · rintro ⟨task, found, done⟩
        rcases new found with found | ⟨queued, _⟩
        · exact ⟨task, found, done⟩
        · rw [queued] at done
          cases done

def Numbered (pool : Pool τ) : Prop := ∀ task ∈ pool.tasks, task.batch < pool.batches

theorem PoolMoved.numbered {pool : Pool τ} (moved : a.PoolMoved t pool)
    (numbered : Numbered a.pool) : Numbered pool := by
  cases moved with
  | kept idle => exact numbered
  | grown now id node rules same =>
    intro task member
    rcases List.mem_append.mp member with member | member
    · exact Nat.lt_succ_of_lt (numbered task member)
    · rw [(queued_of_mem_spawned member).2]
      exact Nat.lt_succ_self _
  | stepped c i task task' _ same found stepped =>
    intro u member
    rw [stepped.batches]
    rw [stepped.tasks] at member
    rcases List.mem_or_eq_of_mem_set member with member | rfl
    · exact numbered u member
    · rw [stepped.next.batch]
      exact numbered task (List.mem_of_getElem? found)

theorem numbered_run (hash : Key → Nat) (shards limit : Nat) (turns : List (Turn τ)) :
    Numbered ((new hash shards limit).run turns).pool :=
  run_keeps (fun a => Numbered a.pool) (fun a t numbered => (poolMoved_turn a t).numbered numbered)
    _ turns (by intro task member; cases member)

theorem map_key_spawned (a : Auditor τ) (now : τ) (id : NodeId) (node : Node τ)
    (rules : List RuleVersion) :
    (a.spawned now id node rules).map Task.key = rules.flatMap (·.destinations id) := by
  rw [spawned, List.map_flatMap]
  exact congrArg rules.flatMap (funext fun v => Pool.map_key_tasksOf now a.pool.batches id node v)

theorem covers_scanRules (numbered : Numbered a.pool) (accounted : a.pool.Accounted) (now : τ)
    (id : NodeId) (node : Node τ) (rules : List RuleVersion) :
    Covers a.pool.batches a.pool.tasks.length (rules.flatMap (·.destinations id))
      (a.scanRules now id node rules).2.pool [] := by
  have keys := map_key_spawned a now id node rules
  have size := congrArg List.length keys
  rw [List.length_map] at size
  have tasks : (a.scanRules now id node rules).2.pool.tasks =
      a.pool.tasks ++ a.spawned now id node rules := rfl
  have new (n : Nat) : (a.scanRules now id node rules).2.pool.tasks[a.pool.tasks.length + n]? =
      (a.spawned now id node rules)[n]? := by
    rw [tasks, List.getElem?_append_right (Nat.le_add_right _ _), Nat.add_sub_cancel_left]
  refine ⟨Nat.lt_succ_self _, ?_, ?_, [], List.nodup_nil, ?_, ?_⟩
  · intro n key has
    rw [← keys, List.getElem?_map] at has
    obtain ⟨task, found, rfl⟩ := Option.map_eq_some_iff.mp has
    obtain ⟨queued, own⟩ := queued_of_mem_spawned (List.mem_of_getElem? found)
    refine ⟨task, (new n).trans found, own, rfl, ?_⟩
    rw [Task.Lived, queued]
    rfl
  · intro i task found own
    by_cases old : i < a.pool.tasks.length
    · rw [tasks, List.getElem?_append_left old] at found
      have := numbered task (List.mem_of_getElem? found)
      omega
    · obtain ⟨n, rfl⟩ := Nat.exists_eq_add_of_le (Nat.not_lt.mp old)
      rw [new] at found
      exact ⟨n, size ▸ (List.getElem?_eq_some_iff.mp found).1, rfl⟩
  · intro n
    simp only [List.not_mem_nil, false_iff]
    rintro ⟨_, task, found, done⟩
    rw [new] at found
    rw [(queued_of_mem_spawned (List.mem_of_getElem? found)).1] at done
    cases done
  · have none : a.pool.completed a.pool.batches = 0 := by
      rw [Pool.completed, List.countP_eq_zero]
      intro task member
      simp [Nat.ne_of_lt (numbered task member)]
    have silent := accounted a.pool.batches
    rw [none, List.length_eq_zero_iff] at silent
    exact silent ▸ .nil

theorem Covers.run {a : Auditor τ} (covers : Covers batch first keys a.pool [])
    (turns : List (Turn τ)) : Covers batch first keys (a.run turns).pool (a.log turns) :=
  run_log_keeps (fun a log => Covers batch first keys a.pool log)
    (fun a _ t covers => covers.moved (poolMoved_turn a t)) a turns covers

end Auditor

end ReachAudit
