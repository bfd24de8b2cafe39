import ReachAudit.Proofs.Auditor.Reports
import ReachAudit.Proofs.Auditor.WriteEffect

namespace ReachAudit

open History (Key Status)

variable {τ : Type}

/-- How a destination is probed. Only through a proxy it has no port. -/
def History.Key.strategy (key : Key) : Strategy := if key.port.isSome then .direct else .proxy

theorem Rule.strategy_of_mem_targets {rule : Rule} {target : Target}
    (member : target ∈ rule.targets) (id : RuleId) (node : NodeId) :
    (target.key id node).strategy = rule.strategy := by
  have port := (Rule.port_of_mem_targets member).2
  rw [Key.strategy, Rule.strategy, Target.key]
  split at port
  · rename_i proxied
    rw [port, if_pos proxied]
    rfl
  · rename_i dialled
    obtain ⟨p, _, has⟩ := port
    rw [has, if_neg dialled]
    rfl

theorem RuleVersion.strategy_of_mem_destinations {v : RuleVersion} {node : NodeId} {key : Key}
    (member : key ∈ v.destinations node) : key.strategy = v.rule.strategy := by
  rw [destinations_eq] at member
  obtain ⟨target, has, rfl⟩ := List.mem_map.mp member
  exact Rule.strategy_of_mem_targets has v.id node

theorem Rule.strategy_eq_iff {rule : Rule} {strategy : Strategy} :
    rule.strategy = strategy ↔ (rule.proxied = true ↔ strategy = .proxy) := by
  rw [Rule.strategy]
  cases rule.proxied <;> cases strategy <;> simp

theorem History.Key.strategy_eq_iff {rules : List RuleVersion} {node : NodeId} {key : Key}
    (scanned : key ∈ rules.flatMap (·.destinations node)) {strategy : Strategy} :
    key.strategy = strategy ↔
      ∃ v ∈ rules, key ∈ v.destinations node ∧ (v.rule.proxied = true ↔ strategy = .proxy) := by
  simp only [← Rule.strategy_eq_iff]
  constructor
  · rintro rfl
    obtain ⟨v, member, has⟩ := List.mem_flatMap.mp scanned
    exact ⟨v, member, has, (RuleVersion.strategy_of_mem_destinations has).symm⟩
  · rintro ⟨v, _, has, rfl⟩
    exact RuleVersion.strategy_of_mem_destinations has

namespace Task.Call

def ends (status : Status) : Call τ → Bool
  | .probe _ .success => status = .success
  | .probe _ (.error _) => status = .error
  | _ => false

theorem ends_probe (now : τ) (outcome : Outcome) (status : Status) :
    (Call.probe now outcome).ends status = decide (status = outcome.status) := by
  cases outcome <;> rfl

def announceFailed : Call τ → Bool
  | .announce failed => failed
  | _ => false

def recordFailed : Call τ → Bool
  | .record failed => failed
  | _ => false

def writeFailed (call : Call τ) : Bool := call.announceFailed || call.recordFailed

end Task.Call

namespace Task.Life

theorem countP_ends (life : Life τ) (key : Key) (strategy : Strategy) (status : Status) :
    life.calls.countP (fun call => key.strategy = strategy && call.ends status) =
      if decide ((life.report key).key.strategy = strategy ∧ (life.report key).status = status)
        then 1 else 0 := by
  have ended : life.calls.countP (Call.ends status) =
      if (life.report key).status = status then 1 else 0 := by
    obtain ⟨checked, announced, now, outcome, failed⟩ := life
    cases announced <;> cases outcome <;> cases status <;> rfl
  have own : (life.report key).key = key := rfl
  by_cases same : key.strategy = strategy
  · simpa [own, same] using ended
  · simp [own, same]

theorem countP_recordFailed (life : Life τ) (key : Key) :
    life.calls.countP Call.recordFailed = if !(life.report key).recorded then 1 else 0 := by
  obtain ⟨checked, announced, now, outcome, failed⟩ := life
  cases announced <;> cases failed <;> rfl

end Task.Life

theorem countP_writeFailed (log : List (Logged τ)) :
    log.countP (·.call.writeFailed) =
      log.countP (·.call.announceFailed) + log.countP (·.call.recordFailed) := by
  induction log with
  | nil => rfl
  | cons entry rest ih =>
    have one : (if entry.call.writeFailed then 1 else 0) =
        (if entry.call.announceFailed then 1 else 0) +
          if entry.call.recordFailed then 1 else 0 := by
      obtain ⟨task, key, call⟩ := entry
      cases call with
      | check failed | probe now outcome => rfl
      | announce failed | record failed => cases failed <;> rfl
    rw [List.countP_cons, List.countP_cons, List.countP_cons, ih, one]
    omega

def Logged.ends (strategy : Strategy) (status : Status) (entry : Logged τ) : Bool :=
  entry.key.strategy = strategy && entry.call.ends status

def Metrics.hear (m : Metrics) (entry : Logged τ) : Metrics :=
  match entry.call with
  | .check _ => m
  | .probe _ outcome => m.probeCompleted entry.key.strategy outcome.status
  | .announce failed | .record failed => if failed then m.historyWriteFailed else m

theorem Metrics.probes_hear (m : Metrics) (entry : Logged τ) (strategy : Strategy)
    (status : Status) : (m.hear entry).probes strategy status =
      m.probes strategy status + if entry.ends strategy status then 1 else 0 := by
  obtain ⟨task, key, call⟩ := entry
  cases call with
  | probe now outcome =>
    simp only [hear, probeCompleted, Logged.ends, Task.Call.ends_probe, Bool.and_eq_true,
      decide_eq_true_eq, @eq_comm _ strategy]
  | check failed => simp [hear, Logged.ends, Task.Call.ends]
  | announce failed | record failed =>
    cases failed <;> simp [hear, historyWriteFailed, Logged.ends, Task.Call.ends]

theorem Metrics.historyWriteErrors_hear (m : Metrics) (entry : Logged τ) :
    (m.hear entry).historyWriteErrors =
      m.historyWriteErrors + if entry.call.writeFailed then 1 else 0 := by
  obtain ⟨task, key, call⟩ := entry
  cases call with
  | check failed | probe now outcome => rfl
  | announce failed | record failed => cases failed <;> rfl

theorem Metrics.probes_foldl_hear (m : Metrics) (log : List (Logged τ)) (strategy : Strategy)
    (status : Status) : (log.foldl Metrics.hear m).probes strategy status =
      m.probes strategy status + log.countP (·.ends strategy status) :=
  foldl_eq_add_countP (f := fun m => m.probes strategy status)
    (fun m entry => m.probes_hear entry strategy status) log m

theorem Metrics.historyWriteErrors_foldl_hear (m : Metrics) (log : List (Logged τ)) :
    (log.foldl Metrics.hear m).historyWriteErrors =
      m.historyWriteErrors + log.countP (·.call.writeFailed) :=
  foldl_eq_add_countP historyWriteErrors_hear log m

def Pool.owns (pool : Pool τ) (batch i : Nat) : Bool :=
  pool.tasks[i]?.any fun task => task.batch = batch

def Pool.Matched (pool : Pool τ) : Prop := ∀ task ∈ pool.tasks, task.strategy = task.key.strategy

namespace Auditor

variable {a : Auditor τ} {t : Turn τ}

theorem PoolMoved.matched {pool : Pool τ} (moved : a.PoolMoved t pool) (matched : a.pool.Matched) :
    pool.Matched := by
  cases moved with
  | kept idle => exact matched
  | grown now id node rules same =>
    intro task member
    rcases List.mem_append.mp member with member | member
    · exact matched task member
    · obtain ⟨v, _, member⟩ := List.mem_flatMap.mp member
      obtain ⟨target, has, rfl⟩ := List.mem_map.mp member
      exact (Rule.strategy_of_mem_targets has v.id id).symm
  | stepped c i task task' _ same found stepped =>
    intro u member
    rw [stepped.tasks] at member
    rcases List.mem_or_eq_of_mem_set member with member | rfl
    · exact matched u member
    · have own := matched task (List.mem_of_getElem? found)
      rw [stepped.next.key, ← own]
      cases stepped.next <;> rfl

theorem matched_run (hash : Key → Nat) (shards limit : Nat) (turns : List (Turn τ)) :
    ((new hash shards limit : Auditor τ).run turns).pool.Matched :=
  run_keeps (·.pool.Matched) (fun a t matched => (poolMoved_turn a t).matched matched) _ turns
    (by intro task member; cases member)

theorem metrics_turn (matched : a.pool.Matched) (t : Turn τ) :
    (a.turn t).metrics = (a.logged t).foldl Metrics.hear a.metrics := by
  cases t with
  | probe c i =>
    change (a.step c i).metrics = _
    cases found : a.pool.tasks[i]? with
    | none =>
      rw [step_of_none found, logged, found]
      rfl
    | some task =>
      have own := matched task (List.mem_of_getElem? found)
      rw [logged_probe c found, Task.call?]
      simp only [step, found]
      cases phase : task.phase with
      | queued =>
        simp only [stepTask, phase]
        split <;> rfl
      | checking | reporting recorded | done =>
        simp only [stepTask, phase]
        rfl
      | probing =>
        simp only [stepTask, phase, own]
        rfl
      | announcing | recording =>
        simp only [stepTask, phase, write]
        cases c.writeFails task.key <;> rfl
  | _ => rfl

theorem metrics_run (matched : a.pool.Matched) (turns : List (Turn τ)) :
    (a.run turns).metrics = (a.log turns).foldl Metrics.hear a.metrics := by
  have kept := run_log_keeps
    (fun b log => b.pool.Matched ∧ b.metrics = log.foldl Metrics.hear a.metrics)
    (fun b log t here => by
      refine ⟨(poolMoved_turn b t).matched here.1, ?_⟩
      rw [metrics_turn here.1, here.2, List.foldl_append])
    a turns ⟨matched, rfl⟩
  exact kept.2

section Finished

variable {batch first : Nat} {keys : List Key} {pool : Pool τ} {log : List (Logged τ)}

theorem countP_told {order : List Nat} {reports : List Report} {q : Logged τ → Bool}
    {p : Report → Bool} (distinct : order.Nodup)
    (told : List.Forall₂ (fun n r =>
      (log.filter (·.task = first + n)).countP q = if p r then 1 else 0) order reports) :
    (log.filter fun entry => ∃ n ∈ order, entry.task = first + n).countP q = reports.countP p := by
  induction told with
  | nil => simp
  | @cons n r order reports here _ ih =>
    obtain ⟨fresh, distinct⟩ := List.nodup_cons.mp distinct
    have own : ((log.filter fun entry => ∃ m ∈ n :: order, entry.task = first + m).filter
        (·.task = first + n)) = log.filter (·.task = first + n) := by
      rw [List.filter_filter]
      refine List.filter_congr fun entry _ => ?_
      by_cases mine : entry.task = first + n <;> simp [mine]
    have rest : ((log.filter fun entry => ∃ m ∈ n :: order, entry.task = first + m).filter
        fun entry => !decide (entry.task = first + n)) =
          log.filter fun entry => ∃ m ∈ order, entry.task = first + m := by
      rw [List.filter_filter]
      refine List.filter_congr fun entry _ => ?_
      by_cases mine : entry.task = first + n <;> simp [mine, fresh]
    rw [List.countP_eq_countP_filter_add _ q (·.task = first + n), own, rest, here, ih distinct,
      List.countP_cons]
    omega

theorem Covers.owns_iff (covers : Covers batch first keys pool log) (i : Nat) :
    pool.owns batch i = true ↔ ∃ n < keys.length, i = first + n := by
  rw [Pool.owns, Option.any_eq_true]
  constructor
  · rintro ⟨task, found, own⟩
    exact covers.others i task found (by simpa using own)
  · rintro ⟨n, small, rfl⟩
    obtain ⟨task, found, own, _⟩ := covers.tasks n _ (List.getElem?_eq_getElem small)
    exact ⟨task, found, by simpa using own⟩

theorem Covers.key_eq {n : Nat} {key : Key} {entry : Logged τ}
    (covers : Covers batch first keys pool log) (attributed : Attributed pool log)
    (member : entry ∈ log) (mine : entry.task = first + n) (listed : keys[n]? = some key) :
    entry.key = key := by
  obtain ⟨task, found, same⟩ := attributed entry member
  obtain ⟨task', there, _, key', _⟩ := covers.tasks n key listed
  rw [mine, there] at found
  obtain rfl := Option.some.inj found
  exact same.symm.trans key'

/-- A kind of call that every probe makes once or not at all, as its report says, has been made as
    often as there are such reports. -/
theorem Covers.countP_own {q : Key → Task.Call τ → Bool} {p : Report → Bool}
    (covers : Covers batch first keys pool log) (attributed : Attributed pool log)
    (finished : pool.isFinished batch = true)
    (once : ∀ (life : Task.Life τ) key,
      life.calls.countP (q key) = if p (life.report key) then 1 else 0) :
    (log.filter fun entry => pool.owns batch entry.task).countP
        (fun entry => q entry.key entry.call) = (pool.reportsOf batch).countP p := by
  obtain ⟨order, all, told⟩ := covers.reports_of_finished finished
  have own : (log.filter fun entry => pool.owns batch entry.task) =
      log.filter fun entry => ∃ n ∈ order, entry.task = first + n := by
    refine List.filter_congr fun entry _ => ?_
    rw [Bool.eq_iff_iff, covers.owns_iff, decide_eq_true_eq]
    simp only [all.mem_iff, List.mem_range]
  rw [own]
  refine countP_told (all.nodup_iff.mpr List.nodup_range) (told.imp ?_)
  rintro n r ⟨key, life, calls, report⟩
  have keyed : ∀ entry ∈ log.filter (·.task = first + n), entry.key = r.key := by
    intro entry member
    obtain ⟨member, mine⟩ := List.mem_filter.mp member
    exact covers.key_eq attributed member (decide_eq_true_eq.mp mine) key
  calc (log.filter (·.task = first + n)).countP (fun entry => q entry.key entry.call)
      = (log.filter (·.task = first + n)).countP (fun entry => q r.key entry.call) :=
        List.countP_congr fun entry member => by rw [keyed entry member]
    _ = (callsOf (first + n) log).countP (q r.key) := by rw [callsOf, List.countP_map]; rfl
    _ = life.calls.countP (q r.key) := by rw [calls]
    _ = if p r then 1 else 0 := by rw [once, ← report]

end Finished

theorem probe_mem_of_mem_log {a : Auditor τ} {turns : List (Turn τ)} {entry : Logged τ}
    (member : entry ∈ a.log turns) : ∃ c, Turn.probe c entry.task ∈ turns := by
  induction turns generalizing a with
  | nil => cases member
  | cons t rest ih =>
    rcases List.mem_append.mp member with here | later
    · cases t with
      | probe c i =>
        cases found : a.pool.tasks[i]? with
        | none =>
          rw [logged, found] at here
          cases here
        | some task =>
          rw [logged_probe c found] at here
          obtain ⟨call, _, rfl⟩ := List.mem_map.mp here
          exact ⟨c, List.mem_cons_self⟩
      | _ => cases here
    · obtain ⟨c, member⟩ := ih later
      exact ⟨c, List.mem_cons_of_mem _ member⟩

/-- When a batch has finished, the probes that have been counted since its start are those that it
    reports, by the strategies of their rules, and those of other batches. The write errors are its
    unrecorded outcomes, its pending rows that could not be written, and the failed writes of other
    batches: they tell the unrecorded outcomes just if no pending row failed. -/
theorem metrics_account_for_reports (hash : Key → Nat) (shards limit : Nat)
    (before : List (Turn τ)) (now : τ) (id : NodeId) (node : Node τ) (rules : List RuleVersion)
    (after : List (Turn τ)) :
    let start := (new hash shards limit).run before
    let scan := start.scanRules now id node rules
    let batch := scan.1.id
    let a := scan.2.run after
    let reports := a.pool.reportsOf batch
    let own := (scan.2.log after).filter fun entry => a.pool.owns batch entry.task
    let others := (scan.2.log after).filter fun entry => !a.pool.owns batch entry.task
    a.pool.isFinished batch = true →
      (∀ strategy status, a.metrics.probes strategy status =
        start.metrics.probes strategy status +
          reports.countP (fun r => r.status = status ∧
            ∃ v ∈ rules, r.key ∈ v.destinations id ∧
              (v.rule.proxied = true ↔ strategy = .proxy)) +
          others.countP (·.ends strategy status)) ∧
      a.metrics.historyWriteErrors =
        start.metrics.historyWriteErrors + reports.countP (!·.recorded) +
          own.countP (·.call.announceFailed) + others.countP (·.call.writeFailed) ∧
      (a.metrics.historyWriteErrors =
          start.metrics.historyWriteErrors + reports.countP (!·.recorded) +
            others.countP (·.call.writeFailed) ↔
        ∀ entry ∈ own, entry.call.announceFailed = false) ∧
      ((∀ c i, .probe c i ∈ after → a.pool.owns batch i = true) → others = []) := by
  intro start scan batch a reports own others finished
  have covers : Covers batch start.pool.tasks.length (rules.flatMap (·.destinations id))
      scan.2.pool [] :=
    covers_scanRules (numbered_run hash shards limit before)
      (orderly_run hash shards limit before).accounted now id node rules
  have covered := covers.run after
  have attributed := attributed_run scan.2 after
  have matched : scan.2.pool.Matched :=
    (poolMoved_turn start (.scan now id node rules)).matched (matched_run hash shards limit before)
  have heard : a.metrics = (scan.2.log after).foldl Metrics.hear start.metrics :=
    metrics_run matched after
  have split (q : Logged τ → Bool) : (scan.2.log after).countP q = own.countP q + others.countP q :=
    List.countP_eq_countP_filter_add _ q _
  have errors : a.metrics.historyWriteErrors =
      start.metrics.historyWriteErrors + reports.countP (!·.recorded) +
        own.countP (·.call.announceFailed) + others.countP (·.call.writeFailed) := by
    have unrecorded : own.countP (·.call.recordFailed) = reports.countP (!·.recorded) :=
      covered.countP_own (q := fun _ call => call.recordFailed) attributed finished
        Task.Life.countP_recordFailed
    rw [heard, Metrics.historyWriteErrors_foldl_hear, split, countP_writeFailed own, unrecorded]
    omega
  refine ⟨fun strategy status => ?_, errors, ?_, ?_⟩
  · have ended : own.countP (·.ends strategy status) =
        reports.countP (fun r => r.key.strategy = strategy ∧ r.status = status) :=
      covered.countP_own (q := fun key call => key.strategy = strategy && call.ends status)
        attributed finished fun life key => life.countP_ends key strategy status
    have told : reports.countP (fun r => r.key.strategy = strategy ∧ r.status = status) =
        reports.countP (fun r => r.status = status ∧
          ∃ v ∈ rules, r.key ∈ v.destinations id ∧
            (v.rule.proxied = true ↔ strategy = .proxy)) := by
      refine List.countP_congr fun r member => ?_
      have scanned : r.key ∈ rules.flatMap (·.destinations id) :=
        (covered.keys_of_finished finished).mem_iff.mp (List.mem_map_of_mem member)
      rw [decide_eq_true_eq, decide_eq_true_eq, Key.strategy_eq_iff scanned, and_comm]
    rw [heard, Metrics.probes_foldl_hear, split, ended, told, Nat.add_assoc]
  · have none : own.countP (·.call.announceFailed) = 0 ↔
        ∀ entry ∈ own, entry.call.announceFailed = false := by
      simp only [List.countP_eq_zero, Bool.not_eq_true]
    rw [← none, errors]
    omega
  · intro alone
    refine List.filter_eq_nil_iff.mpr fun entry member => ?_
    obtain ⟨c, stepped⟩ := probe_mem_of_mem_log member
    simp [alone c entry.task stepped]

open World (sampleRule sampleConditions)

def oneProbe (writable : List Bool) : List (Turn Nat) :=
  writable.map fun up => .probe { sampleConditions with writeFails := fun _ => !up } 0

theorem metrics_account_for_reports_unannounced :
    let start : Auditor Nat := (new Key.checksum 2 1).run []
    let scan := start.scanRules 2 "n" sampleNode [⟨"ns/r", sampleRule, 0⟩]
    let after := oneProbe [true, true, false, true, true, true]
    let a := scan.2.run after
    let own := (scan.2.log after).filter fun entry => a.pool.owns scan.1.id entry.task
    a.pool.isFinished scan.1.id = true ∧
      a.pool.reportsOf scan.1.id = [⟨⟨"ns/r", "n", "a", some "1"⟩, .success, true⟩] ∧
      a.metrics.historyWriteErrors = 1 ∧ ¬ ∀ entry ∈ own, entry.call.announceFailed = false := by
  intro start scan after a own
  have finished : a.pool.isFinished scan.1.id = true := by decide +kernel
  have reports : a.pool.reportsOf scan.1.id = [⟨⟨"ns/r", "n", "a", some "1"⟩, .success, true⟩] := by
    decide +kernel
  have errors : a.metrics.historyWriteErrors = 1 := by decide +kernel
  have exact_iff := (metrics_account_for_reports Key.checksum 2 1 [] 2 "n" sampleNode
    [⟨"ns/r", sampleRule, 0⟩] after finished).2.2.1
  have refuted {errors others : Nat} {announced : Prop} (counted : errors = others ↔ announced)
      (one : errors = 1) (none : others = 0) : ¬ announced := by
    rw [← counted, one, none]
    decide
  refine ⟨finished, reports, errors, refuted exact_iff ?_ ?_⟩
  · decide +kernel
  · decide +kernel

/-- Where the store is down, one unrecorded outcome is two write errors. -/
theorem write_errors_exceed_unrecorded :
    let start : Auditor Nat := new Key.checksum 2 1
    let scan := start.scanRules 2 "n" sampleNode [⟨"ns/r", sampleRule, 0⟩]
    let a := scan.2.run (oneProbe (List.replicate 6 false))
    a.pool.isFinished scan.1.id = true ∧
      a.pool.reportsOf scan.1.id = [⟨⟨"ns/r", "n", "a", some "1"⟩, .success, false⟩] ∧
      a.metrics.historyWriteErrors = start.metrics.historyWriteErrors + 2 := by
  decide +kernel

end Auditor

end ReachAudit
