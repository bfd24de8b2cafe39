import Mathlib.Data.List.Perm.Basic
import ReachAudit.Proofs.Auditor.Batches
import ReachAudit.Proofs.Auditor.FairRuns
import ReachAudit.Proofs.Auditor.Isolation

namespace ReachAudit.Auditor

open History (Key)

variable {τ : Type} {batch first : Nat} {keys : List Key} {log : List (Logged τ)}

section Finished

variable {pool pool' : Pool τ} {log' : List (Logged τ)}

theorem Covers.isFinished_iff (covers : Covers batch first keys pool log) :
    pool.isFinished batch = true ↔ ∀ n < keys.length, IsDone (first + n) pool := by
  rw [Pool.isFinished, List.all_eq_true]
  constructor
  · intro finished n small
    obtain ⟨task, found, own, _⟩ := covers.tasks n _ (List.getElem?_eq_getElem small)
    exact ⟨task, found, by simpa [own] using finished task (List.mem_of_getElem? found)⟩
  · intro done task member
    by_cases own : task.batch = batch
    · obtain ⟨i, found⟩ := List.mem_iff_getElem?.mp member
      obtain ⟨n, small, rfl⟩ := covers.others i task found own
      obtain ⟨_, there, done⟩ := done n small
      obtain rfl := Option.some.inj (found.symm.trans there)
      simp [done]
    · simp [own]

theorem Covers.reports_of_finished (covers : Covers batch first keys pool log)
    (finished : pool.isFinished batch = true) :
    ∃ order, order.Perm (List.range keys.length) ∧
      List.Forall₂ (Tells first keys log) order (pool.reportsOf batch) := by
  obtain ⟨order, distinct, members, told⟩ := covers.reports
  refine ⟨order, ?_, told⟩
  rw [List.perm_ext_iff_of_nodup distinct List.nodup_range]
  intro n
  rw [members, List.mem_range]
  exact ⟨And.left, fun small => ⟨small, covers.isFinished_iff.mp finished n small⟩⟩

theorem Covers.isFinished_iff_length (covers : Covers batch first keys pool log) :
    pool.isFinished batch = true ↔ (pool.reportsOf batch).length = keys.length := by
  constructor
  · intro finished
    obtain ⟨order, all, told⟩ := covers.reports_of_finished finished
    rw [← told.length_eq, all.length_eq, List.length_range]
  · intro full
    obtain ⟨order, distinct, members, told⟩ := covers.reports
    have within : order ⊆ List.range keys.length :=
      fun n member => List.mem_range.mpr ((members n).mp member).1
    have all := (List.subperm_of_subset distinct within).perm_of_length_le
      (by rw [told.length_eq, full, List.length_range])
    refine covers.isFinished_iff.mpr fun n small => ?_
    exact ((members n).mp (all.mem_iff.mpr (List.mem_range.mpr small))).2

theorem Covers.keys_of_finished (covers : Covers batch first keys pool log)
    (finished : pool.isFinished batch = true) :
    ((pool.reportsOf batch).map Report.key).Perm keys := by
  obtain ⟨order, all, told⟩ := covers.reports_of_finished finished
  have named : order.filterMap (keys[·]?) = (pool.reportsOf batch).map Report.key := by
    clear all finished covers
    generalize pool.reportsOf batch = reports at told
    induction told with
    | nil => rfl
    | cons tells _ ih => rw [List.filterMap_cons, tells.1, List.map_cons, ih]
  rw [← named]
  exact (all.filterMap _).trans (List.Perm.of_eq (filterMap_getElem?_range keys))

theorem tells_unique : Relator.RightUnique (Tells (τ := τ) first keys log) := by
  rintro n r s ⟨key, life, calls, report⟩ ⟨key', life', calls', report'⟩
  have same : r.key = s.key := Option.some.inj (key.symm.trans key')
  calc r = life.report r.key := report
    _ = life'.report r.key := Task.Life.report_eq_of_calls_eq (calls.symm.trans calls') _
    _ = life'.report s.key := by rw [same]
    _ = s := report'.symm

theorem Covers.reports_perm {key : Key} (covers : Covers batch first keys pool log)
    (covers' : Covers batch first keys pool' log') (attributed : Attributed pool log)
    (attributed' : Attributed pool' log') (finished : pool.isFinished batch = true)
    (finished' : pool'.isFinished batch = true)
    (same : log.filter (·.key = key) = log'.filter (·.key = key)) :
    ((pool.reportsOf batch).filter (·.key = key)).Perm
      ((pool'.reportsOf batch).filter (·.key = key)) := by
  obtain ⟨order, all, told⟩ := covers.reports_of_finished finished
  obtain ⟨order', all', told'⟩ := covers'.reports_of_finished finished'
  have calls {n : Nat} (own : keys[n]? = some key) :
      callsOf (first + n) log' = callsOf (first + n) log := by
    obtain ⟨task, found, _, rfl, _⟩ := covers.tasks n key own
    obtain ⟨task', found', _, own', _⟩ := covers'.tasks n task.key own
    rw [← attributed.callsOf_filter found, ← attributed'.callsOf_filter found', own', same]
  have about {log : List (Logged τ)} {order : List Nat} {reports : List Report}
      (told : List.Forall₂ (Tells first keys log) order reports) :
      List.Forall₂ (Tells first keys log) (order.filter (keys[·]? = some key))
        (reports.filter (·.key = key)) := by
    refine List.rel_filter ?_ told
    rintro n r ⟨own, _⟩
    simp [own]
  have moved : List.Forall₂ (Tells first keys log') (order.filter (keys[·]? = some key))
      ((pool.reportsOf batch).filter (·.key = key)) := by
    have both := (List.forall₂_and_left _ _).mpr ⟨fun n member => (List.mem_filter.mp member).2,
      about told⟩
    refine both.imp ?_
    rintro n r ⟨own, tells⟩
    exact tells.later (calls (by simpa using own))
  obtain ⟨reports, told', same⟩ := List.perm_comp_forall₂
    ((all.trans all'.symm).filter (keys[·]? = some key)) (about told')
  rw [List.right_unique_forall₂' tells_unique moved told']
  exact same

end Finished

theorem length_destinations (node : NodeId) (rules : List RuleVersion) :
    (rules.flatMap (·.destinations node)).length = rules.foldr (fun v n =>
      (if v.rule.active = false then 0
        else if v.rule.proxied then v.rule.addresses.length
        else v.rule.addresses.length * v.rule.ports.length) + n) 0 := by
  induction rules with
  | nil => rfl
  | cons v rest ih =>
    rw [List.flatMap_cons, List.length_append, ih, RuleVersion.destinations_eq, List.length_map,
      Rule.length_targets]
    rfl

theorem Covers.reports_perm_of_log_eq {start a : Auditor τ} {after : List (Turn τ)} {key : Key}
    {steps other : List (Turn τ)} (covers : Covers batch first keys start.pool [])
    (reached : a = start.run after)
    (finished : (a.run steps).pool.isFinished batch = true)
    (finished' : (a.run other).pool.isFinished batch = true)
    (same : (a.log steps).filter (·.key = key) = (a.log other).filter (·.key = key)) :
    (((a.run steps).pool.reportsOf batch).filter (·.key = key)).Perm
      (((a.run other).pool.reportsOf batch).filter (·.key = key)) := by
  subst reached
  rw [← run_append] at finished finished' ⊢
  rw [← run_append]
  refine (covers.run (after ++ steps)).reports_perm (covers.run (after ++ other))
    (attributed_run start _) (attributed_run start _) finished finished' ?_
  rw [log_append, log_append, List.filter_append, List.filter_append, same]

/-- A batch has a probe for every destination of its active rules. It comes to its end, and then
    each probe has made one report, with what its own calls came to. What becomes of a destination
    depends on the calls for it alone. -/
theorem batch_reports_every_probe (hash : Key → Nat) (shards limit : Nat)
    (before : List (Turn τ)) (now : τ) (id : NodeId) (node : Node τ) (rules : List RuleVersion)
    (after : List (Turn τ)) :
    let start := (new hash shards limit).run before
    let scan := start.scanRules now id node rules
    let batch := scan.1.id
    let keys := rules.flatMap (·.destinations id)
    let a := scan.2.run after
    scan.1.probes = rules.foldr (fun v n =>
        (if v.rule.active = false then 0
          else if v.rule.proxied then v.rule.addresses.length
          else v.rule.addresses.length * v.rule.ports.length) + n) 0 ∧
      (a.pool.isFinished batch = true ↔ (a.pool.reportsOf batch).length = scan.1.probes) ∧
      (a.pool.isFinished batch = true → ((a.pool.reportsOf batch).map Report.key).Perm keys ∧
        ∃ order, order.Perm (List.range scan.1.probes) ∧
          List.Forall₂ (Tells start.pool.tasks.length keys (scan.2.log after)) order
            (a.pool.reportsOf batch)) ∧
      (∀ schedule : Nat → Conditions τ × Nat,
        (∀ i < a.pool.tasks.length, ∀ n, ∃ m, n ≤ m ∧ (schedule m).2 = i) →
        ∃ n, (a.run (firstSteps schedule n)).pool.isFinished batch = true) ∧
      ∀ (key : Key) (steps other : List (Conditions τ × Nat)),
        let here := a.run (Turn.probes steps)
        let there := a.run (Turn.probes other)
        (a.log (Turn.probes steps)).filter (·.key = key) =
          (a.log (Turn.probes other)).filter (·.key = key) →
        here.history.get? key = there.history.get? key ∧
          (here.pool.isFinished batch = true → there.pool.isFinished batch = true →
            ((here.pool.reportsOf batch).filter (·.key = key)).Perm
              ((there.pool.reportsOf batch).filter (·.key = key))) := by
  intro start scan batch keys a
  have covers : Covers batch start.pool.tasks.length keys scan.2.pool [] :=
    covers_scanRules (numbered_run hash shards limit before)
      (orderly_run hash shards limit before).accounted now id node rules
  have covered := covers.run after
  have probes : scan.1.probes = keys.length := by
    have size := congrArg List.length (map_key_spawned start now id node rules)
    rw [List.length_map] at size
    exact size
  refine ⟨probes.trans (length_destinations id rules), ?_, ?_, ?_, ?_⟩
  · rw [probes]
    exact covered.isFinished_iff_length
  · intro finished
    rw [probes]
    exact ⟨covered.keys_of_finished finished, covered.reports_of_finished finished⟩
  · intro schedule fair
    obtain ⟨n, done⟩ := exists_all_done schedule a fair
    refine ⟨n, List.all_eq_true.mpr fun task member => ?_⟩
    simp [done task member]
  · intro key steps other here there same
    have initial : (new hash shards limit : Auditor τ).history.Placed :=
      History.Store.Placed.new hash shards
    have begun : scan.2.history.Placed := placed_run initial before
    have placed : a.history.Placed := placed_run begun after
    refine ⟨?_, fun finished finished' => ?_⟩
    · have outlook : here.outlook key = there.outlook key := by
        rw [outlook_run placed, outlook_run placed, same]
      exact congrArg Outlook.row outlook
    · exact covers.reports_perm_of_log_eq rfl finished finished' same

def unlikeRules : List RuleVersion := [
  ⟨"ns/r", { roles := ["db"], addresses := ["a"], ports := ["1", "2"] }, 0⟩,
  ⟨"ns/p", { roles := ["db"], addresses := ["b", "b"], ports := ["1"], proxied := true }, 0⟩,
  ⟨"ns/q", { active := false, roles := ["db"], addresses := ["c"], ports := ["1"] }, 0⟩]

def onePort (written : RuleId → Bool) : Conditions Nat where
  now := 3
  probe _ _ port := if port = some "1" then .success else .error .noProxy
  writeFails key := !written key.rule

def fourInTurn (c : Conditions Nat) (n : Nat) : Conditions Nat × Nat := (c, n % 4)

theorem batch_reports_every_probe_unlike :
    let scan := (new Key.checksum 2 2 : Auditor Nat).scanRules 2 "n" sampleNode unlikeRules
    let down := onePort (· ≠ "ns/p")
    let steps := (List.range 48).map (fourInTurn down)
    let here := scan.2.run (Turn.probes steps)
    let there := scan.2.run (Turn.probes ((List.range 48).map (fourInTurn (onePort fun _ => true))))
    let key : Key := ⟨"ns/r", "n", "a", some "2"⟩
    scan.1.probes = 4 ∧
      here.pool.reportsOf 0 = [⟨⟨"ns/r", "n", "a", some "1"⟩, .success, true⟩,
        ⟨key, .error, true⟩, ⟨⟨"ns/p", "n", "b", none⟩, .error, false⟩,
        ⟨⟨"ns/p", "n", "b", none⟩, .error, false⟩] ∧
      (∃ order, order.Perm (List.range 4) ∧
        List.Forall₂ (Tells 0 (unlikeRules.flatMap (·.destinations "n"))
          (scan.2.log (Turn.probes steps))) order (here.pool.reportsOf 0)) ∧
      (∃ n, (scan.2.run (firstSteps (fourInTurn down) n)).pool.isFinished 0 = true) ∧
      here.history.get? key = there.history.get? key := by
  intro scan down steps here there key
  have told : here.pool.reportsOf 0 = [⟨⟨"ns/r", "n", "a", some "1"⟩, .success, true⟩,
      ⟨key, .error, true⟩, ⟨⟨"ns/p", "n", "b", none⟩, .error, false⟩,
      ⟨⟨"ns/p", "n", "b", none⟩, .error, false⟩] := by decide +kernel
  have finished : here.pool.isFinished 0 = true := by decide +kernel
  have tasks : scan.2.pool.tasks.length = 4 := by decide +kernel
  have fair : ∀ i < scan.2.pool.tasks.length, ∀ n, ∃ m, n ≤ m ∧ (fourInTurn down m).2 = i := by
    intro i small n
    rw [tasks] at small
    refine ⟨4 * n + i, by omega, ?_⟩
    rw [fourInTurn, Nat.mul_add_mod, Nat.mod_eq_of_lt small]
  have same : (scan.2.log (Turn.probes steps)).filter (·.key = key) =
      (scan.2.log (Turn.probes ((List.range 48).map (fourInTurn (onePort fun _ => true))))).filter
        (·.key = key) := by decide +kernel
  obtain ⟨probes, _, reported, _⟩ := batch_reports_every_probe Key.checksum 2 2 [] 2 "n" sampleNode
    unlikeRules (Turn.probes steps)
  obtain ⟨_, _, _, ends, alone⟩ := batch_reports_every_probe Key.checksum 2 2 [] 2 "n" sampleNode
    unlikeRules []
  exact ⟨probes, told, (reported finished).2, ends _ fair, (alone key _ _ same).1⟩

end ReachAudit.Auditor
