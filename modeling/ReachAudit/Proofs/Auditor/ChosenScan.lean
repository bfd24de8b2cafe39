import Mathlib.Data.List.Nodup
import Mathlib.Data.List.Perm.Basic
import ReachAudit.Proofs.Auditor.Batches
import ReachAudit.Proofs.Rule.Lookup

namespace ReachAudit.Auditor

open History (Key)

variable {τ : Type} {a : Auditor τ} {l : Lookups} {now : τ} {id : NodeId} {node : Node τ}
  {ids : List RuleId} {choose : RuleIndex τ → List String → List RuleVersion}

def added (before after : Auditor τ) : List (Task τ) :=
  after.pool.tasks.drop before.pool.tasks.length

def located (l : Lookups) (a : Auditor τ) : Except ScanError (NodeId × Node τ) := do
  let node ← a.resolveNode l
  failOn l.rulesFailure ScanError.rulesLookup
  return node

def scanEach (l : Lookups) (parts : List (τ × List RuleId)) (a : Auditor τ) : Auditor τ :=
  parts.foldl (fun a part => (a.scanByIds l part.1 part.2).2) a

theorem located_of_known (current : l.currentNode = .ok id) (known : a.nodes.get? id = some node)
    (nodes : l.nodeFailure = none) (roles : l.rolesFailure = none) (rules : l.rulesFailure = none) :
    a.located l = .ok (id, node) := by
  simp only [located, resolveNode, current, known, nodes, roles, rules, failOn, Except.mapError,
    bind, Except.bind, pure, Except.pure]

theorem resolve_eq (a : Auditor τ) (l : Lookups)
    (choose : RuleIndex τ → List String → List RuleVersion) :
    a.resolve l choose =
      a.located l >>= fun node => .ok (node, choose a.rules node.2.roles.toList) := by
  rw [resolve, located]
  cases a.resolveNode l with
  | error e => rfl
  | ok node => cases l.rulesFailure <;> rfl

theorem scan_of_error {e : ScanError} (failed : a.located l = .error e) :
    a.scan l now choose = (.error e, a) := by
  have resolved : a.resolve l choose = .error e := by
    rw [resolve_eq, failed]
    rfl
  simp only [scan, resolved]

theorem scan_of_located (found : a.located l = .ok (id, node)) :
    a.scan l now choose =
      let started := a.scanRules now id node (choose a.rules node.roles.toList)
      (.ok started.1, started.2) := by
  have resolved : a.resolve l choose = .ok ((id, node), choose a.rules node.roles.toList) := by
    rw [resolve_eq, found]
    rfl
  simp only [scan, resolved]

theorem tasks_scan (found : a.located l = .ok (id, node)) :
    (a.scan l now choose).2.pool.tasks =
      a.pool.tasks ++ a.spawned now id node (choose a.rules node.roles.toList) := by
  rw [scan_of_located found]
  rfl

theorem added_scan (found : a.located l = .ok (id, node)) :
    a.added (a.scan l now choose).2 = a.spawned now id node (choose a.rules node.roles.toList) := by
  rw [added, tasks_scan found, List.drop_left]

theorem added_of_error {e : ScanError} (failed : a.located l = .error e) :
    a.added (a.scan l now choose).2 = [] := by
  rw [added, scan_of_error failed, List.drop_length]

theorem rule_of_mem_tasksOf {batch : Nat} {v : RuleVersion} {task : Task τ}
    (member : task ∈ Pool.tasksOf now batch id node v) : task.key.rule = v.id := by
  obtain ⟨target, _, rfl⟩ := List.mem_map.mp member
  rfl

theorem filter_spawned (a : Auditor τ) (now : τ) (id : NodeId) (node : Node τ)
    (p : RuleId → Bool) (rules : List RuleVersion) :
    (a.spawned now id node rules).filter (fun task => p task.key.rule) =
      a.spawned now id node (rules.filter fun v => p v.id) := by
  induction rules with
  | nil => rfl
  | cons v rules ih =>
    have own : ∀ task ∈ Pool.tasksOf now a.pool.batches id node v, task.key.rule = v.id :=
      fun task member => rule_of_mem_tasksOf member
    simp only [spawned, List.flatMap_cons, List.filter_append] at ih ⊢
    rw [ih]
    cases passes : p v.id with
    | true =>
      have kept : (v :: rules).filter (fun v => p v.id) = v :: rules.filter fun v => p v.id :=
        List.filter_cons_of_pos passes
      rw [kept, List.flatMap_cons, List.filter_eq_self.mpr]
      intro task member
      rw [own task member, passes]
    | false =>
      have dropped : (v :: rules).filter (fun v => p v.id) = rules.filter fun v => p v.id :=
        List.filter_cons_of_neg (by simp [passes])
      rw [dropped, List.filter_eq_nil_iff.mpr, List.nil_append]
      intro task member
      simp [own task member, passes]

theorem map_key_scanEach (found : a.located l = .ok (id, node)) (parts : List (τ × List RuleId)) :
    ((a.scanEach l parts).pool.tasks).map Task.key = a.pool.tasks.map Task.key ++
      parts.flatMap fun part =>
        (a.rules.activeByIds part.2 node.roles.toList).flatMap (·.destinations id) := by
  induction parts generalizing a with
  | nil => simp [scanEach]
  | cons part parts ih =>
    have first : (a.scanByIds l part.1 part.2).2 = (a.scanRules part.1 id node
        (a.rules.activeByIds part.2 node.roles.toList)).2 :=
      congrArg Prod.snd (scan_of_located found)
    -- A scan leaves the rules and the nodes as they are.
    have still : (a.scanByIds l part.1 part.2).2.located l = .ok (id, node) := by
      rw [first]
      exact found
    have rules : (a.scanByIds l part.1 part.2).2.rules = a.rules := by
      rw [first]
      rfl
    have rest := ih still
    have tasks : (a.scanByIds l part.1 part.2).2.pool.tasks = a.pool.tasks ++
        a.spawned part.1 id node (a.rules.activeByIds part.2 node.roles.toList) := tasks_scan found
    rw [rules, tasks, List.map_append, map_key_spawned] at rest
    rw [List.flatMap_cons, ← List.append_assoc]
    exact rest

theorem flatMap_activeByIds_perm {index : RuleIndex τ} {parts : List (τ × List RuleId)}
    (roles : List String) (apart : parts.Pairwise fun p q => p.2.Disjoint q.2)
    (whole : ∀ id, id ∈ ids ↔ ∃ part ∈ parts, id ∈ part.2) :
    (parts.flatMap fun part => index.activeByIds part.2 roles).Perm
      (index.activeByIds ids roles) := by
  have distinct : (parts.flatMap fun part => index.activeByIds part.2 roles).Nodup := by
    rw [List.nodup_flatMap]
    refine ⟨fun part _ => (index.rising_activeByIds part.2 roles).nodup, apart.imp ?_⟩
    intro p q disjoint v inP inQ
    rw [RuleIndex.mem_activeByIds_iff] at inP inQ
    exact disjoint inP.2 inQ.2
  rw [List.perm_ext_iff_of_nodup distinct (index.rising_activeByIds ids roles).nodup]
  intro v
  simp only [List.mem_flatMap, RuleIndex.mem_activeByIds_iff, whole]
  constructor
  · rintro ⟨part, member, found, chosen⟩
    exact ⟨found, part, member, chosen⟩
  · rintro ⟨found, part, member, chosen⟩
    exact ⟨part, member, found, chosen⟩

theorem scanEach_of_error {e : ScanError} (failed : a.located l = .error e)
    (parts : List (τ × List RuleId)) : a.scanEach l parts = a := by
  induction parts with
  | nil => rfl
  | cons part parts ih =>
    have first : (a.scanByIds l part.1 part.2).2 = a := congrArg Prod.snd (scan_of_error failed)
    rw [scanEach, List.foldl_cons, first]
    exact ih

theorem added_scanEach_perm {parts : List (τ × List RuleId)}
    (apart : parts.Pairwise fun p q => p.2.Disjoint q.2)
    (whole : ∀ id, id ∈ ids ↔ ∃ part ∈ parts, id ∈ part.2) :
    ((a.added (a.scanEach l parts)).map Task.key).Perm
      ((a.added (a.scanByIds l now ids).2).map Task.key) := by
  cases found : a.located l with
  | error e =>
    rw [scanEach_of_error found, scanByIds, added_of_error found, added, List.drop_length]
  | ok current =>
    obtain ⟨id, node⟩ := current
    have parted : (a.added (a.scanEach l parts)).map Task.key = parts.flatMap fun part =>
        (a.rules.activeByIds part.2 node.roles.toList).flatMap (·.destinations id) := by
      rw [added, List.map_drop, map_key_scanEach found, ← List.length_map (f := Task.key),
        List.drop_left]
    rw [parted, scanByIds, added_scan found, map_key_spawned, ← List.flatMap_assoc]
    exact (flatMap_activeByIds_perm node.roles.toList apart whole).flatMap_right _

theorem scanByIds_error_iff (a : Auditor τ) (l : Lookups) (now : τ) (ids : List RuleId)
    (e : ScanError) :
    (a.scanByIds l now ids).1 = .error e ↔ (a.scanAll l now).1 = .error e := by
  cases found : a.located l with
  | error e' =>
    have same : a.scanByIds l now ids = a.scanAll l now :=
      (scan_of_error found).trans (scan_of_error found).symm
    rw [same]
  | ok current =>
    have chosen : (a.scanByIds l now ids).1 = .ok _ := congrArg Prod.fst (scan_of_located found)
    have whole : (a.scanAll l now).1 = .ok _ := congrArg Prod.fst (scan_of_located found)
    rw [chosen, whole]
    constructor <;> intro failed <;> cases failed

theorem added_scanByIds (a : Auditor τ) (l : Lookups) (now : τ) (ids : List RuleId) :
    a.added (a.scanByIds l now ids).2 =
      (a.added (a.scanAll l now).2).filter fun task => ids.contains task.key.rule := by
  cases found : a.located l with
  | error e =>
    have none : a.added (a.scanAll l now).2 = [] := added_of_error found
    rw [none]
    exact added_of_error found
  | ok current =>
    have all : a.added (a.scanAll l now).2 = _ := added_scan found
    have named : a.added (a.scanByIds l now ids).2 = _ := added_scan found
    rw [all, named, filter_spawned a now _ _ ids.contains, RuleIndex.activeByIds_eq_filter]

theorem exists_batch (found : a.located l = .ok (id, node)) :
    ∃ batch, (a.scan l now choose).1 = .ok batch ∧
      batch.probes = (a.added (a.scan l now choose).2).length := by
  refine ⟨_, congrArg Prod.fst (scan_of_located found), ?_⟩
  rw [added_scan found]
  rfl

theorem scanByIds_congr {ids' : List RuleId} (same : ∀ id, id ∈ ids' ↔ id ∈ ids) (a : Auditor τ)
    (l : Lookups) (now : τ) : a.scanByIds l now ids' = a.scanByIds l now ids := by
  have looked : (fun rules : RuleIndex τ => rules.activeByIds ids') =
      fun rules => rules.activeByIds ids :=
    funext fun rules => funext fun roles => rules.activeByIds_congr same roles
  exact congrArg (a.scan l now) looked

/-- A scan of some ids is the scan of all rules without the probes of other rules. It depends on
    the ids only as a set, and scans of the parts of a set together probe what one of the whole
    probes. The rules that are looked up are the active ones that share a role with the node, each
    once and in the order of their ids, however the index came to have them. -/
theorem scanByIds_restricts_scanAll (a : Auditor τ) (l : Lookups) (now : τ) (ids : List RuleId) :
    let whole := a.scanAll l now
    let chosen := a.scanByIds l now ids
    (∀ e, chosen.1 = .error e ↔ whole.1 = .error e) ∧
    a.added chosen.2 = (a.added whole.2).filter (fun task => ids.contains task.key.rule) ∧
    (∀ id node, l.currentNode = .ok id → a.nodes.get? id = some node → l.nodeFailure = none →
      l.rolesFailure = none → l.rulesFailure = none →
      (∃ batch, whole.1 = .ok batch ∧ batch.probes = (a.added whole.2).length) ∧
      (∃ batch, chosen.1 = .ok batch ∧ batch.probes = (a.added chosen.2).length) ∧
      (a.added whole.2).map Task.key =
        (a.rules.activeByRoles node.roles.toList).flatMap (·.destinations id)) ∧
    (∀ ids', (∀ id, id ∈ ids' ↔ id ∈ ids) → a.scanByIds l now ids' = chosen) ∧
    (∀ parts : List (τ × List RuleId), parts.Pairwise (fun p q => p.2.Disjoint q.2) →
      (∀ id, id ∈ ids ↔ ∃ part ∈ parts, id ∈ part.2) →
      ((a.added (a.scanEach l parts)).map Task.key).Perm ((a.added chosen.2).map Task.key)) ∧
    ∀ roles,
      let all := a.rules.activeByRoles roles
      let named := a.rules.activeByIds ids roles
      all.Pairwise (fun v w => v.id < w.id) ∧ named.Pairwise (fun v w => v.id < w.id) ∧
      (∀ v, v ∈ all ↔ a.rules.version? v.id = some v ∧ v.rule.active = true ∧
        ∃ role ∈ v.rule.roles, role ∈ roles) ∧
      (∀ v, v ∈ named ↔ v ∈ all ∧ v.id ∈ ids) ∧
      ∀ other : RuleIndex τ, (∀ id, other.version? id = a.rules.version? id) →
        other.activeByRoles roles = all ∧ other.activeByIds ids roles = named := by
  intro whole chosen
  refine ⟨a.scanByIds_error_iff l now ids, a.added_scanByIds l now ids, ?_,
    fun ids' same => scanByIds_congr same a l now,
    fun parts apart covers => added_scanEach_perm apart covers, ?_⟩
  · intro id node current known nodes roles rules
    have found := located_of_known current known nodes roles rules
    have all : a.added whole.2 = _ := added_scan found
    refine ⟨exists_batch found, exists_batch found, ?_⟩
    rw [all, map_key_spawned]
  · intro roles all named
    refine ⟨a.rules.rising_activeByRoles roles, a.rules.rising_activeByIds ids roles,
      fun v => RuleIndex.mem_activeByRoles_iff, fun v => RuleIndex.mem_activeByIds_iff, ?_⟩
    intro other same
    have roleFound := RuleIndex.activeByRoles_congr same roles
    refine ⟨roleFound, ?_⟩
    rw [RuleIndex.activeByIds_eq_filter, roleFound, ← RuleIndex.activeByIds_eq_filter]

def ruleNamed : RuleId → Rule
  | "ns/a" => { roles := ["db"], addresses := ["a"], ports := ["1"] }
  | "ns/b" => { roles := ["web", "db"], addresses := ["b"], ports := ["1", "2"] }
  | "ns/c" => { roles := ["db"], addresses := ["c"], ports := ["1"], active := false }
  | _ => { roles := ["web"], addresses := ["d"], ports := ["1"] }

def declaredIn (order : List RuleId) : RuleIndex Nat :=
  order.foldl (fun index id => index.apply 1 id (ruleNamed id))
    { history := .new Key.checksum 2 }

def auditing : Auditor Nat where
  rules := declaredIn ["ns/b", "ns/d", "ns/c", "ns/a"]
  nodes := (∅ : NodeIndex Nat).insert "n" sampleNode
  pool := .new 2

theorem version?_declaredIn (id : RuleId) :
    (declaredIn ["ns/a", "ns/b", "ns/c", "ns/d"]).version? id = auditing.rules.version? id := by
  have permuted : (declaredIn ["ns/a", "ns/b", "ns/c", "ns/d"]).rules.entries.Perm
      auditing.rules.rules.entries := by decide +kernel
  have found : (declaredIn ["ns/a", "ns/b", "ns/c", "ns/d"]).rules.get? id =
      auditing.rules.rules.get? id := by
    apply Option.ext
    intro entry
    rw [Table.get?_eq_some, Table.get?_eq_some, permuted.mem_iff]
  rw [RuleIndex.version?, RuleIndex.version?, found]

theorem activeByRoles_auditing : auditing.rules.activeByRoles ["db"] =
    [⟨"ns/a", ruleNamed "ns/a", 0⟩, ⟨"ns/b", ruleNamed "ns/b", 0⟩] := by
  have passing : ((auditing.rules.rules.entries.filter fun e => e.2.rule.active &&
      e.2.rule.matchesRoles ["db"]).map fun e => (⟨e.1, e.2.rule, e.2.generation⟩ : RuleVersion)) =
      [⟨"ns/b", ruleNamed "ns/b", 0⟩, ⟨"ns/a", ruleNamed "ns/a", 0⟩] := by decide +kernel
  rw [RuleIndex.activeByRoles, RuleIndex.select, passing]
  simp [List.mergeSort, List.MergeSort.Internal.splitInTwo]

theorem scanByIds_restricts_scanAll_parts :
    let l : Lookups := { currentNode := .ok "n" }
    let whole := auditing.scanAll l 2
    let chosen := auditing.scanByIds l 2 ["ns/b", "ns/d", "ns/c", "ns/x", "ns/b", "ns/a"]
    let apart := auditing.scanEach l [(3, ["ns/b", "ns/x"]), (4, ["ns/d"]), (5, ["ns/a", "ns/c"])]
    let a : Key := ⟨"ns/a", "n", "a", some "1"⟩
    let b (port : String) : Key := ⟨"ns/b", "n", "b", some port⟩
    (∃ batch, whole.1 = .ok batch ∧ batch.probes = 3) ∧
      (auditing.added whole.2).map Task.key = [a, b "1", b "2"] ∧
      (auditing.added (auditing.scanByIds l 2 ["ns/x", "ns/b", "ns/c", "ns/b"]).2).map Task.key =
        [b "1", b "2"] ∧
      auditing.scanByIds l 2 ["ns/a", "ns/b", "ns/c", "ns/d", "ns/x"] = chosen ∧
      (auditing.added apart).map Task.key = [b "1", b "2", a] ∧
      ((auditing.added apart).map Task.key).Perm ((auditing.added chosen.2).map Task.key) ∧
      (declaredIn ["ns/a", "ns/b", "ns/c", "ns/d"]).activeByRoles ["db"] =
        [⟨"ns/a", ruleNamed "ns/a", 0⟩, ⟨"ns/b", ruleNamed "ns/b", 0⟩] := by
  intro l whole chosen apart a b
  obtain ⟨_, _, found, same, parted, look⟩ := scanByIds_restricts_scanAll auditing l 2
    ["ns/b", "ns/d", "ns/c", "ns/x", "ns/b", "ns/a"]
  have known : auditing.nodes.get? "n" = some sampleNode := by decide +kernel
  obtain ⟨⟨batch, started, probes⟩, _, keys⟩ := found "n" sampleNode rfl known rfl rfl rfl
  have added : (auditing.added whole.2).map Task.key = [a, b "1", b "2"] := by
    have roles : sampleNode.roles.toList = ["db"] := by decide +kernel
    rw [keys, roles, activeByRoles_auditing]
    decide +kernel
  have three : (auditing.added whole.2).length = 3 := by
    rw [← List.length_map (f := Task.key), added]
    rfl
  have reordered := (look ["db"]).2.2.2.2 _ version?_declaredIn
  refine ⟨⟨batch, started, probes.trans three⟩, added, by decide +kernel, same _ ?_,
    by decide +kernel, parted _ ?_ ?_, reordered.1.trans activeByRoles_auditing⟩
  · intro id
    simp only [List.mem_cons, List.not_mem_nil, or_false]
    tauto
  · simp [List.disjoint_left]
  · intro id
    simp only [List.mem_cons, List.not_mem_nil, or_false, exists_eq_or_imp, exists_eq_left]
    tauto

end ReachAudit.Auditor
