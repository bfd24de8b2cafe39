import Mathlib.Data.List.Induction
import ReachAudit.Network.Isolated
import ReachAudit.Probe
import ReachAudit.Proofs.Auditor.Started

namespace ReachAudit

open History (Key Row Store)

variable {τ : Type}

/-- One of the tasks takes a step, and this is what its probe would meet. -/
structure Moment (τ : Type) where
  now : τ
  network : Network
  task : Nat

def Moment.conditions (probes : Probes) (m : Moment τ) : Conditions τ where
  now := m.now
  probe := probes.probe m.network
  lasts := probes.lasts

namespace Auditor

def follow (probes : Probes) (moments : List (Moment τ)) (a : Auditor τ) : Auditor τ :=
  moments.foldl (fun a m => a.step (m.conditions probes) m.task) a

theorem follow_concat (probes : Probes) (moments : List (Moment τ)) (m : Moment τ)
    (a : Auditor τ) : a.follow probes (moments ++ [m]) =
      (a.follow probes moments).step (m.conditions probes) m.task := by
  simp only [follow, List.foldl_append, List.foldl_cons, List.foldl_nil]

def Probed (a : Auditor τ) (probes : Probes) (moments : List (Moment τ)) (key : Key)
    (strategy : Strategy) (outcome : Outcome) : Prop :=
  ∃ earlier m later task, moments = earlier ++ m :: later ∧
    (a.follow probes earlier).pool.tasks[m.task]? = some task ∧ task.phase = .probing ∧
    task.key = key ∧ task.strategy = strategy ∧
    outcome = probes.probe m.network strategy key.address key.port

end Auditor

theorem Launch.underway_follow (launch : Launch τ) (probes : Probes) (moments : List (Moment τ)) :
    launch.Underway (launch.start.Probed probes moments) (launch.start.follow probes moments) := by
  induction moments using List.reverseRecOn with
  | nil => exact underway_start
  | append_singleton earlier m ih =>
    have grows : ∀ key strategy outcome, launch.start.Probed probes earlier key strategy outcome →
        launch.start.Probed probes (earlier ++ [m]) key strategy outcome := by
      intro key strategy outcome probed
      obtain ⟨first, m', later, task, rfl, found, rest⟩ := probed
      exact ⟨first, m', later ++ [m], task, by simp, found, rest⟩
    rw [Auditor.follow_concat]
    refine (ih.later grows).step _ _ (fun _ => rfl) ?_
    intro task found probing
    exact ⟨earlier, m, [], task, rfl, found, probing, rfl, rfl, rfl⟩

theorem Probes.probe_malformed {probes : Probes} {network : Network} {rule : Rule}
    {address specifier : String} {error : PortError} (covers : rule.Covers address (some specifier))
    (malformed : Port.parse specifier = .error error) :
    probes.probe network rule.strategy address (some specifier) = .error (.badPort error) := by
  have direct : rule.proxied = false := by
    by_contra proxied
    have port := covers.2
    simp [proxied] at port
  simp only [probe, Rule.strategy, direct, probeDirect, dialDirect, malformed]
  rfl

namespace World

variable {w : World τ}

theorem Sound.follow (sound : w.Sound) (probes : Probes) (moments : List (Moment τ)) :
    ∃ w' : World τ, w'.Sound ∧ w'.auditor = w.auditor.follow probes moments := by
  induction moments using List.reverseRecOn with
  | nil => exact ⟨w, sound, rfl⟩
  | append_singleton earlier m ih =>
    obtain ⟨w', sound', same⟩ := ih
    refine ⟨w'.take (.probe (m.conditions probes) m.task), sound'.take _, ?_⟩
    rw [Auditor.follow_concat, ← same]
    rfl

theorem Sound.faithful_follow (sound : w.Sound) (now : τ) (id : NodeId) (node : Node τ)
    (probes : Probes) (moments : List (Moment τ)) :
    ((w.auditor.scanRules now id node (w.auditor.rules.activeByRoles node.roles.toList)).2.follow
      probes moments).rules.Faithful := by
  obtain ⟨w', sound', same⟩ := sound.scanRules now id node
  obtain ⟨w'', sound'', same'⟩ := sound'.follow probes moments
  rw [← same, ← same']
  exact sound''.faithful

end World

def History.Store.rowsOn (s : Store τ) (rule : RuleId) (node : NodeId) : List (Key × Row τ) :=
  (s.byRule rule).filter fun e => e.1.node = node

theorem History.Store.mem_rowsOn {s : Store τ} (placed : s.Placed) {rule : RuleId} {node : NodeId}
    {key : Key} {row : Row τ} :
    (key, row) ∈ s.rowsOn rule node ↔
      s.get? key = some row ∧ key.rule = rule ∧ key.node = node := by
  simp only [rowsOn, List.mem_filter, mem_byRule, placed.holds_iff, decide_eq_true_eq, and_assoc]

def History.Row.Tells (row : Row τ) : Outcome → Prop
  | .success => row.status = .success ∧ row.message = none
  | .error e => row.status = .error ∧ row.message = some e.message

theorem History.Row.tells_iff {row : Row τ} {outcome : Outcome} :
    row.Tells outcome ↔ row.status = outcome.status ∧ row.message = outcome.message? := by
  cases outcome <;> rfl

/-- What a completed scan leaves of a rule on its node: one row for each of the destinations, with
    what a probe of it came to. -/
structure Rule.Scanned (rule : Rule) (r : RuleId) (node : NodeId) (probed : Key → Outcome → Prop)
    (after : Store τ) : Prop where
  distinct : ((after.rowsOn r node).map Prod.fst).Nodup
  keys : ∀ key, key ∈ (after.rowsOn r node).map Prod.fst ↔
    key.rule = r ∧ key.node = node ∧ rule.Covers key.address key.port
  final : ∀ key row, (key, row) ∈ after.rowsOn r node →
    row.status = .success ∨ row.status = .error
  outcome : ∀ key row, (key, row) ∈ after.rowsOn r node →
    ∃ outcome, probed key outcome ∧ row.Tells outcome

theorem Launch.Underway.scanned {launch : Launch τ} {probed : Key → Strategy → Outcome → Prop}
    {a : Auditor τ} {r : RuleId} {entry : RuleEntry τ} (here : launch.Underway probed a)
    (finished : a.pool.isFinished launch.batch = true) (faithful : a.rules.Faithful)
    (known : launch.before.rules.rules.get? r = some entry)
    (member : ⟨r, entry.rule, entry.generation⟩ ∈ launch.versions)
    (single : ∀ v ∈ launch.versions, v.id = r → v.rule = entry.rule) :
    entry.rule.Scanned r launch.id (fun key => probed key entry.rule.strategy) a.history := by
  have rows : ∀ {key row}, (key, row) ∈ a.history.rowsOn r launch.id ↔
      a.history.get? key = some row ∧ key.rule = r ∧ key.node = launch.id :=
    Store.mem_rowsOn here.placed
  have covered : ∀ key row, a.history.get? key = some row → key.rule = r →
      entry.rule.Covers key.address key.port := by
    intro key row stored own
    obtain ⟨present, found, _, depicts⟩ := faithful key row stored
    rw [here.rules, own, known] at found
    cases found
    exact depicts.covered
  have outcome : ∀ key row, (key, row) ∈ a.history.rowsOn r launch.id →
      ∃ outcome, probed key entry.rule.strategy outcome ∧ row.Tells outcome := by
    intro key row among
    obtain ⟨stored, own, node⟩ := rows.mp among
    have targeted : launch.Targets key := ⟨node, _, member, own, covered key row stored own⟩
    obtain ⟨row', stored', v, has, same, outcome, was, rest⟩ := here.concluded finished targeted
    rw [stored] at stored'
    cases stored'
    rw [single v has (same.symm.trans own)] at was
    exact ⟨outcome, was, Row.tells_iff.mpr rest⟩
  refine ⟨?_, ?_, ?_, outcome⟩
  · exact (here.placed.nodup_keys _).sublist (List.filter_sublist.map _)
  · intro key
    constructor
    · intro among
      obtain ⟨⟨k, row⟩, has, rfl⟩ := List.mem_map.mp among
      obtain ⟨stored, own, node⟩ := rows.mp has
      exact ⟨own, node, covered k row stored own⟩
    · intro covered
      obtain ⟨own, node, covers⟩ := covered
      obtain ⟨row, stored, _⟩ := here.concluded finished ⟨node, _, member, own, covers⟩
      exact List.mem_map.mpr ⟨(key, row), rows.mpr ⟨stored, own, node⟩, rfl⟩
  · intro key row among
    obtain ⟨outcome, _, tells⟩ := outcome key row among
    cases outcome with
    | success => exact .inl tells.1
    | error e => exact .inr tells.1

/-- However the tasks of a scan take turns and whatever its probes meet, once it has completed every
    rule that applies to the node has one row for each of its destinations, with what a probe of it
    came to. Rows that were there keep their origin, and all other rules have the rows they had. -/
theorem World.completed_scan_leaves_outcomes (hash : Key → Nat) (shards limit : Nat)
    (actions : List (Action τ)) (l : Lookups) (now : τ) (id : NodeId) (node : Node τ) (batch : Batch)
    (begun : Auditor τ) (probes : Probes) (moments : List (Moment τ))
    (idle : ∀ task ∈ ((new hash shards limit).run actions).auditor.pool.tasks, task.phase = .done)
    (current : l.currentNode = .ok id)
    (known : ((new hash shards limit).run actions).auditor.nodes.get? id = some node)
    (started : ((new hash shards limit).run actions).auditor.scanAll l now = (.ok batch, begun))
    (finished : (begun.follow probes moments).pool.isFinished batch.id = true) :
    let index := ((new hash shards limit : World τ).run actions).auditor.rules
    let after := (begun.follow probes moments).history
    (∀ r entry, index.rules.get? r = some entry → entry.rule.AppliesTo node →
      let strategy := if entry.rule.proxied then Strategy.proxy else .direct
      entry.rule.Scanned r id (begun.Probed probes moments · strategy ·) after ∧
      ∀ key row specifier error, (key, row) ∈ after.rowsOn r id → key.port = some specifier →
        Port.parse specifier = .error error →
        row.status = .error ∧ row.message = some error.message) ∧
    index.history.Keeps after ∧
    ∀ r, (∀ entry, index.rules.get? r = some entry → ¬ entry.rule.AppliesTo node) →
      after.byRule r = index.history.byRule r := by
  intro index after
  have sound : ((new hash shards limit : World τ).run actions).Sound :=
    (Sound.new hash shards limit).run actions
  let launch := sound.launch idle now id node
  have spawned := Auditor.scanAll_ok current known started
  obtain rfl : begun = launch.start := congrArg Prod.snd spawned
  have number : batch.id = launch.batch := congrArg (·.1.id) spawned
  rw [number] at finished
  have here := launch.underway_follow probes moments
  have faithful := sound.faithful_follow now id node probes moments
  refine ⟨?_, here.kept, ?_⟩
  · intro r entry found applies
    have member : ⟨r, entry.rule, entry.generation⟩ ∈ launch.versions :=
      RuleIndex.mem_activeByRoles_node.mpr ⟨entry, found, applies, rfl⟩
    have single : ∀ v ∈ launch.versions, v.id = r → v.rule = entry.rule := by
      intro v has own
      subst own
      obtain ⟨other, found', _, same⟩ := RuleIndex.mem_activeByRoles_node.mp has
      rw [show index.rules.get? v.id = some other from found'] at found
      cases found
      rw [same]
    have scanned := here.scanned finished faithful found member single
    refine ⟨scanned, ?_⟩
    intro key row specifier error among port malformed
    obtain ⟨_, _, address, _⟩ := key
    cases port
    obtain ⟨outcome, ⟨_, m, _, _, _, _, _, _, _, came⟩, tells⟩ := scanned.outcome _ row among
    have covers := ((scanned.keys _).mp (List.mem_map_of_mem among)).2.2
    rwa [came.trans (Probes.probe_malformed covers malformed)] at tells
  · intro r none
    refine here.others r ?_
    intro v has own
    subst own
    obtain ⟨entry, found, applies, _⟩ := RuleIndex.mem_activeByRoles_node.mp has
    exact none entry found applies

namespace World

def untidy : Rule :=
  { roles := ["db"], addresses := ["10.0.0.5", "10.0.0.6", "10.0.0.5"], ports := ["443", "x"] }

def declared : List (Action Nat) := [.apply 1 "ns/r" untidy, .addNode 1 "n" sampleNode]

def onDatabase : Lookups := { currentNode := .ok "n" }

def scanning : Auditor Nat :=
  (((new Key.checksum 2 4).run declared).auditor.scanAll onDatabase 2).2

def oneRoute : Network where
  dial protocol target limit :=
    if target = "10.0.0.5:443" then .connected
    else Network.isolated.dial protocol target limit
  exchange := Network.isolated.exchange

def inTurn : List (Moment Nat) :=
  (List.range 72).map fun n => { now := 3 + n, network := oneRoute, task := n % 6 }

theorem network_of_mem_inTurn {m : Moment Nat} (member : m ∈ inTurn) : m.network = oneRoute := by
  obtain ⟨n, _, rfl⟩ := List.mem_map.mp member
  rfl

theorem completed_scan_leaves_outcomes_in_turn :
    let left (address port : String) (outcome : Outcome) := ∃ row,
      (⟨"ns/r", "n", address, some port⟩, row) ∈
        (scanning.follow {} inTurn).history.rowsOn "ns/r" "n" ∧ row.Tells outcome
    left "10.0.0.5" "443" .success ∧
      left "10.0.0.6" "443" (.error (.dial .tcp "10.0.0.6:443" Network.unreachable)) ∧
      left "10.0.0.5" "x" (.error (.badPort (.format "x"))) := by
  intro left
  have idle : ∀ task ∈ ((new Key.checksum 2 4).run declared).auditor.pool.tasks,
      task.phase = .done := by decide +kernel
  have known : ((new Key.checksum 2 4).run declared).auditor.nodes.get? "n" = some sampleNode := by
    decide +kernel
  have started : (((new Key.checksum 2 4).run declared).auditor.scanAll onDatabase 2).1 =
      .ok ⟨0, 6⟩ := by decide +kernel
  have finished : (scanning.follow {} inTurn).pool.isFinished 0 = true := by decide +kernel
  have found : ((new Key.checksum 2 4).run declared).auditor.rules.rules.get? "ns/r" =
      some ⟨untidy, 0, 1, 1⟩ := by decide +kernel
  have applies : untidy.AppliesTo sampleNode :=
    ⟨rfl, "db", List.mem_singleton_self _, NameSet.mem_ofList.mpr (List.mem_singleton_self _)⟩
  have scanned := ((completed_scan_leaves_outcomes Key.checksum 2 4 declared
    onDatabase 2 "n" sampleNode ⟨0, 6⟩ scanning {} inTurn idle rfl known (Prod.ext started rfl)
    finished).1 "ns/r" _ found applies).1
  have told (address port : String) (covers : untidy.Covers address (some port)) :
      left address port (({} : Probes).probe oneRoute .direct address (some port)) := by
    have among := (scanned.keys ⟨"ns/r", "n", address, some port⟩).mpr ⟨rfl, rfl, covers⟩
    obtain ⟨⟨_, row⟩, member, rfl⟩ := List.mem_map.mp among
    obtain ⟨outcome, ⟨_, m, _, _, split, _, _, _, _, came⟩, tells⟩ := scanned.outcome _ row member
    have here : m ∈ inTurn := split ▸ List.mem_append_right _ List.mem_cons_self
    rw [came, network_of_mem_inTurn here] at tells
    exact ⟨row, member, tells⟩
  refine ⟨?_, ?_, ?_⟩
  · exact told "10.0.0.5" "443" ⟨by decide, "443", by decide, rfl⟩
  · exact told "10.0.0.6" "443" ⟨by decide, "443", by decide, rfl⟩
  · exact told "10.0.0.5" "x" ⟨by decide, "x", by decide, rfl⟩

end World

end ReachAudit
