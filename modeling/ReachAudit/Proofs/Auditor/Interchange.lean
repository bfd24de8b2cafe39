import ReachAudit.Proofs.Auditor.Batches
import ReachAudit.Proofs.Auditor.WriteEffect
import ReachAudit.Proofs.Rule.Respelling

namespace ReachAudit

open History (Key Row)

variable {τ : Type}

theorem RuleVersion.mem_destinations_iff {v : RuleVersion} {node : NodeId} {key : Key} :
    key ∈ v.destinations node ↔ key.rule = v.id ∧ key.node = node ∧ v.rule.active = true ∧
      v.rule.Covers key.address key.port := by
  rw [destinations_eq, List.mem_map]
  constructor
  · rintro ⟨target, member, rfl⟩
    exact ⟨rfl, rfl, Rule.mem_targets_iff.mp member⟩
  · intro listed
    obtain ⟨rule, node, address, port⟩ := key
    obtain ⟨rfl, rfl, listed⟩ := listed
    exact ⟨⟨address, port⟩, Rule.mem_targets_iff.mpr listed, rfl⟩

theorem RuleVersion.mem_destinations_of_shape {a b : RuleVersion} (id : a.id = b.id)
    (active : a.rule.active = b.rule.active) (same : a.rule.shape = b.rule.shape) (node : NodeId)
    (key : Key) : key ∈ a.destinations node ↔ key ∈ b.destinations node := by
  rw [mem_destinations_iff, mem_destinations_iff, id, active, Rule.covers_of_shape_iff same]

theorem RuleIndex.history_apply_of_known {index : RuleIndex τ} {id : RuleId} {known : RuleEntry τ}
    (found : index.rules.get? id = some known) (now : τ) (rule : Rule) :
    (index.apply now id rule).history =
      if rule.sameShape known.rule then index.history else index.history.clear id := by
  simp only [apply, found]
  by_cases same : rule = known.rule
  · rw [if_pos same, same, if_pos (Rule.sameShape_refl known.rule)]
  · rw [if_neg same]
    split <;> rfl

namespace World

theorem Sound.mem_destinations {w : World τ} (sound : w.Sound) {known : RuleEntry τ} {key : Key}
    {row : Row τ} (found : w.auditor.rules.rules.get? key.rule = some known)
    (stored : w.auditor.history.get? key = some row) :
    key ∈ ({
      id := key.rule, rule := { known.rule with active := true }
      generation := known.generation } : RuleVersion).destinations key.node := by
  obtain ⟨entry, present, _, depicts⟩ := sound.faithful key row stored
  obtain rfl := Option.some.inj (found.symm.trans present)
  exact RuleVersion.mem_destinations_iff.mpr ⟨rfl, rfl, rfl, depicts.covered⟩

/-- Rules of one shape stand for one another. They are those that reordering and repeating entries
    and changing what does not matter to a probe lead to. They match the same nodes and lead to the
    same probes, so that the history which a rule keeps when it comes again in its shape is about
    destinations that it still has. -/
theorem same_shape_interchangeable (hash : Key → Nat) (shards limit : Nat)
    (actions : List (Action τ)) :
    Equivalence (fun a b : Rule => a.sameShape b = true) ∧
      (∀ a b : Rule, a.sameShape b = true ↔ a.Rewritten b) ∧
      (∀ a b c : Rule, a.Rewritten b →
        a.sameShape c = b.sameShape c ∧ c.sameShape a = c.sameShape b) ∧
      (∀ a b : RuleVersion, a.id = b.id → a.rule.active = b.rule.active →
        a.rule.sameShape b.rule = true →
        (∀ roles, a.rule.matchesRoles roles = b.rule.matchesRoles roles ∧
          (a.rule.matchesRoles roles = true ↔ ∃ role ∈ b.rule.roles, role ∈ roles)) ∧
          ∀ (now : τ) (batch : Nat) (id : NodeId) (node : Node τ) (key : Key),
            (key ∈ (Pool.tasksOf now batch id node a).map Task.key ↔
              key ∈ (Pool.tasksOf now batch id node b).map Task.key) ∧
              (key ∈ (Pool.tasksOf now batch id node a).map Task.key ↔
                key ∈ b.destinations id)) ∧
      let w := (new hash shards limit).run actions
      ∀ (now : τ) (id : RuleId) (rule : Rule) (known : RuleEntry τ),
        w.auditor.rules.rules.get? id = some known →
        let next := w.take (.apply now id rule)
        next.auditor.history =
            (if rule.sameShape known.rule then w.auditor.history else w.auditor.history.clear id) ∧
          (rule.sameShape known.rule = true →
            (∀ roles, rule.matchesRoles roles = known.rule.matchesRoles roles) ∧
              ∀ key row, next.auditor.history.get? key = some row → key.rule = id →
                key ∈ ({
                  id, rule := { rule with active := true }
                  generation := known.generation } : RuleVersion).destinations key.node) := by
  refine ⟨Rule.equivalence_sameShape, fun _ _ => Rule.sameShape_iff_rewritten,
    fun _ _ c rewritten => rewritten.sameShape_eq c, ?_, ?_⟩
  · intro a b id active same
    have shape := Rule.sameShape_iff.mp same
    have matched (roles : List String) := Rule.matchesRoles_of_shape shape roles
    refine ⟨fun roles => ⟨matched roles, ?_⟩, fun now batch node _ key => ?_⟩
    · rw [matched, Rule.matchesRoles_iff]
    · rw [Pool.map_key_tasksOf, Pool.map_key_tasksOf, and_self]
      exact RuleVersion.mem_destinations_of_shape id active shape node key
  · intro w now id rule known found next
    have kept : next.auditor.history =
        if rule.sameShape known.rule then w.auditor.history else w.auditor.history.clear id :=
      RuleIndex.history_apply_of_known found now rule
    refine ⟨kept, fun same => ?_⟩
    have shape := Rule.sameShape_iff.mp same
    refine ⟨Rule.matchesRoles_of_shape shape, ?_⟩
    rintro key row stored rfl
    rw [kept, if_pos same] at stored
    have sound : w.Sound := (Sound.new hash shards limit).run actions
    have before := sound.mem_destinations found stored
    refine (RuleVersion.mem_destinations_of_shape ?_ ?_ ?_ key.node key).mp before
    · rfl
    · rfl
    · exact shape.symm

def probedOnce : List (Action Nat) := [
  .apply 1 "ns/r" sampleRule, .lookUp none ["db"], .launch 2 "n" sampleNode 0] ++
    List.replicate 6 (.probe sampleConditions 0)

def respelledRule : Rule where
  roles := ["db", "db"]
  addresses := ["a", "a"]
  ports := ["1"]
  description := some "respelled"

theorem same_shape_interchangeable_respelled :
    respelledRule.sameShape sampleRule = true ∧
      respelledRule.matchesRoles ["web", "db"] = true ∧
      ∃ row, (((new Key.checksum 2 1).run probedOnce).take
          (.apply 4 "ns/r" respelledRule)).auditor.history.get? sampleTask.key = some row ∧
        row.status = .success ∧
        sampleTask.key ∈ (⟨"ns/r", respelledRule, 0⟩ : RuleVersion).destinations "n" := by
  have same : respelledRule.sameShape sampleRule = true := by decide
  have known : ((new Key.checksum 2 1).run probedOnce).auditor.rules.rules.get? "ns/r" =
      some ⟨sampleRule, 0, 1, 1⟩ := by decide +kernel
  have stored : (((new Key.checksum 2 1).run probedOnce).auditor.history.get? sampleTask.key).map
      Row.status = some .success := by decide +kernel
  obtain ⟨_, _, _, alike, applied⟩ := same_shape_interchangeable Key.checksum 2 1 probedOnce
  obtain ⟨kept, keeps⟩ := applied 4 "ns/r" respelledRule _ known
  have matched := (alike ⟨"ns/r", respelledRule, 0⟩ ⟨"ns/r", sampleRule, 0⟩ rfl rfl same).1
    ["web", "db"]
  obtain ⟨row, present, status⟩ := Option.map_eq_some_iff.mp stored
  rw [if_pos same] at kept
  rw [← kept] at present
  exact ⟨same, matched.2.mpr ⟨"db", by decide, by decide⟩, row, present, status,
    (keeps same).2 _ row present rfl⟩

end World

end ReachAudit
