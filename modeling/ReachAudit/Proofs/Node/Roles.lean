import ReachAudit.Proofs.Node.Sightings
import ReachAudit.Proofs.Text.ByteOrder
import ReachAudit.Rule

namespace ReachAudit

namespace Node

variable {τ : Type}

theorem rolesOf?_record {s : Sighting τ} {later : List (Sighting τ)} {id : NodeId}
    (uid : s.resource.uid = some id) (named : id ≠ "")
    (latest : ∀ s' ∈ later, s'.resource.uid ≠ some id) (index : NodeIndex τ) :
    (record (s :: later) index).rolesOf? id = some (NodeResource.roles s.resource.labels) := by
  have own : s.resource.id? = some id := Sighting.id?_eq_some.mpr ⟨uid, named⟩
  have roles : s.node.roles.toList = NodeResource.roles s.resource.labels :=
    NameSet.toList_ofList (NodeResource.rising_roles s.resource.labels)
  have first := record_concat [] s index
  rw [own] at first
  rw [NodeIndex.rolesOf?, ← List.singleton_append, record_append,
    get?_record_of_unlisted latest, ← List.nil_append [s], first]
  dsimp only
  rw [get?_apply, if_pos rfl, ← roles]
  cases (record [] index).get? id <;> rfl

/-- From when a node is recorded until it is listed anew, its roles are what follows the prefix in
    its labels, in the order of their bytes. A rule applies to it just when one of the rule's roles
    has such a label. The empty role never counts, be it a rule's or a label's. -/
theorem roles_told_by_labels {s : Sighting τ} {later : List (Sighting τ)} {id : NodeId}
    (uid : s.resource.uid = some id) (named : id ≠ "")
    (latest : ∀ s' ∈ later, s'.resource.uid ≠ some id) (index : NodeIndex τ) :
    let labels := s.resource.labels
    ∃ roles, (record (s :: later) index).rolesOf? id = some roles ∧
      roles.Pairwise (fun a b => Text.BytesBefore (Text.utf8 a) (Text.utf8 b)) ∧
      roles = NodeResource.roles labels ∧
      (∀ role, role ∈ roles ↔
        role ≠ "" ∧ labels.contains ("node-role.kubernetes.io/" ++ role) = true) ∧
      (∀ rule : Rule, rule.matchesRoles roles = true ↔ ∃ role ∈ rule.roles,
        role ≠ "" ∧ labels.contains ("node-role.kubernetes.io/" ++ role) = true) ∧
      (∀ rule : Rule, Rule.matchesRoles { rule with roles := "" :: rule.roles } roles =
        rule.matchesRoles roles) ∧
      ∀ value, NodeResource.roles (labels.insert "node-role.kubernetes.io/" value) = roles := by
  intro labels
  have matches_iff (rule : Rule) :
      rule.matchesRoles (NodeResource.roles labels) = true ↔ ∃ role ∈ rule.roles,
        role ≠ "" ∧ labels.contains ("node-role.kubernetes.io/" ++ role) = true := by
    rw [Rule.matchesRoles_iff]
    exact exists_congr fun role => and_congr_right fun _ => NodeResource.mem_roles_iff
  refine ⟨NodeResource.roles labels, rolesOf?_record uid named latest index, ?_, rfl, ?_,
    matches_iff, ?_, NodeResource.roles_insert_prefix labels⟩
  · exact (NodeResource.rising_roles labels).imp Text.bytesBefore_of_string_lt
  · intro role
    exact NodeResource.mem_roles_iff
  · intro rule
    rw [Bool.eq_iff_iff, matches_iff, matches_iff]
    simp

def labelled : Sighting Nat where
  resource := {
    uid := "u"
    labels := .ofList [("node-role.kubernetes.io/worker", "false"),
      ("kubernetes.io/hostname", "a"), ("node-role.kubernetes.io/", ""),
      ("node-role.kubernetes.io/control-plane", "")] }
  readAt := 1
  recordedAt := 2

theorem roles_told_by_labels_worker :
    ∃ roles, (record [labelled, ⟨{ uid := "v" }, 3, 4⟩] ∅).rolesOf? "u" = some roles ∧
      Rule.matchesRoles { roles := ["db", "worker"], addresses := [] } roles = true ∧
      ¬ Rule.matchesRoles { roles := ["", "hostname"], addresses := [] } roles = true := by
  obtain ⟨roles, recorded, _, _, _, applies, _⟩ :=
    @roles_told_by_labels Nat labelled [⟨{ uid := "v" }, 3, 4⟩] "u" rfl (by decide) (by simp) ∅
  refine ⟨roles, recorded, (applies _).mpr ⟨"worker", by simp, by decide, by decide +kernel⟩, ?_⟩
  rw [applies]
  decide +kernel

end Node

end ReachAudit
