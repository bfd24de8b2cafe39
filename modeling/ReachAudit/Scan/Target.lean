import ReachAudit.History.Row

namespace ReachAudit

structure Target where
  address : String
  port : Option String
  deriving DecidableEq, Repr

/-- What a scan of a rule probes, repetitions included: every address on every port, address by
    address. Ports mean nothing to a proxied rule, and an inactive one is not scanned. -/
def Rule.targets (rule : Rule) : List Target :=
  if rule.active = false then []
  else if rule.proxied then rule.addresses.map fun address => ⟨address, none⟩
  else rule.addresses.flatMap fun address => rule.ports.map fun port => ⟨address, some port⟩

def Target.key (t : Target) (rule : RuleId) (node : NodeId) : History.Key :=
  ⟨rule, node, t.address, t.port⟩

theorem Rule.length_targets (rule : Rule) :
    rule.targets.length =
      if rule.active = false then 0
      else if rule.proxied then rule.addresses.length
      else rule.addresses.length * rule.ports.length := by
  unfold targets
  split
  · rfl
  · split
    · simp
    · have each : rule.addresses.map (fun _ => rule.ports.length) =
          List.replicate rule.addresses.length rule.ports.length := List.map_const'
      simp only [List.length_flatMap, List.length_map, each, List.sum_replicate_nat]

theorem Rule.port_of_mem_targets {rule : Rule} {t : Target} (h : t ∈ rule.targets) :
    t.address ∈ rule.addresses ∧
      if rule.proxied then t.port = none else ∃ port ∈ rule.ports, t.port = some port := by
  unfold targets at h
  split at h
  · simp at h
  · split at h
    · rename_i through
      obtain ⟨address, member, rfl⟩ := List.mem_map.mp h
      simp [member, through]
    · rename_i direct
      obtain ⟨address, member, h⟩ := List.mem_flatMap.mp h
      obtain ⟨port, has, rfl⟩ := List.mem_map.mp h
      simp [member, direct, has]

end ReachAudit
