import Mathlib.Data.Finset.Dedup
import ReachAudit.Scan.Target

namespace ReachAudit

/-- What the history of a rule depends on. Order and repetition of the entries are forgotten. -/
structure Rule.Shape where
  proxied : Bool
  roles : Finset String
  addresses : Finset String
  ports : Finset String
  deriving DecidableEq

namespace Rule

def shape (rule : Rule) : Shape where
  proxied := rule.proxied
  roles := rule.roles.toFinset
  addresses := rule.addresses.toFinset
  ports := rule.ports.toFinset

theorem sameMembers_iff_toFinset {a b : List String} :
    sameMembers a b = true ↔ a.toFinset = b.toFinset := by
  rw [sameMembers_iff, Finset.ext_iff]
  simp only [List.mem_toFinset]

theorem sameShape_iff {a b : Rule} : a.sameShape b = true ↔ a.shape = b.shape := by
  simp only [sameShape, Bool.and_eq_true, beq_iff_eq, sameMembers_iff_toFinset, shape,
    Shape.mk.injEq]
  constructor
  · intro same
    obtain ⟨⟨⟨proxied, roles⟩, addresses⟩, ports⟩ := same
    exact ⟨proxied, roles, addresses, ports⟩
  · intro same
    obtain ⟨proxied, roles, addresses, ports⟩ := same
    exact ⟨⟨⟨proxied, roles⟩, addresses⟩, ports⟩

/-- Whether a rule names a destination, active or not. -/
def Covers (rule : Rule) (address : String) (port : Option String) : Prop :=
  address ∈ rule.addresses ∧
    if rule.proxied then port = none else ∃ specifier ∈ rule.ports, port = some specifier

theorem mem_targets_iff {rule : Rule} {t : Target} :
    t ∈ rule.targets ↔ rule.active = true ∧ rule.Covers t.address t.port := by
  constructor
  · intro member
    refine ⟨?_, port_of_mem_targets member⟩
    by_contra inactive
    simp [targets, inactive] at member
  · intro covered
    obtain ⟨active, address, port⟩ := covered
    obtain ⟨a, p⟩ := t
    by_cases proxied : rule.proxied
    · rw [if_pos proxied] at port
      simp_all [targets]
    · rw [if_neg proxied] at port
      obtain ⟨specifier, member, rfl⟩ := port
      simp_all [targets]

theorem Covers.of_shape {a b : Rule} {address : String} {port : Option String}
    (covers : a.Covers address port) (same : a.shape = b.shape) : b.Covers address port := by
  have proxied : a.proxied = b.proxied := congrArg Shape.proxied same
  have addresses : a.addresses.toFinset = b.addresses.toFinset := congrArg Shape.addresses same
  have ports : a.ports.toFinset = b.ports.toFinset := congrArg Shape.ports same
  rw [Finset.ext_iff] at addresses ports
  simp only [List.mem_toFinset] at addresses ports
  simpa only [Covers, proxied, addresses, ports] using covers

end Rule

end ReachAudit
