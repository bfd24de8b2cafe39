import ReachAudit.Json.Shape

namespace ReachAudit

/-- `<namespace>/<name>` of the resource that declares a rule. -/
abbrev RuleId := String

def RuleId.ofResource (space name : String) : RuleId := space ++ "/" ++ name

/-- Nodes that carry any of `roles` must reach each of the destinations. -/
structure Rule where
  active : Bool := true
  roles : List String
  addresses : List String
  /-- Specifiers as they were written. A proxied rule has no use for them. -/
  ports : List String := []
  proxied : Bool := false
  description : Option String := none
  changeRequests : List UInt32 := []
  projects : List String := []
  deriving DecidableEq, Repr

def sameMembers (a b : List String) : Bool := a.all (b.contains ·) && b.all (a.contains ·)

theorem sameMembers_iff {a b : List String} : sameMembers a b = true ↔ ∀ x, x ∈ a ↔ x ∈ b := by
  simp only [sameMembers, Bool.and_eq_true, List.all_eq_true, List.contains_iff_mem]
  exact ⟨fun h x => ⟨h.1 x, h.2 x⟩, fun h => ⟨fun x => (h x).1, fun x => (h x).2⟩⟩

namespace Rule

def matchesRoles (rule : Rule) (roles : List String) : Bool := rule.roles.any (roles.contains ·)

/-- Whether two rules probe the same destinations from the same nodes: the order and repetition of
    entries, the activity and the metadata do not matter. -/
def sameShape (a b : Rule) : Bool :=
  a.proxied == b.proxied && sameMembers a.roles b.roles &&
    sameMembers a.addresses b.addresses && sameMembers a.ports b.ports

theorem matchesRoles_iff {rule : Rule} {roles : List String} :
    rule.matchesRoles roles = true ↔ ∃ role ∈ rule.roles, role ∈ roles := by
  simp [matchesRoles]

theorem sameShape_refl (a : Rule) : a.sameShape a = true := by
  simp [sameShape, sameMembers_iff]

end Rule

/-- A rule as an index held it at one moment. The generation grows whenever the rule's history is
    discarded. -/
structure RuleVersion where
  id : RuleId
  rule : Rule
  generation : Nat
  deriving DecidableEq, Repr

end ReachAudit
