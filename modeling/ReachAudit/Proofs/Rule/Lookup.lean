import Mathlib.Data.List.Lattice
import ReachAudit.Proofs.Rule.Index

namespace ReachAudit

def Rising (versions : List RuleVersion) : Prop := versions.Pairwise fun a b => a.id < b.id

namespace Rising

variable {xs ys : List RuleVersion}

theorem nodup (rising : Rising xs) : xs.Nodup := by
  refine List.Pairwise.imp ?_ rising
  rintro a b below rfl
  exact String.lt_irrefl a.id below

theorem eq_of_mem_iff (hx : Rising xs) (hy : Rising ys) (same : ∀ v, v ∈ xs ↔ v ∈ ys) :
    xs = ys := by
  have perm : xs.Perm ys := (List.perm_ext_iff_of_nodup hx.nodup hy.nodup).mpr same
  refine List.Perm.eq_of_pairwise ?_ hx hy perm
  intro a b _ _ below above
  exact absurd above (String.lt_asymm below)

theorem filter (rising : Rising xs) (p : RuleVersion → Bool) : Rising (xs.filter p) :=
  List.Pairwise.filter p rising

end Rising

namespace RuleIndex

variable {τ : Type} {index other : RuleIndex τ} {v : RuleVersion}

theorem rising_select (index : RuleIndex τ) (p : RuleId → Rule → Bool) :
    Rising (index.select p) := by
  rw [select]
  generalize passing : index.rules.entries.filter (fun e => e.2.rule.active && p e.1 e.2.rule) = es
  have distinct : (es.map fun e => (⟨e.1, e.2.rule, e.2.generation⟩ : RuleVersion)).Pairwise
      fun a b => a.id ≠ b.id := by
    have keys : (es.map Prod.fst).Nodup := by
      rw [← passing]
      exact index.rules.nodup.sublist (List.filter_sublist.map _)
    rw [List.pairwise_map]
    exact List.pairwise_map.mp keys
  generalize es.map (fun e => (⟨e.1, e.2.rule, e.2.generation⟩ : RuleVersion)) = found at distinct
  have sorted : (found.mergeSort fun a b => decide (a.id ≤ b.id)).Pairwise
      fun a b => decide (a.id ≤ b.id) = true := by
    apply List.pairwise_mergeSort
    · intro a b c first second
      simp only [decide_eq_true_eq] at first second ⊢
      exact String.le_trans first second
    · intro a b
      simp only [Bool.or_eq_true, decide_eq_true_eq]
      exact String.le_total a.id b.id
  have apart : (found.mergeSort fun a b => decide (a.id ≤ b.id)).Pairwise fun a b => a.id ≠ b.id :=
    (List.mergeSort_perm found _).symm.pairwise distinct fun differ => differ.symm
  refine (sorted.and apart).imp ?_
  rintro a b ⟨le, differ⟩
  have le : a.id ≤ b.id := of_decide_eq_true le
  exact String.not_le.mp fun ge => differ (String.le_antisymm le ge)

theorem rising_activeByRoles (index : RuleIndex τ) (roles : List String) :
    Rising (index.activeByRoles roles) := index.rising_select _

theorem rising_activeByIds (index : RuleIndex τ) (ids : List RuleId) (roles : List String) :
    Rising (index.activeByIds ids roles) := index.rising_select _

theorem version?_eq_some : index.version? v.id = some v ↔
    ∃ entry, index.rules.get? v.id = some entry ∧ v = ⟨v.id, entry.rule, entry.generation⟩ := by
  rw [version?, Option.map_eq_some_iff]
  refine exists_congr fun entry => and_congr_right fun _ => eq_comm

theorem mem_select_iff_version? {p : RuleId → Rule → Bool} :
    v ∈ index.select p ↔
      index.version? v.id = some v ∧ v.rule.active = true ∧ p v.id v.rule = true := by
  rw [mem_select, version?_eq_some]
  constructor
  · rintro ⟨entry, found, passes, same⟩
    have rule : v.rule = entry.rule := congrArg RuleVersion.rule same
    exact ⟨⟨entry, found, same⟩, rule ▸ passes⟩
  · rintro ⟨⟨entry, found, same⟩, passes⟩
    have rule : v.rule = entry.rule := congrArg RuleVersion.rule same
    exact ⟨entry, found, rule ▸ passes, same⟩

theorem mem_activeByRoles_iff {roles : List String} :
    v ∈ index.activeByRoles roles ↔ index.version? v.id = some v ∧ v.rule.active = true ∧
      ∃ role ∈ v.rule.roles, role ∈ roles := by
  rw [activeByRoles, mem_select_iff_version?, Rule.matchesRoles_iff]

theorem mem_activeByIds_iff {ids : List RuleId} {roles : List String} :
    v ∈ index.activeByIds ids roles ↔ v ∈ index.activeByRoles roles ∧ v.id ∈ ids := by
  rw [activeByIds, activeByRoles, mem_select_iff_version?, mem_select_iff_version?,
    Bool.and_eq_true, List.contains_iff_mem]
  constructor
  · rintro ⟨found, active, chosen, shares⟩
    exact ⟨⟨found, active, shares⟩, chosen⟩
  · rintro ⟨⟨found, active, shares⟩, chosen⟩
    exact ⟨found, active, chosen, shares⟩

theorem activeByIds_eq_filter (index : RuleIndex τ) (ids : List RuleId) (roles : List String) :
    index.activeByIds ids roles = (index.activeByRoles roles).filter (ids.contains ·.id) := by
  refine (index.rising_activeByIds ids roles).eq_of_mem_iff
    ((index.rising_activeByRoles roles).filter _) fun v => ?_
  rw [mem_activeByIds_iff, List.mem_filter, List.contains_iff_mem]

theorem activeByIds_congr {ids ids' : List RuleId} (same : ∀ id, id ∈ ids' ↔ id ∈ ids)
    (roles : List String) : index.activeByIds ids' roles = index.activeByIds ids roles := by
  refine (index.rising_activeByIds ids' roles).eq_of_mem_iff
    (index.rising_activeByIds ids roles) fun v => ?_
  rw [mem_activeByIds_iff, mem_activeByIds_iff, same]

theorem activeByRoles_congr (same : ∀ id, other.version? id = index.version? id)
    (roles : List String) : other.activeByRoles roles = index.activeByRoles roles := by
  refine (other.rising_activeByRoles roles).eq_of_mem_iff
    (index.rising_activeByRoles roles) fun v => ?_
  rw [mem_activeByRoles_iff, mem_activeByRoles_iff, same]

end RuleIndex

end ReachAudit
