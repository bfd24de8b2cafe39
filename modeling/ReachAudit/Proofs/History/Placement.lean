import Mathlib.Data.List.Nodup
import ReachAudit.History.Store

namespace ReachAudit.History

variable {τ : Type}

def Row.onto (row : Row τ) (old : Option (Row τ)) : Row τ := (old.map (·.update row)).getD row

theorem Row.onto_carries (row : Row τ) (old : Option (Row τ)) :
    (row.onto old).generation = row.generation ∧ (row.onto old).status = row.status ∧
      (row.onto old).message = row.message ∧ (row.onto old).updatedAt = row.updatedAt := by
  cases old <;> exact ⟨rfl, rfl, rfl, rfl⟩

namespace Shard

theorem get?_write (shard : Shard τ) (key k : Key) (row : Row τ) :
    (Shard.write shard key row).get? k =
      if key = k then some (row.onto (shard.get? key)) else shard.get? k :=
  Table.get?_insert ..

theorem get?_sweep (shard : Shard τ) (rule : RuleId) (k : Key) :
    (Shard.sweep shard rule).get? k = if k.rule = rule then none else shard.get? k := by
  rw [Shard.sweep, Table.get?_filter]
  by_cases same : k.rule = rule
  · cases shard.get? k <;> simp [Option.filter, same]
  · cases shard.get? k <;> simp [Option.filter, same]

end Shard

namespace Store

def Holds (s : Store τ) (key : Key) (row : Row τ) : Prop :=
  ∃ shard ∈ s.shards, shard.get? key = some row

/-- Every row is in the shard of its own key. -/
structure Placed (s : Store τ) : Prop where
  nonempty : 0 < s.shards.length
  own : ∀ i shard, s.shards[i]? = some shard →
    ∀ key row, shard.get? key = some row → s.index key = i

theorem shard_get? {s : Store τ} (nonempty : 0 < s.shards.length) (key : Key) :
    s.shards[s.index key]? = some (s.shard key) := by
  have bound : s.index key < s.shards.length := Nat.mod_lt _ nonempty
  rw [shard, List.getD_eq_getElem?_getD, List.getElem?_eq_getElem bound]
  rfl

theorem Placed.holds_iff {s : Store τ} (placed : s.Placed) {key : Key} {row : Row τ} :
    s.Holds key row ↔ s.get? key = some row := by
  constructor
  · intro holds
    obtain ⟨shard, member, found⟩ := holds
    obtain ⟨i, at_i⟩ := List.mem_iff_getElem?.mp member
    have own := placed.own i shard at_i key row found
    have same := shard_get? placed.nonempty key
    rw [own, at_i] at same
    rw [get?, ← Option.some.inj same]
    exact found
  · intro found
    exact ⟨s.shard key, List.mem_of_getElem? (shard_get? placed.nonempty key), found⟩

theorem mem_select {s : Store τ} {p : Key → Bool} {key : Key} {row : Row τ} :
    (key, row) ∈ s.select p ↔ s.Holds key row ∧ p key = true := by
  simp only [select, List.mem_mergeSort, List.mem_filter, List.mem_flatMap, Holds,
    Table.get?_eq_some]

theorem mem_all {s : Store τ} {key : Key} {row : Row τ} :
    (key, row) ∈ s.all ↔ s.Holds key row := by
  simp [all, mem_select]

theorem mem_byRule {s : Store τ} {rule : RuleId} {key : Key} {row : Row τ} :
    (key, row) ∈ s.byRule rule ↔ s.Holds key row ∧ key.rule = rule := by
  simp [byRule, mem_select]

theorem Placed.nodup_entries {s : Store τ} (placed : s.Placed) :
    ((s.shards.flatMap fun shard => shard.entries).map Prod.fst).Nodup := by
  rw [List.map_flatMap, List.nodup_flatMap]
  refine ⟨fun shard _ => shard.nodup, ?_⟩
  rw [List.pairwise_iff_getElem]
  intro i j hi hj below key inFirst inSecond
  obtain ⟨⟨k, first⟩, member, rfl⟩ := List.mem_map.mp inFirst
  obtain ⟨⟨k', second⟩, member', same⟩ := List.mem_map.mp inSecond
  dsimp only at same
  subst same
  have atFirst := placed.own i _ (List.getElem?_eq_getElem hi) k' first
    ((Table.get?_eq_some _).mpr member)
  have atSecond := placed.own j _ (List.getElem?_eq_getElem hj) k' second
    ((Table.get?_eq_some _).mpr member')
  omega

theorem Placed.nodup_keys {s : Store τ} (placed : s.Placed) (p : Key → Bool) :
    ((s.select p).map Prod.fst).Nodup := by
  have sorted := (List.mergeSort_perm ((s.shards.flatMap fun shard => shard.entries).filter
    fun e => p e.1) fun a b => a.1.before b.1).map Prod.fst
  exact sorted.nodup_iff.mpr (placed.nodup_entries.sublist (List.filter_sublist.map _))

end Store

end ReachAudit.History
