import ReachAudit.Proofs.History.Placement

namespace ReachAudit.History

variable {τ : Type}

namespace Store

theorem Placed.new (hash : Key → Nat) (shards : Nat) : (Store.new hash shards : Store τ).Placed := by
  constructor
  · simp only [Store.new, List.length_replicate]
    omega
  · intro i shard found key row stored
    simp only [Store.new, List.getElem?_replicate] at found
    split at found
    · cases found
      cases stored
    · cases found

theorem get?_new (hash : Key → Nat) (shards : Nat) (key : Key) :
    (Store.new hash shards : Store τ).get? key = none := by
  simp only [get?, shard, Store.new, List.getD_eq_getElem?_getD, List.getElem?_replicate]
  split <;> rfl

theorem index_write (s : Store τ) (key k : Key) (row : Row τ) :
    (s.write key row).index k = s.index k := by
  simp only [index, write, List.length_modify]

theorem index_sweepShard (s : Store τ) (rule : RuleId) (i : Nat) (k : Key) :
    (s.sweepShard rule i).index k = s.index k := by
  simp only [index, sweepShard, List.length_modify]

theorem getElem?_shards_write (s : Store τ) (key : Key) (row : Row τ) (i : Nat) :
    (s.write key row).shards[i]? =
      if s.index key = i then s.shards[i]?.map (fun shard => Shard.write shard key row)
      else s.shards[i]? := by
  simp only [write, List.getElem?_modify]
  split
  · rfl
  · cases s.shards[i]? <;> rfl

theorem getElem?_shards_sweepShard (s : Store τ) (rule : RuleId) (i j : Nat) :
    (s.sweepShard rule i).shards[j]? =
      if i = j then s.shards[j]?.map (fun shard => Shard.sweep shard rule) else s.shards[j]? := by
  simp only [sweepShard, List.getElem?_modify]
  split
  · rfl
  · cases s.shards[j]? <;> rfl

theorem Placed.write {s : Store τ} (placed : s.Placed) (key : Key) (row : Row τ) :
    (s.write key row).Placed := by
  constructor
  · simpa only [Store.write, List.length_modify] using placed.nonempty
  · intro i shard found k stored inShard
    rw [index_write]
    rw [getElem?_shards_write] at found
    split at found
    · rename_i own
      obtain ⟨old, before, rfl⟩ := Option.map_eq_some_iff.mp found
      rw [Shard.get?_write] at inShard
      split at inShard
      · rename_i same
        rw [← same]
        exact own
      · exact placed.own i old before k stored inShard
    · exact placed.own i shard found k stored inShard

theorem Placed.advance {s : Store τ} (placed : s.Placed) (rule : RuleId) :
    (s.advance rule).Placed := ⟨placed.nonempty, placed.own⟩

theorem Placed.sweepShard {s : Store τ} (placed : s.Placed) (rule : RuleId) (i : Nat) :
    (s.sweepShard rule i).Placed := by
  constructor
  · simpa only [Store.sweepShard, List.length_modify] using placed.nonempty
  · intro j shard found k stored inShard
    rw [index_sweepShard]
    rw [getElem?_shards_sweepShard] at found
    split at found
    · obtain ⟨old, before, rfl⟩ := Option.map_eq_some_iff.mp found
      rw [Shard.get?_sweep] at inShard
      split at inShard
      · cases inShard
      · exact placed.own j old before k stored inShard
    · exact placed.own j shard found k stored inShard

theorem Placed.upsert {s : Store τ} (placed : s.Placed) (key : Key) (row : Row τ) :
    (s.upsert key row).Placed := by
  unfold Store.upsert
  split
  · exact placed.write key row
  · exact placed

theorem get?_write {s : Store τ} (placed : s.Placed) (key k : Key) (row : Row τ) :
    (s.write key row).get? k = if key = k then some (row.onto (s.get? key)) else s.get? k := by
  have here := shard_get? (placed.write key row).nonempty k
  rw [index_write, getElem?_shards_write, shard_get? placed.nonempty k] at here
  by_cases own : s.index key = s.index k
  · rw [if_pos own] at here
    have sameShard : s.shard key = s.shard k := by simp only [shard, own]
    rw [get?, ← Option.some.inj here, Shard.get?_write, get?, sameShard]
    rfl
  · rw [if_neg own] at here
    have different : key ≠ k := fun same => own (by rw [same])
    rw [get?, ← Option.some.inj here, if_neg different]
    rfl

theorem get?_sweepShard (s : Store τ) (rule : RuleId) (i : Nat) (k : Key) :
    (s.sweepShard rule i).get? k =
      if k.rule = rule ∧ s.index k = i then none else s.get? k := by
  simp only [get?, shard, index_sweepShard, List.getD_eq_getElem?_getD, getElem?_shards_sweepShard]
  by_cases own : i = s.index k
  · cases s.shards[s.index k]? with
    | none => simp only [own, Option.map_none, ite_self]; split <;> rfl
    | some shard => simp [own, Shard.get?_sweep]
  · have other : ¬ s.index k = i := fun same => own same.symm
    simp [own, other]

theorem generation_advance (s : Store τ) (rule other : RuleId) :
    (s.advance rule).generation other =
      if rule = other then s.generation rule + 1 else s.generation other := by
  simp only [generation, advance, Table.get?_insert]
  split <;> rfl

theorem generation_le_advance (s : Store τ) (rule other : RuleId) :
    s.generation other ≤ (s.advance rule).generation other := by
  rw [generation_advance]
  split
  · rename_i same
    rw [same]
    exact Nat.le_succ _
  · exact Nat.le_refl _

theorem accepts_iff {s : Store τ} {key : Key} {row : Row τ} :
    s.accepts key row = true ↔ s.generation key.rule ≤ row.generation := by
  simp [accepts]

theorem generation_upsert (s : Store τ) (key : Key) (row : Row τ) (rule : RuleId) :
    (s.upsert key row).generation rule = s.generation rule := by
  unfold upsert
  split <;> rfl

theorem get?_upsert {s : Store τ} (placed : s.Placed) (key k : Key) (row : Row τ) :
    (s.upsert key row).get? k =
      if key = k ∧ s.generation key.rule ≤ row.generation then some (row.onto (s.get? key))
      else s.get? k := by
  unfold upsert
  by_cases fresh : s.generation key.rule ≤ row.generation
  · rw [if_pos (accepts_iff.mpr fresh), get?_write placed]
    simp only [fresh, and_true]
  · rw [if_neg (fun accepted => fresh (accepts_iff.mp accepted))]
    simp only [fresh, and_false, if_false]

theorem upsert_of_superseded {s : Store τ} {key : Key} {row : Row τ}
    (superseded : row.generation < s.generation key.rule) : s.upsert key row = s :=
  if_neg fun accepted => absurd (accepts_iff.mp accepted) (Nat.not_le.mpr superseded)

def sweepFirst (s : Store τ) (rule : RuleId) (n : Nat) : Store τ :=
  (List.range n).foldl (fun s i => s.sweepShard rule i) s

theorem sweepFirst_succ (s : Store τ) (rule : RuleId) (n : Nat) :
    s.sweepFirst rule (n + 1) = (s.sweepFirst rule n).sweepShard rule n := by
  simp only [sweepFirst, List.range_succ, List.foldl_append, List.foldl_cons, List.foldl_nil]

theorem clear_eq_sweepFirst (s : Store τ) (rule : RuleId) :
    s.clear rule = (s.advance rule).sweepFirst rule s.shards.length := rfl

theorem Placed.sweepFirst {s : Store τ} (placed : s.Placed) (rule : RuleId) (n : Nat) :
    (s.sweepFirst rule n).Placed := by
  induction n with
  | zero => exact placed
  | succ n ih => rw [sweepFirst_succ]; exact ih.sweepShard rule n

theorem Placed.clear {s : Store τ} (placed : s.Placed) (rule : RuleId) : (s.clear rule).Placed :=
  (placed.advance rule).sweepFirst rule _

theorem index_sweepFirst (s : Store τ) (rule : RuleId) (n : Nat) (k : Key) :
    (s.sweepFirst rule n).index k = s.index k := by
  induction n with
  | zero => rfl
  | succ n ih => rw [sweepFirst_succ, index_sweepShard, ih]

theorem length_sweepFirst (s : Store τ) (rule : RuleId) (n : Nat) :
    (s.sweepFirst rule n).shards.length = s.shards.length := by
  induction n with
  | zero => rfl
  | succ n ih => rw [sweepFirst_succ, sweepShard, List.length_modify, ih]

theorem generation_sweepFirst (s : Store τ) (rule : RuleId) (n : Nat) (other : RuleId) :
    (s.sweepFirst rule n).generation other = s.generation other := by
  induction n with
  | zero => rfl
  | succ n ih => rw [sweepFirst_succ]; exact ih

theorem get?_sweepFirst (s : Store τ) (rule : RuleId) (n : Nat) (k : Key) :
    (s.sweepFirst rule n).get? k =
      if k.rule = rule ∧ s.index k < n then none else s.get? k := by
  induction n with
  | zero => simp [sweepFirst]
  | succ n ih =>
    rw [sweepFirst_succ, get?_sweepShard, index_sweepFirst, ih]
    by_cases own : k.rule = rule
    · have bound : s.index k < n + 1 ↔ s.index k = n ∨ s.index k < n := by omega
      simp only [own, true_and, bound]
      by_cases last : s.index k = n <;> simp [last]
    · simp only [own, false_and, if_false]

theorem get?_clear {s : Store τ} (placed : s.Placed) (rule : RuleId) (k : Key) :
    (s.clear rule).get? k = if k.rule = rule then none else s.get? k := by
  have bound : s.index k < s.shards.length := Nat.mod_lt _ placed.nonempty
  have within : (s.advance rule).index k < s.shards.length := bound
  rw [clear_eq_sweepFirst, get?_sweepFirst]
  simp only [within, and_true]
  rfl

theorem get?_of_clear {s : Store τ} (placed : s.Placed) {rule : RuleId} {key : Key} {row : Row τ}
    (stored : (s.clear rule).get? key = some row) : s.get? key = some row := by
  rw [get?_clear placed] at stored
  split at stored
  · cases stored
  · exact stored

theorem generation_clear (s : Store τ) (rule other : RuleId) :
    (s.clear rule).generation other =
      if rule = other then s.generation rule + 1 else s.generation other := by
  rw [clear_eq_sweepFirst, generation_sweepFirst, generation_advance]

theorem generation_le_clear (s : Store τ) (rule other : RuleId) :
    s.generation other ≤ (s.clear rule).generation other := by
  rw [clear_eq_sweepFirst, generation_sweepFirst]
  exact generation_le_advance ..

theorem get?_clear_of_le {s : Store τ} (placed : s.Placed) {rule : RuleId} {key : Key}
    (kept : (s.clear rule).generation key.rule ≤ s.generation key.rule) :
    (s.clear rule).get? key = s.get? key := by
  rw [get?_clear placed, if_neg]
  intro own
  rw [generation_clear, if_pos own.symm, own] at kept
  exact Nat.not_succ_le_self _ kept

end Store

end ReachAudit.History
