import ReachAudit.Proofs.History.Effects
import ReachAudit.Proofs.ListUpdate

namespace ReachAudit.History

variable {τ : Type}

def Row.SameOrigin (old row : Row τ) : Prop :=
  row.createdAt = old.createdAt ∧ row.nodeName = old.nodeName ∧ row.nodeAddress = old.nodeAddress

namespace Store

def Keeps (before after : Store τ) : Prop :=
  ∀ key old, before.get? key = some old → ∃ row, after.get? key = some row ∧ old.SameOrigin row

theorem Keeps.refl (s : Store τ) : s.Keeps s := fun _ old found => ⟨old, found, rfl, rfl, rfl⟩

theorem Keeps.trans {first middle last : Store τ} (earlier : first.Keeps middle)
    (later : middle.Keeps last) : first.Keeps last := by
  intro key old found
  obtain ⟨between, present, created, name, address⟩ := earlier key old found
  obtain ⟨row, stored, created', name', address'⟩ := later key between present
  exact ⟨row, stored, created'.trans created, name'.trans name, address'.trans address⟩

theorem Placed.keeps_upsert {s : Store τ} (placed : s.Placed) (key : Key) (row : Row τ) :
    s.Keeps (s.upsert key row) := by
  intro k old found
  rw [get?_upsert placed]
  split
  · rename_i written
    obtain ⟨rfl, _⟩ := written
    rw [found]
    exact ⟨_, rfl, rfl, rfl, rfl⟩
  · exact ⟨old, found, rfl, rfl, rfl⟩

theorem filter_put {κ α : Type} [DecidableEq κ] {p : κ → Bool} {k : κ} (a : α)
    (passed : p k = false) (es : List (κ × α)) :
    (Table.put k a es).filter (fun e => p e.1) = es.filter fun e => p e.1 := by
  induction es with
  | nil => simp [Table.put, passed]
  | cons e es ih =>
    by_cases same : e.1 = k
    · subst same
      simp [Table.put, passed]
    · simp only [Table.put, same, if_false, List.filter_cons, ih]

theorem select_upsert {s : Store τ} {p : Key → Bool} {key : Key} (row : Row τ)
    (other : p key = false) : (s.upsert key row).select p = s.select p := by
  unfold upsert
  split
  · have same : ∀ shard : Shard τ, (Shard.write shard key row).entries.filter (fun e => p e.1) =
        shard.entries.filter fun e => p e.1 := fun shard => filter_put _ other shard.entries
    simp only [select, write, List.filter_flatMap]
    rw [flatMap_modify same]
  · rfl

theorem byRule_upsert {s : Store τ} {key : Key} {rule : RuleId} (row : Row τ)
    (other : key.rule ≠ rule) : (s.upsert key row).byRule rule = s.byRule rule :=
  select_upsert row (decide_eq_false other)

theorem select_sweepShard (s : Store τ) {p : Key → Bool} {rule : RuleId} (i : Nat)
    (other : ∀ key, p key = true → key.rule ≠ rule) :
    (s.sweepShard rule i).select p = s.select p := by
  have same (shard : Shard τ) : (Shard.sweep shard rule).entries.filter (fun e => p e.1) =
      shard.entries.filter fun e => p e.1 := by
    rw [Shard.sweep, Table.filter, List.filter_filter]
    apply List.filter_congr
    intro e _
    cases passes : p e.1 with
    | false => rfl
    | true => simp [other e.1 passes]
  simp only [select, sweepShard, List.filter_flatMap]
  rw [flatMap_modify same]

theorem select_sweepFirst (s : Store τ) {p : Key → Bool} {rule : RuleId} (n : Nat)
    (other : ∀ key, p key = true → key.rule ≠ rule) :
    (s.sweepFirst rule n).select p = s.select p := by
  induction n with
  | zero => rfl
  | succ n ih => rw [sweepFirst_succ, select_sweepShard _ n other, ih]

theorem byRule_clear {s : Store τ} (placed : s.Placed) (rule other : RuleId) :
    (s.clear rule).byRule other = if other = rule then [] else s.byRule other := by
  split
  · rename_i same
    rw [List.eq_nil_iff_forall_not_mem]
    intro e member
    obtain ⟨key, row⟩ := e
    obtain ⟨stored, own⟩ := mem_byRule.mp member
    have present := (placed.clear rule).holds_iff.mp stored
    rw [get?_clear placed, if_pos (own.trans same)] at present
    cases present
  · rename_i apart
    rw [clear_eq_sweepFirst, byRule, select_sweepFirst]
    · rfl
    · intro key passes own
      exact apart ((of_decide_eq_true passes).symm.trans own)

end Store

end ReachAudit.History
