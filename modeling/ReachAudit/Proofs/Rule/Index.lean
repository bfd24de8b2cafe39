import ReachAudit.Proofs.History.Effects
import ReachAudit.Proofs.Rule.Shape
import ReachAudit.Rule.Index

namespace ReachAudit.RuleIndex

open History (Key Row Store)

variable {τ : Type}

inductive Applied (now : τ) (id : RuleId) (rule : Rule) (index : RuleIndex τ) :
    RuleIndex τ → Prop where
  | added (absent : index.rules.get? id = none) :
    Applied now id rule index {
      index with
      rules := index.rules.insert id {
        rule, generation := index.history.generation id, createdAt := now, updatedAt := now } }
  | unchanged (known : RuleEntry τ) (found : index.rules.get? id = some known)
    (same : rule = known.rule) : Applied now id rule index index
  | edited (known : RuleEntry τ) (found : index.rules.get? id = some known)
    (same : rule.shape = known.rule.shape) :
    Applied now id rule index {
      index with rules := index.rules.insert id { known with rule, updatedAt := now } }
  | reshaped (known : RuleEntry τ) (found : index.rules.get? id = some known)
    (different : rule.shape ≠ known.rule.shape) :
    Applied now id rule index {
      rules := index.rules.insert id {
        known with
        rule, generation := (index.history.clear id).generation id, updatedAt := now }
      history := index.history.clear id }

theorem applied_apply (now : τ) (id : RuleId) (rule : Rule) (index : RuleIndex τ) :
    Applied now id rule index (index.apply now id rule) := by
  unfold apply
  cases found : index.rules.get? id with
  | none => exact .added found
  | some known =>
    dsimp only
    split
    · rename_i same
      exact .unchanged known found same
    · split
      · rename_i same
        exact .edited known found (Rule.sameShape_iff.mp same)
      · rename_i different
        exact .reshaped known found fun same => different (Rule.sameShape_iff.mpr same)

inductive Deleted (id : RuleId) (index : RuleIndex τ) : RuleIndex τ → Prop where
  | ignored (absent : index.rules.get? id = none) : Deleted id index index
  | removed (known : RuleEntry τ) (found : index.rules.get? id = some known) :
    Deleted id index { rules := index.rules.erase id, history := index.history.clear id }

theorem deleted_delete (id : RuleId) (index : RuleIndex τ) :
    Deleted id index (index.delete id) := by
  unfold delete
  cases found : index.rules.get? id with
  | none =>
    rw [if_neg (by simp [Table.contains, found])]
    exact .ignored found
  | some known =>
    rw [if_pos (by simp [Table.contains, found])]
    exact .removed known found

theorem Applied.get?_history {now : τ} {id : RuleId} {rule : Rule} {index next : RuleIndex τ}
    {key : Key} {row : Row τ} (arrival : Applied now id rule index next)
    (placed : index.history.Placed) (stored : next.history.get? key = some row) :
    index.history.get? key = some row := by
  cases arrival with
  | reshaped known found different => exact Store.get?_of_clear placed stored
  | _ => exact stored

theorem Deleted.get?_history {id : RuleId} {index next : RuleIndex τ} {key : Key} {row : Row τ}
    (removal : Deleted id index next) (placed : index.history.Placed)
    (stored : next.history.get? key = some row) : index.history.get? key = some row := by
  cases removal with
  | ignored absent => exact stored
  | removed known found => exact Store.get?_of_clear placed stored

structure Synced (index : RuleIndex τ) : Prop where
  placed : index.history.Placed
  generation : ∀ id entry, index.rules.get? id = some entry →
    entry.generation = index.history.generation id

variable {index next : RuleIndex τ} {now : τ} {id : RuleId} {rule : Rule} {v : RuleVersion}

theorem Synced.applied (synced : index.Synced) (arrival : Applied now id rule index next) :
    next.Synced := by
  cases arrival with
  | added absent =>
    refine ⟨synced.placed, ?_⟩
    intro other entry found
    rw [Table.get?_insert] at found
    split at found
    · rename_i same
      cases found
      rw [same]
    · exact synced.generation other entry found
  | unchanged known found same => exact synced
  | edited known found same =>
    refine ⟨synced.placed, ?_⟩
    intro other entry present
    rw [Table.get?_insert] at present
    split at present
    · rename_i own
      cases present
      exact own ▸ synced.generation id known found
    · exact synced.generation other entry present
  | reshaped known found different =>
    refine ⟨synced.placed.clear id, ?_⟩
    intro other entry present
    rw [Table.get?_insert] at present
    split at present
    · rename_i own
      cases present
      rw [own]
    · rename_i apart
      rw [synced.generation other entry present, Store.generation_clear, if_neg apart]

theorem Synced.deleted (synced : index.Synced) (removal : Deleted id index next) :
    next.Synced := by
  cases removal with
  | ignored absent => exact synced
  | removed known found =>
    refine ⟨synced.placed.clear id, ?_⟩
    intro other entry present
    rw [Table.get?_erase] at present
    split at present
    · cases present
    · rename_i apart
      rw [synced.generation other entry present, Store.generation_clear, if_neg apart]

def Current (index : RuleIndex τ) (v : RuleVersion) : Prop :=
  ∃ entry, index.rules.get? v.id = some entry ∧ entry.generation = v.generation ∧
    entry.rule.shape = v.rule.shape

/-- What was recorded for the version has been discarded. -/
def Superseded (index : RuleIndex τ) (v : RuleVersion) : Prop :=
  v.generation < index.history.generation v.id

theorem Superseded.applied (past : index.Superseded v) (arrival : Applied now id rule index next) :
    next.Superseded v := by
  cases arrival with
  | reshaped known found different =>
    exact Nat.lt_of_lt_of_le past (Store.generation_le_clear ..)
  | _ => exact past

theorem Superseded.deleted (past : index.Superseded v) (removal : Deleted id index next) :
    next.Superseded v := by
  cases removal with
  | ignored absent => exact past
  | removed known found => exact Nat.lt_of_lt_of_le past (Store.generation_le_clear ..)

theorem Current.lt_generation_clear (current : index.Current v) (synced : index.Synced) :
    v.generation < (index.history.clear v.id).generation v.id := by
  obtain ⟨entry, found, generation, _⟩ := current
  rw [Store.generation_clear, if_pos rfl, ← synced.generation v.id entry found, generation]
  exact Nat.lt_succ_self _

theorem Current.applied (current : index.Current v) (arrival : Applied now id rule index next)
    (kept : id = v.id → rule.shape = v.rule.shape) : next.Current v := by
  obtain ⟨entry, found, generation, shape⟩ := current
  by_cases own : id = v.id
  · have arrived := kept own
    subst own
    cases arrival with
    | added absent => rw [absent] at found; cases found
    | unchanged known present same => exact ⟨entry, found, generation, shape⟩
    | edited known present same =>
      rw [present] at found
      cases found
      exact ⟨_, Table.get?_insert_self .., generation, arrived⟩
    | reshaped known present different =>
      rw [present] at found
      cases found
      exact absurd (arrived.trans shape.symm) different
  · refine ⟨entry, ?_, generation, shape⟩
    cases arrival with
    | unchanged known present same => exact found
    | _ => rw [Table.get?_insert, if_neg own]; exact found

theorem Current.superseded_of_reshape (current : index.Current v) (synced : index.Synced)
    (arrival : Applied now v.id rule index next) (changed : rule.shape ≠ v.rule.shape) :
    next.Superseded v := by
  have cleared := current.lt_generation_clear synced
  obtain ⟨entry, found, _, shape⟩ := current
  cases arrival with
  | added absent => rw [absent] at found; cases found
  | unchanged known present same =>
    rw [present] at found
    cases found
    exact absurd (same ▸ shape) changed
  | edited known present same =>
    rw [present] at found
    cases found
    exact absurd (same.trans shape) changed
  | reshaped known present different => exact cleared

theorem Current.deleted (current : index.Current v) (removal : Deleted id index next)
    (apart : id ≠ v.id) : next.Current v := by
  obtain ⟨entry, found, generation, shape⟩ := current
  refine ⟨entry, ?_, generation, shape⟩
  cases removal with
  | ignored absent => exact found
  | removed known present => rw [Table.get?_erase, if_neg apart]; exact found

theorem Current.superseded_of_delete (current : index.Current v) (synced : index.Synced)
    (removal : Deleted v.id index next) : next.Superseded v := by
  have cleared := current.lt_generation_clear synced
  obtain ⟨entry, found, _⟩ := current
  cases removal with
  | ignored absent => rw [absent] at found; cases found
  | removed known present => exact cleared

theorem mem_select {p : RuleId → Rule → Bool} :
    v ∈ index.select p ↔ ∃ entry, index.rules.get? v.id = some entry ∧
      (entry.rule.active = true ∧ p v.id entry.rule = true) ∧
        v = ⟨v.id, entry.rule, entry.generation⟩ := by
  simp only [select, List.mem_mergeSort, List.mem_map, List.mem_filter, Bool.and_eq_true,
    Table.get?_eq_some, Prod.exists]
  constructor
  · intro selected
    obtain ⟨id, entry, ⟨member, passes⟩, rfl⟩ := selected
    exact ⟨entry, member, passes, rfl⟩
  · intro present
    obtain ⟨entry, member, passes, same⟩ := present
    exact ⟨v.id, entry, ⟨member, passes⟩, same.symm⟩

theorem mem_activeByRoles {roles : List String} :
    v ∈ index.activeByRoles roles ↔ ∃ entry, index.rules.get? v.id = some entry ∧
      (entry.rule.active = true ∧ entry.rule.matchesRoles roles = true) ∧
        v = ⟨v.id, entry.rule, entry.generation⟩ := mem_select

theorem mem_activeByIds {ids : List RuleId} {roles : List String} :
    v ∈ index.activeByIds ids roles ↔ ∃ entry, index.rules.get? v.id = some entry ∧
      (entry.rule.active = true ∧ (ids.contains v.id && entry.rule.matchesRoles roles) = true) ∧
        v = ⟨v.id, entry.rule, entry.generation⟩ := mem_select

end ReachAudit.RuleIndex
