import ReachAudit.Proofs.History.Calls

namespace ReachAudit.History

variable {τ : Type}

namespace Machine

inductive Step (m : Machine τ) : Machine τ → Prop where
  | idle : Step m m
  | callUpsert (key : Key) (row : Row τ) : Step m { m with calls := m.calls ++ [.upsert key row] }
  | callClear (rule : RuleId) : Step m { m with calls := m.calls ++ [.clear rule] }
  | lock (i : Nat) (key : Key) (row : Row τ) (found : m.calls[i]? = some (.upsert key row)) :
    Step m { m with calls := m.calls.set i (.writing key row (m.store.generation key.rule)) }
  | write (i : Nat) (key : Key) (row : Row τ) (read : Nat)
    (found : m.calls[i]? = some (.writing key row read)) (accepted : read ≤ row.generation) :
    Step m { store := m.store.write key row, calls := m.calls.set i .upserted }
  | drop (i : Nat) (key : Key) (row : Row τ) (read : Nat)
    (found : m.calls[i]? = some (.writing key row read)) :
    Step m { m with calls := m.calls.set i .upserted }
  | advance (i : Nat) (rule : RuleId) (found : m.calls[i]? = some (.clear rule)) :
    Step m {
      store := m.store.advance rule
      calls := m.calls.set i (.sweeping rule (m.store.generation rule + 1) 0) }
  | sweep (i : Nat) (rule : RuleId) (reached next : Nat)
    (found : m.calls[i]? = some (.sweeping rule reached next)) (free : m.isLocked next = false) :
    Step m {
      store := m.store.sweepShard rule next
      calls := m.calls.set i (.sweeping rule reached (next + 1)) }
  | finish (i : Nat) (rule : RuleId) (reached next : Nat)
    (found : m.calls[i]? = some (.sweeping rule reached next))
    (all : m.store.shards.length ≤ next) :
    Step m { m with calls := m.calls.set i (.cleared rule reached) }

theorem step_take (m : Machine τ) (turn : Turn τ) : m.Step (m.take turn) := by
  cases turn with
  | upsert key row => exact .callUpsert key row
  | clear rule => exact .callClear rule
  | move i =>
    cases found : m.calls[i]? with
    | none => simp only [take, found]; exact .idle
    | some call =>
      rw [take_move found]
      cases call with
      | upsert key row =>
        simp only [stepCall]
        split
        · exact .idle
        · exact .lock i key row found
      | writing key row read =>
        simp only [stepCall]
        split
        · rename_i accepted
          exact .write i key row read found accepted
        · exact .drop i key row read found
      | clear rule => exact .advance i rule found
      | sweeping rule reached next =>
        simp only [stepCall]
        split
        · split
          · exact .idle
          · rename_i unlocked
            exact .sweep i rule reached next found (Bool.not_eq_true _ ▸ unlocked)
        · exact .finish i rule reached next found (by omega)
      | upserted => exact .idle
      | cleared rule reached => exact .idle

/-- Of a rule, no row below a generation is in shard `i` or about to be written to it. -/
structure FloorAt (m : Machine τ) (rule : RuleId) (floor i : Nat) : Prop where
  generation : floor ≤ m.store.generation rule
  rows : ∀ shard, m.store.shards[i]? = some shard →
    ∀ key row, shard.get? key = some row → key.rule = rule → floor ≤ row.generation
  writers : ∀ key row read, .writing key row read ∈ m.calls →
    m.store.index key = i → key.rule = rule → floor ≤ read

theorem FloorAt.withCall {m : Machine τ} {rule : RuleId} {floor i j : Nat} {call : Call τ}
    (at_i : m.FloorAt rule floor i)
    (writer : ∀ key row read, call = .writing key row read →
      m.store.index key = i → key.rule = rule → floor ≤ read) :
    FloorAt { m with calls := m.calls.set j call } rule floor i := by
  refine ⟨at_i.generation, at_i.rows, ?_⟩
  intro key row read member own same
  rcases List.mem_or_eq_of_mem_set member with member | new
  · exact at_i.writers key row read member own same
  · exact writer key row read new.symm own same

theorem FloorAt.withNewCall {m : Machine τ} {rule : RuleId} {floor i : Nat} {call : Call τ}
    (at_i : m.FloorAt rule floor i) (fresh : ∀ key row read, call ≠ .writing key row read) :
    FloorAt { m with calls := m.calls ++ [call] } rule floor i := by
  refine ⟨at_i.generation, at_i.rows, ?_⟩
  intro key row read member own same
  rcases List.mem_append.mp member with member | member
  · exact at_i.writers key row read member own same
  · exact absurd (List.mem_singleton.mp member).symm (fresh key row read)

theorem FloorAt.write {m : Machine τ} {rule : RuleId} {floor i : Nat} {key : Key} {row : Row τ}
    (at_i : m.FloorAt rule floor i)
    (above : m.store.index key = i → key.rule = rule → floor ≤ row.generation) :
    FloorAt { m with store := m.store.write key row } rule floor i := by
  refine ⟨at_i.generation, ?_, ?_⟩
  · intro shard found k stored inShard same
    rw [Store.getElem?_shards_write] at found
    split at found
    · rename_i own
      obtain ⟨old, before, rfl⟩ := Option.map_eq_some_iff.mp found
      rw [Shard.get?_write] at inShard
      split at inShard
      · rename_i written
        have carried := (row.onto_carries (old.get? key)).1
        rw [Option.some.inj inShard] at carried
        rw [carried]
        exact above own (written ▸ same)
      · exact at_i.rows old before k stored inShard same
    · exact at_i.rows shard found k stored inShard same
  · intro k stored read member own same
    rw [Store.index_write] at own
    exact at_i.writers k stored read member own same

theorem FloorAt.advance {m : Machine τ} {rule other : RuleId} {floor i : Nat}
    (at_i : m.FloorAt rule floor i) :
    FloorAt { m with store := m.store.advance other } rule floor i := by
  refine ⟨?_, at_i.rows, at_i.writers⟩
  exact Nat.le_trans at_i.generation (Store.generation_le_advance ..)

theorem FloorAt.sweepShard {m : Machine τ} {rule other : RuleId} {floor i j : Nat}
    (at_i : m.FloorAt rule floor i) :
    FloorAt { m with store := m.store.sweepShard other j } rule floor i := by
  refine ⟨at_i.generation, ?_, ?_⟩
  · intro shard found k stored inShard same
    rw [Store.getElem?_shards_sweepShard] at found
    split at found
    · obtain ⟨old, before, rfl⟩ := Option.map_eq_some_iff.mp found
      rw [Shard.get?_sweep] at inShard
      split at inShard
      · cases inShard
      · exact at_i.rows old before k stored inShard same
    · exact at_i.rows shard found k stored inShard same
  · intro k stored read member own same
    rw [Store.index_sweepShard] at own
    exact at_i.writers k stored read member own same

/-- A swept shard that no upsert has locked is clear of every earlier generation: whoever locks it
    from now on reads a later one. -/
theorem floorAt_swept {m : Machine τ} {rule : RuleId} {floor i : Nat}
    (reached : floor ≤ m.store.generation rule) (free : m.isLocked i = false) :
    FloorAt { m with store := m.store.sweepShard rule i } rule floor i := by
  refine ⟨reached, ?_, ?_⟩
  · intro shard found k stored inShard same
    rw [Store.getElem?_shards_sweepShard, if_pos rfl] at found
    obtain ⟨old, before, rfl⟩ := Option.map_eq_some_iff.mp found
    rw [Shard.get?_sweep, if_pos same] at inShard
    cases inShard
  · intro k stored read member own same
    rw [Store.index_sweepShard] at own
    have unlocked := List.any_eq_false.mp free _ member
    simp [Call.locks, own] at unlocked

theorem FloorAt.step {m m' : Machine τ} {rule : RuleId} {floor i : Nat}
    (at_i : m.FloorAt rule floor i) (step : m.Step m') : m'.FloorAt rule floor i := by
  cases step with
  | idle => exact at_i
  | callUpsert key row => exact at_i.withNewCall (by simp)
  | callClear other => exact at_i.withNewCall (by simp)
  | lock j key row found =>
    apply at_i.withCall
    intro k stored read new own same
    cases new
    rw [same]
    exact at_i.generation
  | write j key row read found accepted =>
    refine FloorAt.withCall (m := { m with store := m.store.write key row }) ?_ (by simp)
    apply at_i.write
    intro own same
    exact Nat.le_trans (at_i.writers key row read (List.mem_of_getElem? found) own same) accepted
  | drop j key row read found => exact at_i.withCall (by simp)
  | advance j other found =>
    exact FloorAt.withCall (m := { m with store := m.store.advance other }) at_i.advance (by simp)
  | sweep j other reached next found free =>
    exact FloorAt.withCall (m := { m with store := m.store.sweepShard other next })
      at_i.sweepShard (by simp)
  | finish j other reached next found all => exact at_i.withCall (by simp)

theorem FloorAt.run {m : Machine τ} {rule : RuleId} {floor i : Nat}
    (at_i : m.FloorAt rule floor i) (turns : List (Turn τ)) : (m.run turns).FloorAt rule floor i :=
  run_keeps (fun m => m.FloorAt rule floor i) (fun m turn here => here.step (step_take m turn))
    m turns at_i

end Machine

end ReachAudit.History
