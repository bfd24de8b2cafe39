import ReachAudit.Proofs.History.Effects

namespace ReachAudit.History

/-- A call on a store that threads share, and how far it has come. -/
inductive Call (τ : Type) where
  /-- Waits for the lock of its key's shard. -/
  | upsert (key : Key) (row : Row τ)
  /-- Holds the lock, and has read the generation of its rule. -/
  | writing (key : Key) (row : Row τ) (read : Nat)
  | upserted
  | clear (rule : RuleId)
  /-- Has advanced the generation to `reached`, and waits for the lock of shard `next`. -/
  | sweeping (rule : RuleId) (reached next : Nat)
  /-- Has returned, having advanced the generation to `reached`. -/
  | cleared (rule : RuleId) (reached : Nat)
  deriving DecidableEq

def Call.locks {τ : Type} (s : Store τ) (i : Nat) : Call τ → Bool
  | .writing key _ _ => s.index key = i
  | _ => false

/-- A store together with all calls on it so far, those that have returned included. -/
structure Machine (τ : Type) where
  store : Store τ
  calls : List (Call τ) := []

inductive Turn (τ : Type) where
  | upsert (key : Key) (row : Row τ)
  | clear (rule : RuleId)
  | move (i : Nat)

namespace Machine

variable {τ : Type}

def isLocked (m : Machine τ) (i : Nat) : Bool := m.calls.any (Call.locks m.store i)

/-- The next step of one call. It stays where it is while the lock that it needs is taken. -/
def stepCall (m : Machine τ) (i : Nat) : Call τ → Machine τ
  | .upsert key row =>
    if m.isLocked (m.store.index key) then m
    else { m with calls := m.calls.set i (.writing key row (m.store.generation key.rule)) }
  | .writing key row read => {
      store := if read ≤ row.generation then m.store.write key row else m.store
      calls := m.calls.set i .upserted }
  | .clear rule => {
      store := m.store.advance rule
      calls := m.calls.set i (.sweeping rule (m.store.generation rule + 1) 0) }
  | .sweeping rule reached next =>
    if next < m.store.shards.length then
      if m.isLocked next then m
      else {
        store := m.store.sweepShard rule next
        calls := m.calls.set i (.sweeping rule reached (next + 1)) }
    else { m with calls := m.calls.set i (.cleared rule reached) }
  | .upserted => m
  | .cleared _ _ => m

def take (m : Machine τ) : Turn τ → Machine τ
  | .upsert key row => { m with calls := m.calls ++ [.upsert key row] }
  | .clear rule => { m with calls := m.calls ++ [.clear rule] }
  | .move i =>
    match m.calls[i]? with
    | some call => m.stepCall i call
    | none => m

def run (m : Machine τ) (turns : List (Turn τ)) : Machine τ := turns.foldl take m

def new (hash : Key → Nat) (shards : Nat) : Machine τ where
  store := .new hash shards

theorem run_append (m : Machine τ) (first second : List (Turn τ)) :
    m.run (first ++ second) = (m.run first).run second := List.foldl_append

theorem take_move {m : Machine τ} {i : Nat} {call : Call τ} (found : m.calls[i]? = some call) :
    m.take (.move i) = m.stepCall i call := by
  simp only [take, found]

theorem run_keeps (holds : Machine τ → Prop) (keeps : ∀ m turn, holds m → holds (m.take turn))
    (m : Machine τ) (turns : List (Turn τ)) (start : holds m) : holds (m.run turns) := by
  induction turns generalizing m with
  | nil => exact start
  | cons turn turns ih => exact ih (m.take turn) (keeps m turn start)

/-- An upsert that nothing comes between is the store's own. -/
theorem run_upsert_alone (m : Machine τ) (key : Key) (row : Row τ)
    (free : m.isLocked (m.store.index key) = false) :
    (m.run [.upsert key row, .move m.calls.length, .move m.calls.length]).store =
      m.store.upsert key row := by
  let called : Machine τ := { m with calls := m.calls ++ [.upsert key row] }
  let read := m.store.generation key.rule
  have waiting : called.calls[m.calls.length]? = some (.upsert key row) := by simp [called]
  have unlocked : called.isLocked (called.store.index key) = false := by
    simpa [called, isLocked, List.any_append, Call.locks] using free
  have first : called.take (.move m.calls.length) =
      { m with calls := m.calls ++ [.writing key row read] } := by
    rw [take_move waiting, stepCall, unlocked]
    simp [called, read]
  have writing : (m.calls ++ [Call.writing key row read])[m.calls.length]? =
      some (.writing key row read) := by simp
  change ((called.take (.move m.calls.length)).take (.move m.calls.length)).store = _
  rw [first, take_move writing]
  simp only [stepCall, Store.upsert, Store.accepts_iff, read]

theorem run_sweeps_alone (m : Machine τ) (i : Nat) (rule : RuleId) (reached n : Nat)
    (sweeping : m.calls[i]? = some (.sweeping rule reached 0)) (free : ∀ j, m.isLocked j = false)
    (bound : n ≤ m.store.shards.length) :
    m.run (List.replicate n (.move i)) = {
      store := m.store.sweepFirst rule n
      calls := m.calls.set i (.sweeping rule reached n) } := by
  have inside : i < m.calls.length := (List.getElem?_eq_some_iff.mp sweeping).1
  induction n with
  | zero =>
    have same : m.calls.set i (.sweeping rule reached 0) = m.calls := by
      rw [← (List.getElem?_eq_some_iff.mp sweeping).2, List.set_getElem_self]
    rw [same]
    rfl
  | succ n ih =>
    rw [List.replicate_succ', run_append, ih (by omega)]
    have found : (m.calls.set i (.sweeping rule reached n))[i]? =
        some (.sweeping rule reached n) := by simp [inside]
    have length : (m.store.sweepFirst rule n).shards.length = m.store.shards.length :=
      Store.length_sweepFirst ..
    have unlocked : isLocked (τ := τ) {
        store := m.store.sweepFirst rule n
        calls := m.calls.set i (.sweeping rule reached n) } n = false := by
      have none := free n
      simp only [isLocked, List.any_eq_false] at none ⊢
      intro call member
      rcases List.mem_or_eq_of_mem_set member with member | rfl
      · have other := none call member
        cases call <;> simp_all [Call.locks, Store.index_sweepFirst]
      · simp [Call.locks]
    change take _ (.move i) = _
    rw [take_move found, stepCall, if_pos (by rw [length]; omega), unlocked]
    simp [Store.sweepFirst_succ]

/-- A clear that nothing comes between is the store's own. -/
theorem run_clear_alone (m : Machine τ) (rule : RuleId) (free : ∀ j, m.isLocked j = false) :
    (m.run (.clear rule :: List.replicate (m.store.shards.length + 1) (.move m.calls.length))).store =
      m.store.clear rule := by
  let i := m.calls.length
  let called : Machine τ := { m with calls := m.calls ++ [.clear rule] }
  let advanced : Machine τ := {
    store := m.store.advance rule
    calls := m.calls ++ [.sweeping rule (m.store.generation rule + 1) 0] }
  have first : called.take (.move i) = advanced := by
    have waiting : called.calls[i]? = some (.clear rule) := by simp [called, i]
    rw [take_move waiting]
    simp [stepCall, called, advanced, i]
  have sweeping : advanced.calls[i]? = some (.sweeping rule (m.store.generation rule + 1) 0) := by
    simp [advanced, i]
  have unlocked : ∀ j, advanced.isLocked j = false := by
    intro j
    have same : Call.locks (m.store.advance rule) j = Call.locks m.store j := rfl
    simpa [advanced, isLocked, List.any_append, same, Call.locks] using free j
  have swept := run_sweeps_alone advanced i rule _ m.store.shards.length sweeping unlocked
    (Nat.le_refl _)
  rw [List.replicate_succ]
  change ((called.take (.move i)).run _).store = _
  rw [first, swept, Store.clear_eq_sweepFirst]

end Machine

end ReachAudit.History
