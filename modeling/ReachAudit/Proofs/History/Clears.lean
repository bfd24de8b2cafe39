import ReachAudit.Proofs.History.Floor
import ReachAudit.Proofs.ListUpdate

namespace ReachAudit.History

variable {τ : Type}

def Call.Reached (rule : RuleId) (floor : Nat) : Call τ → Prop
  | .sweeping r reached _ | .cleared r reached => r = rule ∧ reached = floor
  | _ => False

def Call.HasSwept (rule : RuleId) (floor i : Nat) : Call τ → Prop
  | .sweeping r reached next => r = rule ∧ reached = floor ∧ i < next
  | .cleared r reached => r = rule ∧ reached = floor
  | _ => False

def Call.IsSweeping (rule : RuleId) : Call τ → Prop
  | .sweeping r _ _ => r = rule
  | _ => False

namespace Machine

/-- What clears have achieved so far. -/
structure Sound (m : Machine τ) : Prop where
  placed : m.store.Placed
  reached : ∀ call ∈ m.calls, ∀ rule floor, call.Reached rule floor →
    floor ≤ m.store.generation rule
  swept : ∀ call ∈ m.calls, ∀ rule floor i, call.HasSwept rule floor i → m.FloorAt rule floor i
  latest : ∀ rule, m.store.generation rule ≠ 0 →
    ∃ call ∈ m.calls, call.Reached rule (m.store.generation rule)

theorem Sound.new (hash : Key → Nat) (shards : Nat) : (new hash shards : Machine τ).Sound := by
  refine ⟨Store.Placed.new hash shards, ?_, ?_, ?_⟩
  · intro call member
    cases member
  · intro call member
    cases member
  · intro rule positive
    exact absurd rfl positive

theorem Sound.withNewCall {m : Machine τ} {call : Call τ} (sound : m.Sound)
    (step : m.Step { m with calls := m.calls ++ [call] })
    (fresh : ∀ rule floor, ¬ call.Reached rule floor)
    (unswept : ∀ rule floor i, ¬ call.HasSwept rule floor i) :
    Sound { m with calls := m.calls ++ [call] } := by
  refine ⟨sound.placed, ?_, ?_, ?_⟩
  · intro c member rule floor reached
    rcases List.mem_append.mp member with member | member
    · exact sound.reached c member rule floor reached
    · rw [List.mem_singleton.mp member] at reached
      exact absurd reached (fresh rule floor)
  · intro c member rule floor i swept
    rcases List.mem_append.mp member with member | member
    · exact (sound.swept c member rule floor i swept).step step
    · rw [List.mem_singleton.mp member] at swept
      exact absurd swept (unswept rule floor i)
  · intro rule positive
    obtain ⟨c, member, reached⟩ := sound.latest rule positive
    exact ⟨c, List.mem_append_left _ member, reached⟩

theorem Sound.withCall {m : Machine τ} {store : Store τ} {i : Nat} {old new : Call τ}
    (sound : m.Sound) (placed : store.Placed) (found : m.calls[i]? = some old)
    (step : m.Step { store, calls := m.calls.set i new })
    (grown : ∀ rule, m.store.generation rule ≤ store.generation rule)
    (kept : ∀ rule, store.generation rule ≠ m.store.generation rule →
      new.Reached rule (store.generation rule))
    (carried : ∀ rule floor, old.Reached rule floor → new.Reached rule floor)
    (reached : ∀ rule floor, new.Reached rule floor → floor ≤ store.generation rule)
    (swept : ∀ rule floor j, new.HasSwept rule floor j → ¬ old.HasSwept rule floor j →
      FloorAt { store, calls := m.calls.set i new } rule floor j) :
    Sound { store, calls := m.calls.set i new } := by
  have inside : i < m.calls.length := (List.getElem?_eq_some_iff.mp found).1
  have here : new ∈ m.calls.set i new := List.mem_set inside new
  refine ⟨placed, ?_, ?_, ?_⟩
  · intro c member rule floor has
    rcases List.mem_or_eq_of_mem_set member with member | rfl
    · exact Nat.le_trans (sound.reached c member rule floor has) (grown rule)
    · exact reached rule floor has
  · intro c member rule floor j has
    rcases List.mem_or_eq_of_mem_set member with member | rfl
    · exact (sound.swept c member rule floor j has).step step
    · by_cases before : old.HasSwept rule floor j
      · exact (sound.swept old (List.mem_of_getElem? found) rule floor j before).step step
      · exact swept rule floor j has before
  · intro rule positive
    by_cases same : store.generation rule = m.store.generation rule
    · dsimp only at positive ⊢
      rw [same] at positive ⊢
      obtain ⟨c, member, has⟩ := sound.latest rule positive
      rcases mem_set_or_eq found member with member | rfl
      · exact ⟨c, member, has⟩
      · exact ⟨new, here, carried rule _ has⟩
    · exact ⟨new, here, kept rule same⟩

theorem Sound.step {m m' : Machine τ} (sound : m.Sound) (step : m.Step m') : m'.Sound := by
  have whole := step
  cases step with
  | idle => exact sound
  | callUpsert key row => exact sound.withNewCall whole (by simp [Call.Reached]) (by simp [Call.HasSwept])
  | callClear rule => exact sound.withNewCall whole (by simp [Call.Reached]) (by simp [Call.HasSwept])
  | lock i key row found =>
    exact sound.withCall sound.placed found whole (fun _ => Nat.le_refl _) (by simp)
      (by simp [Call.Reached]) (by simp [Call.Reached]) (by simp [Call.HasSwept])
  | write i key row read found accepted =>
    exact sound.withCall (sound.placed.write key row) found whole (fun _ => Nat.le_refl _)
      (fun _ changed => absurd rfl changed) (by simp [Call.Reached]) (by simp [Call.Reached])
      (by simp [Call.HasSwept])
  | drop i key row read found =>
    exact sound.withCall sound.placed found whole (fun _ => Nat.le_refl _) (by simp)
      (by simp [Call.Reached]) (by simp [Call.Reached]) (by simp [Call.HasSwept])
  | advance i rule found =>
    refine sound.withCall (sound.placed.advance rule) found whole
      (fun _ => Store.generation_le_advance ..) ?_ (by simp [Call.Reached]) ?_
      (by simp [Call.HasSwept])
    · intro other changed
      rw [Store.generation_advance] at changed ⊢
      split at changed
      · rename_i same
        exact ⟨same, by rw [if_pos same]⟩
      · exact absurd rfl changed
    · intro other floor has
      obtain ⟨same, rfl⟩ := has
      exact Nat.le_of_eq (by rw [Store.generation_advance, if_pos same])
  | sweep i rule reached next found free =>
    have before := sound.reached _ (List.mem_of_getElem? found) rule reached ⟨rfl, rfl⟩
    refine sound.withCall (sound.placed.sweepShard rule next) found whole (fun _ => Nat.le_refl _)
      (fun _ changed => absurd rfl changed) (fun _ _ has => has) ?_ ?_
    · intro other floor has
      obtain ⟨rfl, rfl⟩ := has
      exact before
    · intro other floor j has unswept
      obtain ⟨rfl, rfl, within⟩ := has
      have last : j = next := by
        by_contra different
        exact unswept ⟨rfl, rfl, by omega⟩
      rw [last]
      exact FloorAt.withCall (m := { m with store := m.store.sweepShard rule next })
        (floorAt_swept before free) (by simp)
  | finish i rule reached next found all =>
    have before := sound.reached _ (List.mem_of_getElem? found) rule reached ⟨rfl, rfl⟩
    refine sound.withCall sound.placed found whole (fun _ => Nat.le_refl _) (by simp)
      (fun _ _ has => has) ?_ ?_
    · intro other floor has
      obtain ⟨rfl, rfl⟩ := has
      exact before
    · intro other floor j has unswept
      obtain ⟨rfl, rfl⟩ := has
      have beyond : m.store.shards.length ≤ j := by
        by_contra within
        exact unswept ⟨rfl, rfl, by omega⟩
      refine ⟨before, ?_, ?_⟩
      · intro shard inStore
        rw [List.getElem?_eq_none beyond] at inStore
        cases inStore
      · intro key row read member own
        have bound : m.store.index key < m.store.shards.length :=
          Nat.mod_lt _ sound.placed.nonempty
        dsimp only at own
        omega

theorem Sound.run {m : Machine τ} (sound : m.Sound) (turns : List (Turn τ)) : (m.run turns).Sound :=
  run_keeps Sound (fun m turn here => here.step (step_take m turn)) m turns sound

/-- A listing looks at one shard after the other, and calls may go on in between: what it sees is
    a store each of whose shards was there at some moment. -/
def Glimpse (m : Machine τ) (s : Store τ) : Prop :=
  ∀ shard ∈ s.shards, ∃ turns, shard ∈ (m.run turns).store.shards

/-- What has been cleared stays out: of a rule that no clear is sweeping, every row is of the
    present generation or later, and once a clear has returned, no row of an earlier generation
    than the one that it advanced to is there at any later moment. -/
theorem cleared_rows_stay_out (hash : Key → Nat) (shards : Nat) (turns : List (Turn τ))
    (rule : RuleId) :
    let m := (new hash shards).run turns
    ((∀ call ∈ m.calls, ¬ call.IsSweeping rule) →
      ∀ key row, m.store.Holds key row → key.rule = rule →
        m.store.generation rule ≤ row.generation) ∧
    ∀ floor, .cleared rule floor ∈ m.calls → ∀ s, m.Glimpse s →
      ∀ key row, key.rule = rule →
        s.Holds key row ∨ s.get? key = some row ∨ (key, row) ∈ s.all ∨ (key, row) ∈ s.byRule rule →
        floor ≤ row.generation := by
  intro m
  have sound : m.Sound := (Sound.new hash shards).run turns
  constructor
  · intro quiet key row holds same
    obtain ⟨shard, member, stored⟩ := holds
    obtain ⟨i, at_i⟩ := List.mem_iff_getElem?.mp member
    by_cases first : m.store.generation rule = 0
    · omega
    · obtain ⟨call, called, reached⟩ := sound.latest rule first
      have swept : call.HasSwept rule (m.store.generation rule) i := by
        cases call with
        | sweeping r generation next => exact absurd reached.1 (quiet _ called)
        | cleared r generation => exact reached
        | _ => exact reached.elim
      exact (sound.swept call called rule _ i swept).rows shard at_i key row stored same
  · intro floor returned s glimpse key row same seen
    have later : ∀ shard ∈ s.shards, shard.get? key = some row → floor ≤ row.generation := by
      intro shard member stored
      obtain ⟨after, present⟩ := glimpse shard member
      obtain ⟨i, at_i⟩ := List.mem_iff_getElem?.mp present
      have swept := sound.swept _ returned rule floor i ⟨rfl, rfl⟩
      exact (swept.run after).rows shard at_i key row stored same
    have held : s.Holds key row → floor ≤ row.generation := by
      intro holds
      obtain ⟨shard, member, stored⟩ := holds
      exact later shard member stored
    rcases seen with seen | seen | seen | seen
    · exact held seen
    · rw [Store.get?, Store.shard, List.getD_eq_getElem?_getD] at seen
      cases found : s.shards[s.index key]? with
      | none =>
        rw [found] at seen
        cases seen
      | some shard =>
        rw [found] at seen
        exact later shard (List.mem_of_getElem? found) seen
    · exact held (Store.mem_all.mp seen)
    · exact held (Store.mem_byRule.mp seen).1

def sampleRow (generation : Nat) : Row Nat where
  nodeName := "node"
  nodeAddress := {}
  proxied := false
  generation
  status := .success
  createdAt := 0
  updatedAt := 0

def sampleKey : Key := ⟨"ns/r", "n", "10.0.0.5", some "443"⟩

/-- An upsert reads the generation before a clear advances it and writes before its shard is swept;
    another one comes once the clear has returned. -/
def overlapping : Machine Nat :=
  (new (fun _ => 1) 2).run [
    .upsert sampleKey (sampleRow 0), .move 0, .clear "ns/r", .move 1, .move 1, .move 1, .move 0,
    .move 1, .move 1, .upsert sampleKey (sampleRow 1), .move 2, .move 2]

theorem cleared_rows_stay_out_overlapping :
    .cleared "ns/r" 1 ∈ overlapping.calls ∧
      overlapping.store.get? sampleKey = some (sampleRow 1) ∧ 1 ≤ (sampleRow 1).generation := by
  have returned : .cleared "ns/r" 1 ∈ overlapping.calls := by decide
  have stored : overlapping.store.get? sampleKey = some (sampleRow 1) := by decide
  refine ⟨returned, stored, ?_⟩
  exact (cleared_rows_stay_out (fun _ => 1) 2 _ "ns/r").2 1 returned overlapping.store
    (fun shard member => ⟨[], member⟩) sampleKey (sampleRow 1) rfl (Or.inr (Or.inl stored))

end Machine

end ReachAudit.History
