import ReachAudit.Proofs.History.Effects
import ReachAudit.Proofs.History.KeyOrder

namespace ReachAudit.History

variable {τ : Type}

/-- A history that keeps all rows in one table. -/
structure Ledger (τ : Type) where
  rows : Table Key (Row τ) := ∅
  generations : Table RuleId Nat := ∅

namespace Ledger

def generation (l : Ledger τ) (rule : RuleId) : Nat := (l.generations.get? rule).getD 0

def upsert (l : Ledger τ) (key : Key) (row : Row τ) : Ledger τ :=
  if row.generation < l.generation key.rule then l
  else
    match l.rows.get? key with
    | none => { l with rows := l.rows.insert key row }
    | some old =>
      let updated := {
        old with
        generation := row.generation
        status := row.status
        message := row.message
        updatedAt := row.updatedAt }
      { l with rows := l.rows.insert key updated }

def clear (l : Ledger τ) (rule : RuleId) : Ledger τ where
  rows := l.rows.filter fun key _ => key.rule ≠ rule
  generations := l.generations.insert rule (l.generation rule + 1)

def count (l : Ledger τ) (rule : RuleId) : Nat := (l.rows.filter fun key _ => key.rule = rule).size

def select (l : Ledger τ) (p : Key → Bool) : List (Key × Row τ) :=
  (l.rows.entries.filter fun e => p e.1).mergeSort fun a b => a.1.before b.1

end Ledger

inductive Operation (τ : Type) where
  | upsert (key : Key) (row : Row τ)
  | clear (rule : RuleId)
  | generation (rule : RuleId)
  | get (key : Key)
  | contains (key : Key)
  | byRule (rule : RuleId)
  | all
  | size
  | isEmpty

inductive Reply (τ : Type) where
  | done
  | number (n : Nat)
  | flag (b : Bool)
  | row (row : Option (Row τ))
  | rows (rows : List (Key × Row τ))

def Store.perform (s : Store τ) : Operation τ → Reply τ × Store τ
  | .upsert key row => (.done, s.upsert key row)
  | .clear rule => (.number (s.discarded rule), s.clear rule)
  | .generation rule => (.number (s.generation rule), s)
  | .get key => (.row (s.get? key), s)
  | .contains key => (.flag (s.contains key), s)
  | .byRule rule => (.rows (s.byRule rule), s)
  | .all => (.rows s.all, s)
  | .size => (.number s.size, s)
  | .isEmpty => (.flag s.isEmpty, s)

def Ledger.perform (l : Ledger τ) : Operation τ → Reply τ × Ledger τ
  | .upsert key row => (.done, l.upsert key row)
  | .clear rule => (.number (l.count rule), l.clear rule)
  | .generation rule => (.number (l.generation rule), l)
  | .get key => (.row (l.rows.get? key), l)
  | .contains key => (.flag (l.rows.contains key), l)
  | .byRule rule => (.rows (l.select fun key => key.rule = rule), l)
  | .all => (.rows (l.select fun _ => true), l)
  | .size => (.number l.rows.size, l)
  | .isEmpty => (.flag l.rows.isEmpty, l)

def replies {σ : Type} (perform : σ → Operation τ → Reply τ × σ) :
    σ → List (Operation τ) → List (Reply τ)
  | _, [] => []
  | s, operation :: rest => (perform s operation).1 :: replies perform (perform s operation).2 rest

def after {σ : Type} (perform : σ → Operation τ → Reply τ × σ) (s : σ)
    (operations : List (Operation τ)) : σ :=
  operations.foldl (fun s operation => (perform s operation).2) s

theorem sorted_mergeSort (entries : List (Key × Row τ)) :
    (entries.mergeSort fun a b => a.1.before b.1).Pairwise fun a b => a.1.before b.1 = true := by
  have trans : ∀ a b c : Key × Row τ, a.1.before b.1 = true → b.1.before c.1 = true →
      a.1.before c.1 = true := fun _ _ _ => Key.before_trans
  have total : ∀ a b : Key × Row τ, (a.1.before b.1 || b.1.before a.1) = true :=
    fun a b => Key.before_total a.1 b.1
  exact List.pairwise_mergeSort trans total entries

structure Store.Mirrors (s : Store τ) (l : Ledger τ) : Prop where
  placed : s.Placed
  rows : ∀ key, s.get? key = l.rows.get? key
  generation : ∀ rule, s.generation rule = l.generation rule

namespace Store.Mirrors

variable {s : Store τ} {l : Ledger τ}

theorem new (hash : Key → Nat) (shards : Nat) : (Store.new hash shards : Store τ).Mirrors {} where
  placed := .new hash shards
  rows := get?_new hash shards
  generation _ := rfl

theorem upsert (mirrors : s.Mirrors l) (key : Key) (row : Row τ) :
    (s.upsert key row).Mirrors (l.upsert key row) := by
  refine ⟨mirrors.placed.upsert key row, ?_, ?_⟩
  · intro k
    rw [get?_upsert mirrors.placed, mirrors.generation, mirrors.rows, Ledger.upsert]
    by_cases superseded : row.generation < l.generation key.rule
    · rw [if_neg (fun both => absurd both.2 (Nat.not_le.mpr superseded)), if_pos superseded]
      exact mirrors.rows k
    · rw [if_neg superseded]
      have fresh := Nat.not_lt.mp superseded
      cases before : l.rows.get? key with
      | none =>
        simp only [fresh, and_true, Table.get?_insert, mirrors.rows]
        rfl
      | some old =>
        simp only [fresh, and_true, Table.get?_insert, mirrors.rows]
        rfl
  · intro rule
    rw [generation_upsert, mirrors.generation, Ledger.upsert]
    split
    · rfl
    · split <;> rfl

theorem clear (mirrors : s.Mirrors l) (rule : RuleId) :
    (s.clear rule).Mirrors (l.clear rule) := by
  refine ⟨mirrors.placed.clear rule, ?_, ?_⟩
  · intro key
    rw [get?_clear mirrors.placed, mirrors.rows, Ledger.clear, Table.get?_filter]
    by_cases own : key.rule = rule
    · cases l.rows.get? key <;> simp [Option.filter, own]
    · cases l.rows.get? key <;> simp [Option.filter, own]
  · intro other
    rw [generation_clear, mirrors.generation, mirrors.generation]
    simp only [Ledger.clear, Ledger.generation, Table.get?_insert]
    split <;> rfl

theorem entries_perm (mirrors : s.Mirrors l) :
    (s.shards.flatMap fun shard => shard.entries).Perm l.rows.entries := by
  rw [List.perm_ext_iff_of_nodup mirrors.placed.nodup_entries.of_map l.rows.nodup.of_map]
  intro e
  obtain ⟨key, row⟩ := e
  calc (key, row) ∈ s.shards.flatMap (fun shard => shard.entries)
      ↔ s.Holds key row := by simp only [List.mem_flatMap, Holds, Table.get?_eq_some]
    _ ↔ l.rows.get? key = some row := by rw [mirrors.placed.holds_iff, mirrors.rows]
    _ ↔ (key, row) ∈ l.rows.entries := l.rows.get?_eq_some

theorem size_eq (mirrors : s.Mirrors l) : s.size = l.rows.size := by
  have lengths : s.size = (s.shards.flatMap fun shard => shard.entries).length := by
    rw [size]
    induction s.shards with
    | nil => rfl
    | cons shard rest ih =>
      rw [List.foldr_cons, ih, List.flatMap_cons, List.length_append, Table.size]
  rw [lengths, mirrors.entries_perm.length_eq, Table.size]

theorem discarded_eq (mirrors : s.Mirrors l) (rule : RuleId) : s.discarded rule = l.count rule := by
  have own (shard : Shard τ) : shard.size - (Shard.sweep shard rule).size =
      (shard.entries.filter fun e => e.1.rule = rule).length := by
    have parts := List.length_eq_length_filter_add (l := shard.entries)
      fun e => decide (e.1.rule = rule)
    simp only [Shard.sweep, Table.filter, Table.size, parts, decide_not, ne_eq]
    omega
  have lengths : s.discarded rule =
      ((s.shards.flatMap fun shard => shard.entries).filter fun e => e.1.rule = rule).length := by
    rw [discarded]
    induction s.shards with
    | nil => rfl
    | cons shard rest ih =>
      rw [List.foldr_cons, ih, own, List.flatMap_cons, List.filter_append, List.length_append]
  rw [lengths, (mirrors.entries_perm.filter _).length_eq]
  rfl

theorem select_eq (mirrors : s.Mirrors l) (p : Key → Bool) : s.select p = l.select p := by
  have perm : (s.select p).Perm (l.select p) := by
    have passing := mirrors.entries_perm.filter fun e : Key × Row τ => p e.1
    exact ((List.mergeSort_perm _ _).trans passing).trans (List.mergeSort_perm _ _).symm
  have stored : ∀ e ∈ l.select p, l.rows.get? e.1 = some e.2 := by
    intro e member
    rw [Ledger.select, List.mem_mergeSort] at member
    exact l.rows.get?_eq_some.mpr (List.mem_filter.mp member).1
  refine List.Perm.eq_of_pairwise ?_ (sorted_mergeSort _) (sorted_mergeSort _) perm
  intro a b first second forth back
  have key : a.1 = b.1 := Key.before_antisymm forth back
  have row := stored a (perm.mem_iff.mp first)
  rw [key, stored b second] at row
  exact Prod.ext key (Option.some.inj row).symm

theorem perform (mirrors : s.Mirrors l) (operation : Operation τ) :
    (s.perform operation).1 = (l.perform operation).1 ∧
      (s.perform operation).2.Mirrors (l.perform operation).2 := by
  cases operation with
  | upsert key row => exact ⟨rfl, mirrors.upsert key row⟩
  | clear rule => exact ⟨congrArg Reply.number (mirrors.discarded_eq rule), mirrors.clear rule⟩
  | generation rule => exact ⟨congrArg Reply.number (mirrors.generation rule), mirrors⟩
  | get key => exact ⟨congrArg Reply.row (mirrors.rows key), mirrors⟩
  | contains key =>
    have flag : s.contains key = l.rows.contains key := congrArg Option.isSome (mirrors.rows key)
    exact ⟨congrArg Reply.flag flag, mirrors⟩
  | byRule rule => exact ⟨congrArg Reply.rows (mirrors.select_eq _), mirrors⟩
  | all => exact ⟨congrArg Reply.rows (mirrors.select_eq _), mirrors⟩
  | size => exact ⟨congrArg Reply.number mirrors.size_eq, mirrors⟩
  | isEmpty =>
    refine ⟨congrArg Reply.flag ?_, mirrors⟩
    rw [isEmpty, mirrors.size_eq, Table.isEmpty, Table.size]
    cases l.rows.entries <;> rfl

theorem after (mirrors : s.Mirrors l) (operations : List (Operation τ)) :
    (History.after Store.perform s operations).Mirrors
      (History.after Ledger.perform l operations) := by
  induction operations generalizing s l with
  | nil => exact mirrors
  | cons operation rest ih => exact ih (mirrors.perform operation).2

theorem replies_eq (mirrors : s.Mirrors l) (operations : List (Operation τ)) :
    replies Store.perform s operations = replies Ledger.perform l operations := by
  induction operations generalizing s l with
  | nil => rfl
  | cons operation rest ih =>
    obtain ⟨reply, next⟩ := mirrors.perform operation
    rw [replies, replies, reply, ih next]

end Store.Mirrors

namespace Ledger

structure Lists (l : Ledger τ) (p : Key → Prop) (rows : List (Key × Row τ)) : Prop where
  ordered : rows.Pairwise fun a b => a.1.Precedes b.1
  mem_iff : ∀ key row, (key, row) ∈ rows ↔ l.rows.get? key = some row ∧ p key

theorem lists_select (l : Ledger τ) (p : Key → Bool) : l.Lists (p · = true) (l.select p) := by
  constructor
  · have nodup : ((l.select p).map Prod.fst).Nodup := by
      rw [select, ((List.mergeSort_perm _ _).map Prod.fst).nodup_iff]
      exact l.rows.nodup.sublist (List.filter_sublist.map _)
    have distinct : (l.select p).Pairwise fun a b => a.1 ≠ b.1 := List.pairwise_map.mp nodup
    refine ((sorted_mergeSort _).and distinct).imp ?_
    intro a b both
    exact Key.precedes_of_before both.1 both.2
  · intro key row
    simp only [select, List.mem_mergeSort, List.mem_filter, Table.get?_eq_some]

end Ledger

/-- However many shards there are and however keys are spread over them, a store gives the same
    replies as a ledger, which holds all rows in one table. It lists the rows asked for once, in the
    order of their keys. -/
theorem replies_eq_ledger (hash : Key → Nat) (shards : Nat) (operations : List (Operation τ)) :
    replies Store.perform (Store.new hash shards) operations =
        replies Ledger.perform {} operations ∧
      let s := after Store.perform (Store.new hash shards) operations
      let l := after Ledger.perform {} operations
      l.Lists (fun _ => True) s.all ∧ ∀ rule, l.Lists (fun key => key.rule = rule) (s.byRule rule) := by
  have start : (Store.new hash shards : Store τ).Mirrors {} := .new hash shards
  refine ⟨start.replies_eq operations, ?_⟩
  have mirrors := start.after operations
  have listed (p : Key → Bool) := (after Ledger.perform {} operations).lists_select p
  constructor
  · rw [Store.all, mirrors.select_eq]
    simpa using listed fun _ => true
  · intro rule
    rw [Store.byRule, mirrors.select_eq]
    simpa using listed fun key => key.rule = rule

end ReachAudit.History
