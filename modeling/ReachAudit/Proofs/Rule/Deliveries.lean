import ReachAudit.Proofs.History.Kept
import ReachAudit.Proofs.Rule.Index

namespace ReachAudit

open History (Store)

variable {τ : Type}

inductive Delivery (τ : Type) where
  | applied (now : τ) (rule : Rule)
  | deleted

namespace Delivery

def rule? : Delivery τ → Option Rule
  | .applied _ rule => some rule
  | .deleted => none

def held (past : List (Delivery τ)) : Option Rule := past.getLast?.bind rule?

def discards (held : Option Rule) : Delivery τ → Bool
  | .applied _ rule => held.any fun old => rule.shape ≠ old.shape
  | .deleted => held.isSome

def discarded (past : List (Delivery τ)) : Nat :=
  (List.range past.length).countP fun n => past[n]?.any (discards (held (past.take n)))

theorem held_concat (past : List (Delivery τ)) (d : Delivery τ) : held (past ++ [d]) = d.rule? := by
  simp [held]

theorem discarded_concat (past : List (Delivery τ)) (d : Delivery τ) :
    discarded (past ++ [d]) = discarded past + if d.discards (held past) then 1 else 0 := by
  have earlier : (List.range past.length).countP (fun n =>
        (past ++ [d])[n]?.any (discards (held ((past ++ [d]).take n)))) =
      discarded past := by
    apply List.countP_congr
    intro n member
    have bound := List.mem_range.mp member
    rw [List.getElem?_append_left bound, List.take_append_of_le_length (Nat.le_of_lt bound)]
  rw [discarded, List.length_append, List.length_singleton, List.range_succ, List.countP_append,
    earlier, List.countP_singleton, List.getElem?_concat_length, List.take_left, Option.any_some]

end Delivery

namespace RuleIndex

def deliver (id : RuleId) (index : RuleIndex τ) : Delivery τ → RuleIndex τ
  | .applied now rule => index.apply now id rule
  | .deleted => index.delete id

def ruleOf? (index : RuleIndex τ) (id : RuleId) : Option Rule :=
  (index.rules.get? id).map RuleEntry.rule

variable {index : RuleIndex τ} {id : RuleId}

theorem history_deliver (index : RuleIndex τ) (id : RuleId) (d : Delivery τ) :
    (index.deliver id d).history =
      if d.discards (index.ruleOf? id) then index.history.clear id else index.history := by
  cases d with
  | applied now rule =>
    have arrival := applied_apply now id rule index
    change (index.apply now id rule).history = _
    generalize index.apply now id rule = next at arrival ⊢
    cases arrival with
    | added absent => simp [ruleOf?, absent, Delivery.discards]
    | unchanged known found same =>
      simp [ruleOf?, found, same, Delivery.discards]
    | edited known found same =>
      simp [ruleOf?, found, Delivery.discards, same]
    | reshaped known found different =>
      simp [ruleOf?, found, Delivery.discards, different]
  | deleted =>
    have removal := deleted_delete id index
    change (index.delete id).history = _
    generalize index.delete id = next at removal ⊢
    cases removal with
    | ignored absent => simp [ruleOf?, absent, Delivery.discards]
    | removed known found => simp [ruleOf?, found, Delivery.discards]

theorem get?_deliver_of_ne (d : Delivery τ) {other : RuleId} (apart : id ≠ other) :
    (index.deliver id d).rules.get? other = index.rules.get? other := by
  cases d with
  | applied now rule =>
    have arrival := applied_apply now id rule index
    change (index.apply now id rule).rules.get? other = _
    generalize index.apply now id rule = next at arrival ⊢
    cases arrival with
    | unchanged known found same => rfl
    | _ => rw [Table.get?_insert, if_neg apart]
  | deleted =>
    have removal := deleted_delete id index
    change (index.delete id).rules.get? other = _
    generalize index.delete id = next at removal ⊢
    cases removal with
    | ignored absent => rfl
    | removed known found => rw [Table.get?_erase, if_neg apart]

theorem generation_deliver (index : RuleIndex τ) (id other : RuleId) (d : Delivery τ) :
    (index.deliver id d).history.generation other = index.history.generation other +
      if id = other ∧ d.discards (index.ruleOf? id) = true then 1 else 0 := by
  rw [history_deliver]
  by_cases discards : d.discards (index.ruleOf? id) = true
  · rw [if_pos discards, Store.generation_clear]
    by_cases own : id = other
    · simp [own, ← own ▸ discards]
    · simp [own]
  · rw [if_neg discards, if_neg fun both => discards both.2]
    rfl

theorem byRule_deliver (placed : index.history.Placed) (id other : RuleId) (d : Delivery τ) :
    (index.deliver id d).history.byRule other =
      if id = other ∧ d.discards (index.ruleOf? id) = true then [] else
        index.history.byRule other := by
  rw [history_deliver]
  by_cases discards : d.discards (index.ruleOf? id) = true
  · rw [if_pos discards, Store.byRule_clear placed]
    simp only [discards, and_true, eq_comm]
  · rw [if_neg discards, if_neg fun both => discards both.2]

theorem placed_deliver (placed : index.history.Placed) (d : Delivery τ) :
    (index.deliver id d).history.Placed := by
  rw [history_deliver]
  split
  · exact placed.clear id
  · exact placed

theorem apply_of_held {now : τ} {rule : Rule} {known : RuleEntry τ}
    (found : index.rules.get? id = some known) (same : rule = known.rule) :
    index.apply now id rule = index := by
  simp only [apply, found, if_pos same]

theorem ruleOf?_apply (now : τ) (id : RuleId) (rule : Rule) (index : RuleIndex τ) :
    (index.apply now id rule).ruleOf? id = some rule := by
  have arrival := applied_apply now id rule index
  generalize index.apply now id rule = next at arrival ⊢
  unfold ruleOf?
  cases arrival with
  | unchanged known found same => rw [found, Option.map_some, same]
  | _ => rw [Table.get?_insert_self, Option.map_some]

end RuleIndex

namespace Delivery

/-- An entry and the generation of its rule say what the deliveries so far say. -/
structure Agree (past : List (Delivery τ)) (known? : Option (RuleEntry τ)) (generation : Nat) :
    Prop where
  rule : known?.map RuleEntry.rule = held past
  count : generation = discarded past
  current : ∀ entry, known? = some entry → entry.generation = generation
  /-- The first application since the resource was last deleted, or at all. -/
  created : ∀ entry, known? = some entry → ∃ earlier first later,
    past = earlier ++ .applied entry.createdAt first :: later ∧ held earlier = none ∧
      .deleted ∉ later
  /-- The last application of something that was not held already. -/
  updated : ∀ entry, known? = some entry → ∃ earlier later,
    past = earlier ++ .applied entry.updatedAt entry.rule :: later ∧
      held earlier ≠ some entry.rule ∧ ∀ d ∈ later, d.rule? = some entry.rule

theorem agree_nil : Agree [] (none : Option (RuleEntry τ)) 0 where
  rule := rfl
  count := rfl
  current entry found := by cases found
  created entry found := by cases found
  updated entry found := by cases found

variable {past : List (Delivery τ)} {now : τ} {rule : Rule} {known : RuleEntry τ}
  {generation : Nat}

theorem Agree.held (agree : Agree past (some known) generation) :
    Delivery.held past = some known.rule := agree.rule.symm

theorem Agree.generation_concat {known? : Option (RuleEntry τ)}
    (agree : Agree past known? generation)
    (d : Delivery τ) :
    discarded (past ++ [d]) =
      generation + if d.discards (known?.map RuleEntry.rule) then 1 else 0 := by
  rw [discarded_concat, agree.rule, agree.count]

theorem Agree.added (agree : Agree past none generation) :
    Agree (past ++ [.applied now rule])
      (some { rule, generation, createdAt := now, updatedAt := now }) generation where
  rule := (held_concat past (.applied now rule)).symm
  count := (agree.generation_concat (.applied now rule)).symm
  current entry found := by cases found; rfl
  created entry found := by
    cases found
    exact ⟨past, rule, [], rfl, agree.rule.symm, List.not_mem_nil⟩
  updated entry found := by
    cases found
    refine ⟨past, [], rfl, ?_, by simp⟩
    rw [← agree.rule]
    exact (Option.some_ne_none rule).symm

theorem Agree.repeated (agree : Agree past (some known) generation) :
    Agree (past ++ [.applied now known.rule]) (some known) generation where
  rule := (held_concat past (.applied now known.rule)).symm
  count := by
    rw [agree.generation_concat]
    simp [discards]
  current := agree.current
  created entry found := by
    obtain ⟨earlier, first, later, rfl, absent, kept⟩ := agree.created entry found
    exact ⟨earlier, first, later ++ [.applied now known.rule], by simp, absent, by simpa using kept⟩
  updated entry found := by
    obtain ⟨earlier, later, rfl, other, same⟩ := agree.updated entry found
    cases found
    refine ⟨earlier, later ++ [.applied now known.rule], by simp, other, ?_⟩
    intro d member
    rcases List.mem_append.mp member with member | member
    · exact same d member
    · rw [List.mem_singleton.mp member]
      rfl

theorem Agree.replaced (agree : Agree past (some known) generation) (entry : RuleEntry τ)
    {next : Nat} (other : entry.rule ≠ known.rule) (created : entry.createdAt = known.createdAt)
    (current : entry.generation = next)
    (more : next = generation + if entry.rule.shape = known.rule.shape then 0 else 1) :
    Agree (past ++ [.applied entry.updatedAt entry.rule]) (some entry) next where
  rule := (held_concat past (.applied entry.updatedAt entry.rule)).symm
  count := by
    rw [agree.generation_concat, more]
    by_cases same : entry.rule.shape = known.rule.shape <;> simp [discards, same]
  current e found := by
    cases found
    exact current
  created e found := by
    obtain ⟨earlier, first, later, rfl, absent, kept⟩ := agree.created known rfl
    cases found
    rw [created]
    exact ⟨earlier, first, later ++ [.applied entry.updatedAt entry.rule], by simp, absent,
      by simpa using kept⟩
  updated e found := by
    cases found
    refine ⟨past, [], rfl, ?_, by simp⟩
    rw [agree.held]
    exact fun same => other (Option.some.inj same).symm

theorem Agree.deleted {known? : Option (RuleEntry τ)} (agree : Agree past known? generation) :
    Agree (past ++ [.deleted]) (none : Option (RuleEntry τ))
      (generation + if known?.isSome then 1 else 0) where
  rule := (held_concat past .deleted).symm
  count := by
    rw [agree.generation_concat]
    simp [discards]
  current entry found := by cases found
  created entry found := by cases found
  updated entry found := by cases found

end Delivery

open Delivery in
theorem RuleIndex.agree_deliver {index : RuleIndex τ} {id : RuleId} {past : List (Delivery τ)}
    (agree : Agree past (index.rules.get? id) (index.history.generation id)) (d : Delivery τ) :
    Agree (past ++ [d]) ((index.deliver id d).rules.get? id)
      ((index.deliver id d).history.generation id) := by
  cases d with
  | applied now rule =>
    change Agree _ ((index.apply now id rule).rules.get? id)
      ((index.apply now id rule).history.generation id)
    by_cases held : ∃ known, index.rules.get? id = some known ∧ rule = known.rule
    · obtain ⟨known, found, rfl⟩ := held
      rw [apply_of_held found rfl]
      rw [found] at agree ⊢
      exact agree.repeated
    · have arrival := applied_apply now id rule index
      generalize index.apply now id rule = next at arrival ⊢
      cases arrival with
      | added absent =>
        rw [absent] at agree
        rw [Table.get?_insert_self]
        exact agree.added
      | unchanged known found same => exact absurd ⟨known, found, same⟩ held
      | edited known found same =>
        rw [found] at agree
        rw [Table.get?_insert_self]
        refine agree.replaced { known with rule, updatedAt := now }
          (fun same => held ⟨known, found, same⟩) rfl (agree.current known rfl) ?_
        rw [if_pos same]
        rfl
      | reshaped known found different =>
        rw [found] at agree
        rw [Table.get?_insert_self]
        refine agree.replaced { known with rule, generation := _, updatedAt := now }
          (fun same => held ⟨known, found, same⟩) rfl rfl ?_
        rw [if_neg different, Store.generation_clear, if_pos rfl]
  | deleted =>
    have removal := deleted_delete id index
    have count := index.generation_deliver id id .deleted
    change Agree _ ((index.delete id).rules.get? id) ((index.delete id).history.generation id)
    change (index.delete id).history.generation id = _ at count
    rw [count]
    generalize index.delete id = next at removal ⊢
    cases removal with
    | ignored absent =>
      have gone := agree.deleted
      rw [absent] at gone ⊢
      simpa [Delivery.discards, ruleOf?, absent] using gone
    | removed known found =>
      have gone := agree.deleted
      rw [found] at gone
      rw [Table.get?_erase, if_pos rfl]
      simpa [Delivery.discards, ruleOf?, found] using gone

end ReachAudit
