import ReachAudit.Proofs.Rule.Index

namespace ReachAudit

open History (Key Row Store)

variable {τ : Type}

/-- A row is about a destination of the rule, and could come from a probe of it. -/
structure Rule.Depicts (rule : Rule) (key : Key) (row : Row τ) : Prop where
  covered : rule.Covers key.address key.port
  proxied : row.proxied = rule.proxied
  message : row.message.isSome = true ↔ row.status = .error

namespace Rule.Depicts

variable {a b rule : Rule} {key : Key} {row : Row τ}

theorem of_shape (depicts : a.Depicts key row) (same : a.shape = b.shape) : b.Depicts key row where
  covered := depicts.covered.of_shape same
  proxied := depicts.proxied.trans (congrArg Shape.proxied same)
  message := depicts.message

theorem onto {old : Option (Row τ)} (depicts : rule.Depicts key row)
    (before : ∀ o, old = some o → rule.Depicts key o) : rule.Depicts key (row.onto old) := by
  obtain ⟨_, status, message, _⟩ := row.onto_carries old
  refine ⟨depicts.covered, ?_, ?_⟩
  · cases old with
    | none => exact depicts.proxied
    | some o => exact (before o rfl).proxied
  · rw [status, message]
    exact depicts.message

end Rule.Depicts

namespace RuleIndex

def Faithful (index : RuleIndex τ) : Prop :=
  ∀ key row, index.history.get? key = some row →
    ∃ entry, index.rules.get? key.rule = some entry ∧ row.generation = entry.generation ∧
      entry.rule.Depicts key row

variable {index next : RuleIndex τ} {now : τ} {id : RuleId} {rule : Rule}

theorem Faithful.applied (faithful : index.Faithful) (synced : index.Synced)
    (arrival : Applied now id rule index next) : next.Faithful := by
  intro key row stored
  cases arrival with
  | added absent =>
    obtain ⟨entry, found, rest⟩ := faithful key row stored
    have apart : id ≠ key.rule := by
      intro same
      rw [← same, absent] at found
      cases found
    exact ⟨entry, by rw [Table.get?_insert, if_neg apart]; exact found, rest⟩
  | unchanged known present same => exact faithful key row stored
  | edited known present same =>
    obtain ⟨entry, found, generation, depicts⟩ := faithful key row stored
    by_cases own : id = key.rule
    · subst own
      rw [present] at found
      cases found
      exact ⟨_, Table.get?_insert_self .., generation, depicts.of_shape same.symm⟩
    · exact ⟨entry, by rw [Table.get?_insert, if_neg own]; exact found, generation, depicts⟩
  | reshaped known present different =>
    rw [Store.get?_clear synced.placed] at stored
    split at stored
    · cases stored
    · rename_i apart
      obtain ⟨entry, found, rest⟩ := faithful key row stored
      exact ⟨entry, by rw [Table.get?_insert, if_neg (Ne.symm apart)]; exact found, rest⟩

theorem Faithful.deleted (faithful : index.Faithful) (synced : index.Synced)
    (removal : Deleted id index next) : next.Faithful := by
  intro key row stored
  cases removal with
  | ignored absent => exact faithful key row stored
  | removed known present =>
    rw [Store.get?_clear synced.placed] at stored
    split at stored
    · cases stored
    · rename_i apart
      obtain ⟨entry, found, rest⟩ := faithful key row stored
      exact ⟨entry, by rw [Table.get?_erase, if_neg (Ne.symm apart)]; exact found, rest⟩

theorem Faithful.upsert {key : Key} {row : Row τ} {v : RuleVersion} (faithful : index.Faithful)
    (synced : index.Synced) (own : key.rule = v.id) (generation : row.generation = v.generation)
    (depicts : v.rule.Depicts key row) (state : index.Superseded v ∨ index.Current v) :
    Faithful { index with history := index.history.upsert key row } := by
  rcases state with past | ⟨entry, found, same, shape⟩
  · have refused : index.history.upsert key row = index.history :=
      Store.upsert_of_superseded (by rw [own, generation]; exact past)
    rw [refused]
    exact faithful
  · rw [← own] at found
    intro k stored present
    dsimp only at present ⊢
    rw [Store.get?_upsert synced.placed] at present
    split at present
    · rename_i written
      obtain ⟨rfl, accepted⟩ := written
      cases present
      refine ⟨entry, found, ?_, (depicts.of_shape shape.symm).onto ?_⟩
      · rw [(row.onto_carries _).1, generation, same]
      · intro old before
        obtain ⟨entry', found', _, depicts'⟩ := faithful key old before
        rw [found] at found'
        cases found'
        exact depicts'
    · exact faithful k stored present

end RuleIndex

end ReachAudit
