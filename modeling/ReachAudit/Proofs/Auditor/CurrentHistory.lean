import ReachAudit.Proofs.Auditor.Tracking

namespace ReachAudit

open History (Key Row Store)

variable {τ : Type}

theorem RuleIndex.absent_changed {index next : RuleIndex τ} {action : Action τ} {id : RuleId}
    (absent : index.rules.get? id = none) (changed : action.Changed index next)
    (other : ∀ now rule, action ≠ .apply now id rule) : next.rules.get? id = none := by
  cases changed with
  | applied now arrived rule _ same arrival =>
    have apart : arrived ≠ id := fun own => other now rule (own ▸ same)
    cases arrival with
    | unchanged known found equal => exact absent
    | _ => rw [Table.get?_insert, if_neg apart]; exact absent
  | deleted gone _ same removal =>
    cases removal with
    | ignored missing => exact absent
    | removed known found =>
      rw [Table.get?_erase]
      split
      · rfl
      · exact absent
  | written history quiet generation placed => exact absent

namespace World

theorem absent_delete (w : World τ) (id : RuleId) :
    (w.take (.delete id)).auditor.rules.rules.get? id = none := by
  change (w.auditor.rules.delete id).rules.get? id = none
  have removal := RuleIndex.deleted_delete id w.auditor.rules
  generalize w.auditor.rules.delete id = next at removal ⊢
  cases removal with
  | ignored absent => exact absent
  | removed known found => rw [Table.get?_erase, if_pos rfl]

theorem absent_run {w : World τ} {id : RuleId} {after : List (Action τ)}
    (absent : w.auditor.rules.rules.get? id = none)
    (other : ∀ now rule, .apply now id rule ∉ after) :
    (w.run after).auditor.rules.rules.get? id = none := by
  induction after generalizing w with
  | nil => exact absent
  | cons action after ih =>
    apply ih
    · apply RuleIndex.absent_changed absent (w.changed_take action)
      intro now rule same
      exact other now rule (same ▸ List.mem_cons_self)
    · intro now rule member
      exact other now rule (List.mem_cons_of_mem _ member)

theorem Tracked.run {w : World τ} {time : Nat} {v : RuleVersion} (sound : w.Sound)
    (tracked : w.Tracked time v) (after : List (Action τ)) : (w.run after).Tracked time v := by
  have both := run_keeps (fun w => w.Sound ∧ w.Tracked time v)
    (fun _ action here => ⟨here.1.take action, here.2.take here.1.synced action⟩) w after
    ⟨sound, tracked⟩
  exact both.2

theorem tracked_version? {w : World τ} {v : RuleVersion}
    (found : w.auditor.rules.version? v.id = some v) : w.Tracked w.past.length v := by
  obtain ⟨entry, present, same⟩ := Option.map_eq_some_iff.mp found
  have undisturbed : ¬ w.Disturbed w.past.length v := by
    intro disturbed
    obtain ⟨action, member, _⟩ := disturbed
    simp at member
  refine ⟨Nat.le_refl _, fun disturbed => absurd disturbed undisturbed, fun _ => ?_⟩
  exact ⟨entry, present, by rw [← same], by rw [← same]⟩

theorem Sound.entry_of_holds {w : World τ} (sound : w.Sound) {key : Key} {row : Row τ}
    (stored : w.auditor.history.Holds key row) :
    ∃ entry, w.auditor.rules.rules.get? key.rule = some entry ∧
      row.generation = entry.generation ∧
      entry.generation = w.auditor.history.generation key.rule ∧ entry.rule.Depicts key row := by
  obtain ⟨entry, found, generation, depicts⟩ :=
    sound.faithful key row (sound.synced.placed.holds_iff.mp stored)
  exact ⟨entry, found, generation, sound.synced.generation key.rule entry found, depicts⟩

theorem Sound.byRule_of_absent {w : World τ} (sound : w.Sound) {id : RuleId}
    (absent : w.auditor.rules.rules.get? id = none) : w.auditor.history.byRule id = [] := by
  rw [List.eq_nil_iff_forall_not_mem]
  intro e member
  obtain ⟨key, row⟩ := e
  obtain ⟨stored, own⟩ := Store.mem_byRule.mp member
  obtain ⟨entry, found, _⟩ := sound.entry_of_holds stored
  rw [own, absent] at found
  cases found

theorem Sound.later_of_disturbed {w : World τ} (sound : w.Sound) {time : Nat} {v : RuleVersion}
    (tracked : w.Tracked time v) (disturbed : w.Disturbed time v) {key : Key} {row : Row τ}
    (member : (key, row) ∈ w.auditor.history.byRule v.id) : v.generation < row.generation := by
  obtain ⟨stored, own⟩ := Store.mem_byRule.mp member
  obtain ⟨entry, _, generation, present, _⟩ := sound.entry_of_holds stored
  have past : v.generation < w.auditor.history.generation v.id := tracked.superseded disturbed
  rw [generation, present, own]
  exact past

/-- History only ever describes the rules as they are: every row is of a present rule, of its
    present generation and of one of its present destinations. A rule that was deleted has no rows
    until it is applied again, and what was recorded for a version that was disturbed since is
    gone. -/
theorem history_describes_current_rules (hash : Key → Nat) (shards limit : Nat)
    (actions : List (Action τ)) :
    let start : World τ := new hash shards limit
    let w := start.run actions
    (∀ key row, (key, row) ∈ w.auditor.history.all →
      ∃ entry, w.auditor.rules.rules.get? key.rule = some entry ∧
        row.generation = entry.generation ∧
        entry.generation = w.auditor.history.generation key.rule ∧
        key.address ∈ entry.rule.addresses ∧
        (if entry.rule.proxied then key.port = none
          else ∃ specifier ∈ entry.rule.ports, key.port = some specifier) ∧
        row.proxied = entry.rule.proxied ∧
        (row.message.isSome = true ↔ row.status = .error)) ∧
    (∀ before after id, actions = before ++ .delete id :: after →
      (∀ now rule, .apply now id rule ∉ after) → w.auditor.history.byRule id = []) ∧
    ∀ before after v, actions = before ++ after →
      (start.run before).auditor.rules.version? v.id = some v →
      (∃ action ∈ after, action.Disturbs v) →
      ∀ key row, (key, row) ∈ w.auditor.history.byRule v.id → v.generation < row.generation := by
  intro start w
  have initial : start.Sound := Sound.new hash shards limit
  have sound : w.Sound := initial.run actions
  refine ⟨?_, ?_, ?_⟩
  · intro key row member
    obtain ⟨entry, found, generation, present, depicts⟩ :=
      sound.entry_of_holds (Store.mem_all.mp member)
    exact ⟨entry, found, generation, present, depicts.covered.1, depicts.covered.2,
      depicts.proxied, depicts.message⟩
  · intro before after id split other
    have absent : w.auditor.rules.rules.get? id = none := by
      change (start.run actions).auditor.rules.rules.get? id = none
      rw [split, run_append]
      exact absent_run (w := (start.run before).take (.delete id)) (absent_delete _ id) other
    exact sound.byRule_of_absent absent
  · intro before after v split version disturbs key row member
    have earlier : (start.run before).past = before := past_run start before
    have tracked : w.Tracked before.length v := by
      have here := tracked_version? version
      rw [earlier] at here
      change (start.run actions).Tracked before.length v
      rw [split, run_append]
      exact here.run (initial.run before) after
    have disturbed : w.Disturbed before.length v := by
      have whole : w.past = before ++ after := (past_run start actions).trans split
      obtain ⟨action, within, does⟩ := disturbs
      exact ⟨action, by rw [whole, List.drop_left]; exact within, does⟩
    exact sound.later_of_disturbed tracked disturbed member

end World

end ReachAudit
