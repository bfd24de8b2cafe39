import ReachAudit.History.Row
import ReachAudit.Proofs.Text.ByteOrder

namespace ReachAudit.History.Key

open Text (utf8 BytesBefore)

/-- A key comes strictly before another. Rule, node, address and port are compared in turn by their
    bytes, and a missing port comes first. -/
inductive Precedes (a b : Key) : Prop where
  | rule (less : BytesBefore (utf8 a.rule) (utf8 b.rule))
  | node (rule : a.rule = b.rule) (less : BytesBefore (utf8 a.node) (utf8 b.node))
  | address (rule : a.rule = b.rule) (node : a.node = b.node)
    (less : BytesBefore (utf8 a.address) (utf8 b.address))
  | noPort (rule : a.rule = b.rule) (node : a.node = b.node) (address : a.address = b.address)
    (absent : a.port = none) (present : b.port.isSome = true)
  | port (rule : a.rule = b.rule) (node : a.node = b.node) (address : a.address = b.address)
    (p q : String) (first : a.port = some p) (second : b.port = some q)
    (less : BytesBefore (utf8 p) (utf8 q))

theorem string_lt_or_lt {s t : String} (different : s ≠ t) : s < t ∨ t < s := by
  rw [← String.not_le, ← String.not_le, ← Decidable.not_and_iff_not_or_not]
  intro both
  exact different (String.le_antisymm both.2 both.1)

theorem namesBefore_cons {x y : String} {xs ys : List String} :
    namesBefore (x :: xs) (y :: ys) = true ↔ x < y ∨ x = y ∧ namesBefore xs ys = true := by
  rw [namesBefore]
  by_cases same : x = y
  · subst same
    simp
  · simp [same]

theorem namesBefore_total (xs ys : List String) :
    (namesBefore xs ys || namesBefore ys xs) = true := by
  rw [Bool.or_eq_true]
  induction xs generalizing ys with
  | nil => exact Or.inl rfl
  | cons x xs ih =>
    cases ys with
    | nil => exact Or.inr rfl
    | cons y ys =>
      rw [namesBefore_cons, namesBefore_cons]
      by_cases same : x = y
      · exact (ih ys).imp (fun tail => Or.inr ⟨same, tail⟩) fun tail => Or.inr ⟨same.symm, tail⟩
      · exact (string_lt_or_lt same).imp Or.inl Or.inl

theorem namesBefore_trans {xs ys zs : List String} (first : namesBefore xs ys = true)
    (second : namesBefore ys zs = true) : namesBefore xs zs = true := by
  induction xs generalizing ys zs with
  | nil => rfl
  | cons x xs ih =>
    cases ys with
    | nil => cases first
    | cons y ys =>
      cases zs with
      | nil => cases second
      | cons z zs =>
        rw [namesBefore_cons] at first second ⊢
        rcases first with less | ⟨rfl, first⟩
        · rcases second with less' | ⟨rfl, _⟩
          · exact Or.inl (String.lt_trans less less')
          · exact Or.inl less
        · exact second.imp_right fun tail => ⟨tail.1, ih first tail.2⟩

theorem namesBefore_antisymm {xs ys : List String} (first : namesBefore xs ys = true)
    (second : namesBefore ys xs = true) : xs = ys := by
  induction xs generalizing ys with
  | nil =>
    cases ys with
    | nil => rfl
    | cons y ys => cases second
  | cons x xs ih =>
    cases ys with
    | nil => cases first
    | cons y ys =>
      rw [namesBefore_cons] at first second
      rcases first with less | ⟨rfl, first⟩
      · rcases second with less' | ⟨rfl, _⟩
        · exact absurd (String.lt_trans less less') (String.lt_irrefl x)
        · exact absurd less (String.lt_irrefl y)
      · rcases second with less | ⟨_, second⟩
        · exact absurd less (String.lt_irrefl x)
        · rw [ih first second]

theorem before_total (a b : Key) : (a.before b || b.before a) = true := namesBefore_total _ _

theorem before_trans {a b c : Key} (first : a.before b = true) (second : b.before c = true) :
    a.before c = true := namesBefore_trans first second

theorem before_antisymm {a b : Key} (first : a.before b = true) (second : b.before a = true) :
    a = b := parts_injective (namesBefore_antisymm first second)

theorem precedes_of_before {a b : Key} (before : a.before b = true) (different : a ≠ b) :
    a.Precedes b := by
  obtain ⟨rule, node, address, port⟩ := a
  obtain ⟨rule', node', address', port'⟩ := b
  simp only [Key.before, parts, namesBefore_cons, Text.lt_iff_bytesBefore] at before
  rcases before with less | ⟨rfl, less | ⟨rfl, less | ⟨rfl, ports⟩⟩⟩
  · exact .rule less
  · exact .node rfl less
  · exact .address rfl rfl less
  · cases port with
    | none =>
      cases port' with
      | none => exact absurd rfl different
      | some q => exact .noPort rfl rfl rfl rfl rfl
    | some p =>
      cases port' with
      | none => cases ports
      | some q =>
        simp only [Option.toList_some, namesBefore_cons, Text.lt_iff_bytesBefore] at ports
        rcases ports with less | ⟨rfl, _⟩
        · exact .port rfl rfl rfl p q rfl rfl less
        · exact absurd rfl different

end ReachAudit.History.Key
