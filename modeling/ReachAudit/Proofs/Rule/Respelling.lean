import Mathlib.Data.List.Dedup
import Mathlib.Logic.Relation
import ReachAudit.Proofs.Rule.Shape

namespace ReachAudit

/-- The entries come in another order, or one of them is listed once more. -/
inductive Respelling : List String → List String → Prop where
  | reordered {xs ys : List String} (perm : xs.Perm ys) : Respelling xs ys
  | repeated {xs : List String} (x : String) (member : x ∈ xs) : Respelling xs (x :: xs)

/-- Two lists that reordering and repeating entries, and taking repetitions back, lead from one to
    the other. -/
def Respelled : List String → List String → Prop := Relation.EqvGen Respelling

namespace Respelled

variable {xs ys : List String}

theorem mem_iff (respelled : Respelled xs ys) (x : String) : x ∈ xs ↔ x ∈ ys := by
  induction respelled with
  | rel xs ys step =>
    cases step with
    | reordered perm => exact perm.mem_iff
    | repeated y member =>
      rw [List.mem_cons]
      constructor
      · exact Or.inr
      · rintro (rfl | other)
        · exact member
        · exact other
  | refl xs => rfl
  | symm _ _ _ ih => exact ih.symm
  | trans _ _ _ _ _ first second => exact first.trans second

theorem cons (respelled : Respelled xs ys) (x : String) : Respelled (x :: xs) (x :: ys) := by
  induction respelled with
  | rel xs ys step =>
    cases step with
    | reordered perm => exact .rel _ _ (.reordered (perm.cons x))
    | repeated y member =>
      have again : Respelled (x :: xs) (y :: x :: xs) :=
        .rel _ _ (.repeated y (List.mem_cons_of_mem x member))
      exact .trans _ _ _ again (.rel _ _ (.reordered (List.Perm.swap x y xs)))
  | refl xs => exact .refl _
  | symm _ _ _ ih => exact .symm _ _ ih
  | trans _ _ _ _ _ first second => exact .trans _ _ _ first second

theorem dedup (xs : List String) : Respelled xs xs.dedup := by
  induction xs with
  | nil => exact .refl _
  | cons x xs ih =>
    by_cases member : x ∈ xs
    · rw [List.dedup_cons_of_mem member]
      exact .trans _ _ _ (.symm _ _ (.rel _ _ (.repeated x member))) ih
    · rw [List.dedup_cons_of_notMem member]
      exact ih.cons x

theorem of_mem_iff (same : ∀ x, x ∈ xs ↔ x ∈ ys) : Respelled xs ys := by
  have perm : xs.dedup.Perm ys.dedup := by
    rw [List.perm_ext_iff_of_nodup xs.nodup_dedup ys.nodup_dedup]
    intro x
    rw [List.mem_dedup, List.mem_dedup, same]
  have middle : Respelled xs.dedup ys.dedup := .rel _ _ (.reordered perm)
  exact .trans _ _ _ (dedup xs) (.trans _ _ _ middle (.symm _ _ (dedup ys)))

end Respelled

theorem sameMembers_iff_respelled {xs ys : List String} :
    sameMembers xs ys = true ↔ Respelled xs ys := by
  rw [sameMembers_iff]
  exact ⟨Respelled.of_mem_iff, Respelled.mem_iff⟩

namespace Rule

/-- Two rules that differ in the order and the repetition of their entries, in their activity and
    in their metadata, and in nothing else. -/
structure Rewritten (a b : Rule) : Prop where
  proxied : a.proxied = b.proxied
  roles : Respelled a.roles b.roles
  addresses : Respelled a.addresses b.addresses
  ports : Respelled a.ports b.ports

variable {a b c : Rule}

theorem sameShape_iff_rewritten : a.sameShape b = true ↔ a.Rewritten b := by
  simp only [sameShape, Bool.and_eq_true, beq_iff_eq, sameMembers_iff_respelled]
  constructor
  · intro same
    obtain ⟨⟨⟨proxied, roles⟩, addresses⟩, ports⟩ := same
    exact ⟨proxied, roles, addresses, ports⟩
  · intro rewritten
    exact ⟨⟨⟨rewritten.proxied, rewritten.roles⟩, rewritten.addresses⟩, rewritten.ports⟩

theorem equivalence_sameShape : Equivalence fun a b : Rule => a.sameShape b = true where
  refl := sameShape_refl
  symm same := sameShape_iff.mpr (sameShape_iff.mp same).symm
  trans first second := sameShape_iff.mpr ((sameShape_iff.mp first).trans (sameShape_iff.mp second))

theorem Rewritten.sameShape_eq (rewritten : a.Rewritten b) (c : Rule) :
    a.sameShape c = b.sameShape c ∧ c.sameShape a = c.sameShape b := by
  have shape : a.shape = b.shape := sameShape_iff.mp (sameShape_iff_rewritten.mpr rewritten)
  constructor
  · rw [Bool.eq_iff_iff, sameShape_iff, sameShape_iff, shape]
  · rw [Bool.eq_iff_iff, sameShape_iff, sameShape_iff, shape]

theorem matchesRoles_of_shape (same : a.shape = b.shape) (roles : List String) :
    a.matchesRoles roles = b.matchesRoles roles := by
  have listed : a.roles.toFinset = b.roles.toFinset := congrArg Shape.roles same
  rw [Finset.ext_iff] at listed
  simp only [List.mem_toFinset] at listed
  rw [Bool.eq_iff_iff, matchesRoles_iff, matchesRoles_iff]
  simp only [listed]

theorem covers_of_shape_iff (same : a.shape = b.shape) {address : String} {port : Option String} :
    a.Covers address port ↔ b.Covers address port :=
  ⟨fun covers => covers.of_shape same, fun covers => covers.of_shape same.symm⟩

end Rule

end ReachAudit
