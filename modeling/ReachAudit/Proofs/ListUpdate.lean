import Mathlib.Data.List.Forall2

namespace ReachAudit

theorem mem_set_or_eq {α : Type} {xs : List α} {i : Nat} {old new x : α}
    (found : xs[i]? = some old) (member : x ∈ xs) : x ∈ xs.set i new ∨ x = old := by
  obtain ⟨j, at_j⟩ := List.mem_iff_getElem?.mp member
  by_cases same : i = j
  · subst same
    rw [found] at at_j
    exact Or.inr (Option.some.inj at_j).symm
  · refine Or.inl (List.mem_iff_getElem?.mpr ⟨j, ?_⟩)
    rw [List.getElem?_set_ne same]
    exact at_j

theorem getElem?_set_found {α : Type} {xs : List α} {i : Nat} {old : α} (new : α)
    (found : xs[i]? = some old) : (xs.set i new)[i]? = some new :=
  List.getElem?_set_self (List.getElem?_eq_some_iff.mp found).1

theorem forall₂_set {α β : Type} {R : α → β → Prop} {xs : List α} {ys : List β}
    (related : List.Forall₂ R xs ys) {i : Nat} {x : α} (new : ∀ y, ys[i]? = some y → R x y) :
    List.Forall₂ R (xs.set i x) ys := by
  induction related generalizing i with
  | nil => exact .nil
  | cons head tail ih =>
    cases i with
    | zero => exact .cons (new _ rfl) tail
    | succ i => exact .cons head (ih fun y found => new y found)

theorem forall₂_getElem? {α β : Type} {R : α → β → Prop} {xs : List α} {ys : List β}
    (related : List.Forall₂ R xs ys) {i : Nat} {x : α} (found : xs[i]? = some x) :
    ∃ y, ys[i]? = some y ∧ R x y := by
  induction related generalizing i with
  | nil => cases found
  | cons head tail ih =>
    cases i with
    | zero => cases found; exact ⟨_, rfl, head⟩
    | succ i => exact ih found

theorem countP_set_add {α : Type} {xs : List α} {i : Nat} {old : α} (new : α) (p : α → Bool)
    (found : xs[i]? = some old) :
    (xs.set i new).countP p + (if p old then 1 else 0) = xs.countP p + if p new then 1 else 0 := by
  obtain ⟨bound, here⟩ := List.getElem?_eq_some_iff.mp found
  have counted : p old = true → 0 < xs.countP p :=
    fun passes => List.countP_pos_iff.mpr ⟨old, List.mem_of_getElem? found, passes⟩
  rw [List.countP_set bound, here]
  split
  · rename_i passes
    have := counted passes
    omega
  · omega

theorem foldr_add_set {α : Type} {xs : List α} {i : Nat} {old : α} (new : α) (f : α → Nat)
    (found : xs[i]? = some old) :
    (xs.set i new).foldr (fun x n => f x + n) 0 + f old =
      xs.foldr (fun x n => f x + n) 0 + f new := by
  induction xs generalizing i with
  | nil => cases found
  | cons x xs ih =>
    cases i with
    | zero =>
      cases found
      simp only [List.set_cons_zero, List.foldr_cons]
      omega
    | succ i =>
      have rest := ih found
      simp only [List.set_cons_succ, List.foldr_cons]
      omega

theorem filterMap_getElem?_range {α : Type} (xs : List α) :
    (List.range xs.length).filterMap (xs[·]?) = xs := by
  induction xs with
  | nil => rfl
  | cons x xs ih =>
    rw [List.length_cons, List.range_succ_eq_map, List.filterMap_cons]
    simp only [List.getElem?_cons_zero, List.filterMap_map, Function.comp_def,
      Nat.succ_eq_add_one, List.getElem?_cons_succ, ih]

theorem flatMap_modify {α β : Type} {f : α → α} {g : α → List β} (same : ∀ x, g (f x) = g x)
    (xs : List α) (i : Nat) : (xs.modify i f).flatMap g = xs.flatMap g := by
  induction xs generalizing i with
  | nil => cases i <;> rfl
  | cons x xs ih =>
    cases i with
    | zero => simp only [List.modify_zero_cons, List.flatMap_cons, same]
    | succ i => simp only [List.modify_succ_cons, List.flatMap_cons, ih]

theorem foldl_eq_add_countP {α β : Type} {f : β → Nat} {g : β → α → β} {p : α → Bool}
    (one : ∀ b x, f (g b x) = f b + if p x then 1 else 0) (xs : List α) (b : β) :
    f (xs.foldl g b) = f b + xs.countP p := by
  induction xs generalizing b with
  | nil => rfl
  | cons x xs ih =>
    rw [List.foldl_cons, ih, one, List.countP_cons]
    omega

end ReachAudit
