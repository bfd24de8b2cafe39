namespace ReachAudit

/-- A set of names, listed in rising order of their code points. -/
structure NameSet where
  toList : List String
  rising : toList.Pairwise (· < ·)
  deriving DecidableEq, Repr

namespace NameSet

def place (a : String) : List String → List String
  | [] => [a]
  | b :: rest => if a < b then a :: b :: rest else if a = b then b :: rest else b :: place a rest

theorem mem_place {a x : String} {bs : List String} : x ∈ place a bs ↔ x = a ∨ x ∈ bs := by
  induction bs with
  | nil => simp [place]
  | cons b bs ih =>
    simp only [place]
    split
    · simp
    · split
      · rename_i same; subst same; simp
      · simp only [List.mem_cons, ih]; grind

theorem rising_place {a : String} {bs : List String} (h : bs.Pairwise (· < ·)) :
    (place a bs).Pairwise (· < ·) := by
  induction bs with
  | nil => simp [place]
  | cons b bs ih =>
    have ⟨first, rest⟩ := List.pairwise_cons.mp h
    simp only [place]
    split
    · rename_i below
      refine List.pairwise_cons.mpr ⟨fun x member => ?_, h⟩
      rcases List.mem_cons.mp member with rfl | member
      · exact below
      · exact String.lt_trans below (first x member)
    · split
      · exact h
      · rename_i notBelow different
        have above : b < a := by
          rcases String.le_total a b with hab | hba
          · exact absurd (String.le_antisymm hab (String.not_lt.mp notBelow)) different
          · exact String.not_le.mp fun hab => different (String.le_antisymm hab hba)
        refine List.pairwise_cons.mpr ⟨fun x member => ?_, ih rest⟩
        rcases mem_place.mp member with rfl | member
        · exact above
        · exact first x member

def empty : NameSet := ⟨[], .nil⟩

def insert (s : NameSet) (a : String) : NameSet := ⟨place a s.toList, rising_place s.rising⟩

def ofList (names : List String) : NameSet := names.foldl insert empty

def size (s : NameSet) : Nat := s.toList.length

instance : Membership String NameSet := ⟨fun s a => a ∈ s.toList⟩

theorem mem_insert {s : NameSet} {a x : String} : x ∈ s.insert a ↔ x = a ∨ x ∈ s := mem_place

theorem mem_foldl_insert {names : List String} {s : NameSet} {x : String} :
    x ∈ names.foldl insert s ↔ x ∈ s ∨ x ∈ names := by
  induction names generalizing s with
  | nil => simp
  | cons a names ih => rw [List.foldl_cons, ih, mem_insert]; grind

theorem mem_ofList {names : List String} {x : String} : x ∈ ofList names ↔ x ∈ names := by
  rw [ofList, mem_foldl_insert]
  have : ¬ x ∈ empty := fun h => List.not_mem_nil (show x ∈ ([] : List String) from h)
  simp [this]

end NameSet

end ReachAudit
