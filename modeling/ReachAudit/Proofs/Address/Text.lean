import ReachAudit.Address.Ipv6

namespace ReachAudit

def Ipv4.dotted (bits : Nat) : String :=
  ".".intercalate
    ([bits / 16777216 % 256, bits / 65536 % 256, bits / 256 % 256, bits % 256].map Nat.repr)

theorem Ipv4.display_eq_dotted (a : Ipv4) : a.display = dotted a.bits.toNat := by
  have last : a.bits.toNat / Nat.pow 256 0 % 256 = a.bits.toNat % 256 := by
    change a.bits.toNat / 1 % 256 = _
    rw [Nat.div_one]
  rw [dotted, ← last]
  rfl

namespace Ipv6

def colons (groups : List Nat) : String :=
  ":".intercalate (groups.map fun g => String.ofList (Nat.toDigits 16 g))

def zerosFrom (groups : List Nat) (i : Nat) : Nat := ((groups.drop i).takeWhile (· = 0)).length

/-- Groups in base sixteen between colons, without the first longest run of at least two zeros. -/
inductive Spelled (groups : List Nat) : String → Prop where
  | whole (short : ∀ i, zerosFrom groups i < 2) : Spelled groups (colons groups)
  | shortened {start : Nat} (long : 2 ≤ zerosFrom groups start)
      (longest : ∀ i, zerosFrom groups i ≤ zerosFrom groups start)
      (first : ∀ i < start, zerosFrom groups i < zerosFrom groups start) :
      Spelled groups (colons (groups.take start) ++ "::" ++
        colons (groups.drop (start + zerosFrom groups start)))

variable {groups : List Nat}

theorem Spelled.unique {s t : String} (hs : Spelled groups s) (ht : Spelled groups t) : s = t := by
  cases hs with
  | whole short =>
    cases ht with
    | whole => rfl
    | shortened long => exact absurd long (Nat.not_le.mpr (short _))
  | @shortened i long longest first =>
    cases ht with
    | whole short => exact absurd long (Nat.not_le.mpr (short _))
    | @shortened j _ longest' first' =>
      rcases Nat.lt_trichotomy i j with below | rfl | above
      · exact absurd (longest j) (Nat.not_le.mpr (first' i below))
      · rfl
      · exact absurd (longest' i) (Nat.not_le.mpr (first j above))

/-- The best of the runs that start before `n`. -/
structure FirstLongest (groups : List Nat) (n : Nat) (best : Nat × Nat) : Prop where
  found : best.2 = 0 ∨ best.2 = zerosFrom groups best.1
  longest : ∀ i < n, zerosFrom groups i ≤ best.2
  first : ∀ i < best.1, zerosFrom groups i < best.2

theorem FirstLongest.next {n : Nat} {best : Nat × Nat} (before : FirstLongest groups n best) :
    FirstLongest groups (n + 1)
      (if best.2 < zerosFrom groups n then (n, zerosFrom groups n) else best) := by
  split
  · rename_i longer
    refine ⟨.inr rfl, ?_, fun i below => Nat.lt_of_le_of_lt (before.longest i below) longer⟩
    intro i below
    rcases Nat.lt_succ_iff_lt_or_eq.mp below with below | rfl
    · exact Nat.le_of_lt (Nat.lt_of_le_of_lt (before.longest i below) longer)
    · exact Nat.le_refl _
  · rename_i shorter
    refine ⟨before.found, ?_, before.first⟩
    intro i below
    rcases Nat.lt_succ_iff_lt_or_eq.mp below with below | rfl
    · exact before.longest i below
    · exact Nat.not_lt.mp shorter

theorem firstLongest_longestZeros (groups : List Nat) :
    FirstLongest groups groups.length (longestZeros groups) := by
  unfold longestZeros
  generalize groups.length = n
  induction n with
  | zero => exact ⟨.inl rfl, nofun, nofun⟩
  | succ n ih =>
    rw [List.range_succ, List.foldl_append]
    exact ih.next

theorem spelled_compressed (a : Ipv6) :
    Spelled (a.groups.toList.map UInt16.toNat) a.compressed := by
  have best := firstLongest_longestZeros a.toList
  cases chosen : longestZeros a.toList with
  | mk start run =>
    rw [chosen] at best
    have longest (i : Nat) : zerosFrom a.toList i ≤ run := by
      rcases Nat.lt_or_ge i a.toList.length with inside | beyond
      · exact best.longest i inside
      · rw [zerosFrom, List.drop_of_length_le beyond]
        exact Nat.zero_le run
    simp only [compressed, chosen]
    split
    · rename_i short
      exact .whole fun i => Nat.lt_of_le_of_lt (longest i) short
    · rename_i long
      have found : run = zerosFrom a.toList start := best.found.resolve_left (by omega)
      have first : ∀ i < start, zerosFrom a.toList i < run := best.first
      subst found
      exact .shortened (Nat.not_lt.mp long) longest first

end Ipv6

end ReachAudit
