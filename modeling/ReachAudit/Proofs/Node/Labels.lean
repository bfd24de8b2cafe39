import Mathlib.Data.List.Sort
import ReachAudit.Node.Resource

namespace ReachAudit

theorem Table.contains_iff_mem_keys {κ α : Type} [DecidableEq κ] {t : Table κ α} {k : κ} :
    t.contains k = true ↔ k ∈ t.keys := by
  rw [Table.contains, Option.isSome_iff_ne_none, ne_eq, Table.get?_eq_none, not_not]

theorem NameSet.toList_ofList {names : List String} (rising : names.Pairwise (· < ·)) :
    (NameSet.ofList names).toList = names :=
  (NameSet.ofList names).rising.eq_of_mem_iff rising fun _ => NameSet.mem_ofList

theorem Text.lex_of_lex_append {before a b : List Char}
    (below : List.Lex (· < ·) (before ++ a) (before ++ b)) : List.Lex (· < ·) a b := by
  induction before with
  | nil => exact below
  | cons c before ih =>
    cases below with
    | cons rest => exact ih rest
    | rel less => exact absurd less (Char.lt_irrefl c)

namespace NodeResource

variable {labels : Table String String} {label label' role role' : String}

theorem role?_eq_some_iff :
    role? label = some role ↔ role ≠ "" ∧ label = roleLabelPrefix ++ role := by
  have spelled (suffix : List Char) :
      roleLabelPrefix.toList.isPrefixOf? label.toList = some suffix ↔
        label = roleLabelPrefix ++ String.ofList suffix := by
    rw [List.isPrefixOf?_eq_some_iff_append_eq, ← String.toList_inj, String.toList_append,
      String.toList_ofList, eq_comm]
  unfold role?
  constructor
  · intro found
    split at found
    · cases found
    · rename_i suffix some own
      cases found
      refine ⟨fun empty => some ?_, (spelled suffix).mp own⟩
      rwa [← String.toList_inj, String.toList_ofList] at empty
    · cases found
  · rintro ⟨named, rfl⟩
    have own := (spelled role.toList).mpr (by rw [String.ofList_toList])
    rw [own]
    cases letters : role.toList with
    | nil => exact absurd (String.toList_eq_nil_iff.mp letters) named
    | cons c cs =>
      change some (String.ofList (c :: cs)) = some role
      rw [← letters, String.ofList_toList]

theorem role?_lt (below : label < label') (own : role? label = some role)
    (own' : role? label' = some role') : role < role' := by
  obtain ⟨_, rfl⟩ := role?_eq_some_iff.mp own
  obtain ⟨_, rfl⟩ := role?_eq_some_iff.mp own'
  have letters : List.Lex (· < ·) (roleLabelPrefix ++ role).toList
      (roleLabelPrefix ++ role').toList := below
  rw [String.toList_append, String.toList_append] at letters
  exact Text.lex_of_lex_append letters

theorem rising_roles (labels : Table String String) : (roles labels).Pairwise (· < ·) := by
  apply List.Pairwise.filterMap role? ?_ (NameSet.ofList labels.keys).rising
  intro label label' below role own role' own'
  exact role?_lt below own own'

theorem mem_roles_iff :
    role ∈ roles labels ↔ role ≠ "" ∧ labels.contains (roleLabelPrefix ++ role) = true := by
  rw [roles, List.mem_filterMap, Table.contains_iff_mem_keys]
  constructor
  · rintro ⟨label, member, own⟩
    obtain ⟨named, rfl⟩ := role?_eq_some_iff.mp own
    exact ⟨named, NameSet.mem_ofList.mp member⟩
  · rintro ⟨named, member⟩
    exact ⟨_, NameSet.mem_ofList.mpr member, role?_eq_some_iff.mpr ⟨named, rfl⟩⟩

theorem roles_eq_of_contains_iff {labels' : Table String String}
    (same : ∀ role ≠ "", labels.contains (roleLabelPrefix ++ role) = true ↔
      labels'.contains (roleLabelPrefix ++ role) = true) : roles labels = roles labels' := by
  apply (rising_roles labels).eq_of_mem_iff (rising_roles labels')
  intro role
  rw [mem_roles_iff, mem_roles_iff]
  exact and_congr_right (same role)

theorem roles_insert_prefix (labels : Table String String) (value : String) :
    roles (labels.insert roleLabelPrefix value) = roles labels := by
  apply roles_eq_of_contains_iff
  intro role named
  have other : roleLabelPrefix ≠ roleLabelPrefix ++ role := by
    intro same
    have letters := congrArg String.toList same
    rw [String.toList_append, List.self_eq_append_right, String.toList_eq_nil_iff] at letters
    exact named letters
  rw [Table.contains, Table.contains, Table.get?_insert, if_neg other]

end NodeResource

end ReachAudit
