import Mathlib.Data.List.Nodup
import Mathlib.Tactic.SplitIfs
import ReachAudit.Json.Value

namespace ReachAudit.Json

variable {members : List (String × Json)} {key : String} {j : Json}

theorem member?_object (members : List (String × Json)) (key : String) :
    (object members).member? key = (members.find? (·.1 = key)).map Prod.snd := rfl

theorem member?_eq_some_iff (distinct : (members.map Prod.fst).Nodup) :
    (object members).member? key = some j ↔ (key, j) ∈ members := by
  rw [member?_object, Option.map_eq_some_iff]
  constructor
  · rintro ⟨m, found, rfl⟩
    have own : m.1 = key := by simpa using List.find?_some found
    exact own ▸ List.mem_of_find?_eq_some found
  · intro member
    have present : (members.find? (·.1 = key)).isSome := List.find?_isSome.mpr ⟨_, member, by simp⟩
    obtain ⟨m, found⟩ := Option.isSome_iff_exists.mp present
    have own : m.1 = key := by simpa using List.find?_some found
    have same : m = (key, j) :=
      List.inj_on_of_nodup_map distinct (List.mem_of_find?_eq_some found) member own
    exact ⟨m, found, congrArg Prod.snd same⟩

theorem member?_eq_none (missing : key ∉ members.map Prod.fst) :
    (object members).member? key = none := by
  rw [member?_object, Option.map_eq_none_iff, List.find?_eq_none]
  intro m member own
  have same : m.1 = key := by simpa using own
  exact missing (same ▸ List.mem_map_of_mem member)

theorem member?_perm {others : List (String × Json)} (same : others.Perm members)
    (distinct : (members.map Prod.fst).Nodup) :
    (object others).member? key = (object members).member? key := by
  ext j
  have distinct' : (others.map Prod.fst).Nodup := (same.map _).nodup_iff.mpr distinct
  rw [member?_eq_some_iff distinct', member?_eq_some_iff distinct, same.mem_iff]

theorem member?_concat (members : List (String × Json)) (m : String × Json) (key : String) :
    (object (members ++ [m])).member? key =
      ((object members).member? key).or (if m.1 = key then some m.2 else none) := by
  rw [member?_object, member?_object, List.find?_append]
  cases members.find? (·.1 = key) with
  | some found => rfl
  | none => by_cases own : m.1 = key <;> simp [own]

theorem addMember_perm (missing : key ∉ members.map Prod.fst) (value : Json) :
    (addMember key value members).Perm ((key, value) :: members) := by
  induction members with
  | nil => exact .rfl
  | cons first members ih =>
    rw [List.map_cons, List.mem_cons, not_or] at missing
    rw [addMember]
    split_ifs with below same
    · exact .rfl
    · exact absurd same missing.1
    · exact ((ih missing.2).cons first).trans (.swap ..)

theorem foldl_addMember_perm (before : List (String × Json))
    (distinct : ((before ++ members).map Prod.fst).Nodup) :
    (members.foldl (fun sorted m => addMember m.1 m.2 sorted) before).Perm (before ++ members) := by
  induction members generalizing before with
  | nil => simp
  | cons m members ih =>
    have missing : m.1 ∉ before.map Prod.fst := by
      rw [List.map_append, List.nodup_append] at distinct
      exact fun member => distinct.2.2 _ member m.1 List.mem_cons_self rfl
    have moved : (addMember m.1 m.2 before ++ members).Perm (before ++ m :: members) :=
      ((addMember_perm missing m.2).append_right members).trans List.perm_middle.symm
    exact (ih _ ((moved.map _).nodup_iff.mpr distinct)).trans moved

theorem exists_ofMembers (distinct : (members.map Prod.fst).Nodup) :
    ∃ sorted, ofMembers members = .object sorted ∧ sorted.Perm members :=
  ⟨_, rfl, foldl_addMember_perm [] distinct⟩

end ReachAudit.Json
