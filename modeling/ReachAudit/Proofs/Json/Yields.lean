import ReachAudit.Proofs.Json.RoundTrip

namespace ReachAudit.Json

open ReachAudit.Text (Piece)

theorem mem_addMember {key : String} {value : Json} {m : String × Json}
    {members : List (String × Json)} (member : m ∈ addMember key value members) :
    m = (key, value) ∨ m ∈ members := by
  induction members with
  | nil => exact Or.inl (List.mem_singleton.mp member)
  | cons first members ih =>
    rw [addMember] at member
    split_ifs at member
    · exact List.mem_cons.mp member
    · exact (List.mem_cons.mp member).imp_right (List.mem_cons_of_mem first)
    · rcases List.mem_cons.mp member with rfl | later
      · exact Or.inr List.mem_cons_self
      · exact (ih later).imp_right (List.mem_cons_of_mem first)

theorem ordered_addMember (key : String) (value : Json) {members : List (String × Json)}
    (ordered : members.Pairwise fun a b => a.1 < b.1) :
    (addMember key value members).Pairwise fun a b => a.1 < b.1 := by
  induction members with
  | nil => exact List.pairwise_singleton _ _
  | cons first members ih =>
    obtain ⟨least, rest⟩ := List.pairwise_cons.mp ordered
    rw [addMember]
    split_ifs with below same
    · refine List.pairwise_cons.mpr ⟨fun m member => ?_, ordered⟩
      rcases List.mem_cons.mp member with rfl | later
      · exact below
      · exact String.lt_trans below (least m later)
    · exact List.pairwise_cons.mpr ⟨fun m member => same ▸ least m member, rest⟩
    · refine List.pairwise_cons.mpr ⟨fun m member => ?_, ih rest⟩
      have above : first.1 < key :=
        String.not_le.mp fun le => same (String.le_antisymm (String.not_lt.mp below) le).symm
      rcases mem_addMember member with rfl | later
      · exact above
      · exact least m later

def FitMembers (depth : Nat) (members : List (String × Json)) : Prop :=
  (members.Pairwise fun a b => a.1 < b.1) ∧ ∀ m ∈ members, m.2.Fits depth

theorem FitMembers.nil (depth : Nat) : FitMembers depth [] :=
  ⟨.nil, fun m member => by cases member⟩

theorem FitMembers.add {depth : Nat} {members : List (String × Json)}
    (fit : FitMembers depth members) (key : String) {value : Json} (fits : value.Fits depth) :
    FitMembers depth (addMember key value members) := by
  refine ⟨ordered_addMember key value fit.1, fun m member => ?_⟩
  rcases mem_addMember member with rfl | earlier
  · exact fits
  · exact fit.2 m earlier

namespace Reader

variable {α β κ σ : Type}

def Yields (r : Reader α) (p : α → Prop) : Prop :=
  ∀ input a rest, StateT.run r input = .ok (a, rest) → p a

namespace Yields

variable {r : Reader α} {p q : α → Prop}

theorem any (r : Reader α) : Yields r fun _ => True := fun _ _ _ _ => trivial

theorem pure {a : α} (passes : p a) : Yields (pure a) p := by
  intro input b rest returned
  cases returned
  exact passes

theorem fail {e : ReadError} : Yields (fail e : Reader α) p := by
  intro input a rest returned
  cases returned

theorem bind {p : β → Prop} {f : α → Reader β} (first : Yields r q)
    (next : ∀ a, q a → Yields (f a) p) : Yields (r >>= f) p := by
  intro input b rest returned
  rw [StateT.run_bind] at returned
  cases read : StateT.run r input with
  | error e =>
    rw [read] at returned
    cases returned
  | ok found =>
    rw [read] at returned
    exact next found.1 (first input found.1 found.2 read) found.2 b rest returned

theorem andThen {p : β → Prop} {f : α → Reader β} (next : ∀ a, Yields (f a) p) :
    Yields (r >>= f) p :=
  (any r).bind fun a _ => next a

theorem stop {e : ReadError} {p : β → Prop} {f : α → Reader β} :
    Yields ((Reader.fail e : Reader α) >>= f) p := by
  intro input b rest returned
  cases returned

theorem ite {c : Prop} [Decidable c] {s : Reader α} (yes : c → Yields r p) (no : ¬ c → Yields s p) :
    Yields (if c then r else s) p := by
  split
  · exact yes ‹_›
  · exact no ‹_›

theorem moreItems (item : Yields r p) (fuel : Nat) :
    Yields (moreItems r fuel) fun as => ∀ a ∈ as, p a := by
  induction fuel with
  | zero => exact .fail
  | succ fuel ih =>
    refine .andThen fun next => .ite (fun _ => ?_) fun _ => .ite (fun _ => ?_) fun _ => .fail
    · exact .andThen fun _ => .pure fun a member => by cases member
    · refine .andThen fun _ => item.bind fun first passes => ih.bind fun more others => .pure ?_
      exact List.forall_mem_cons.mpr ⟨passes, others⟩

theorem items (item : Yields r p) : Yields (Reader.items r) fun as => ∀ a ∈ as, p a := by
  refine .andThen fun input => .andThen fun next => .ite (fun _ => ?_) fun _ => ?_
  · exact .andThen fun _ => .pure fun a member => by cases member
  · refine item.bind fun first passes => (item.moreItems _).bind fun more others => .pure ?_
    exact List.forall_mem_cons.mpr ⟨passes, others⟩

variable {key : Reader κ} {step : σ → κ → Reader σ} {holds : σ → Prop}

theorem oneMember (keeps : ∀ s k, holds s → Yields (step s k) holds) {s : σ} (now : holds s) :
    Yields (oneMember key step s) holds := by
  refine .andThen fun next => .ite (fun _ => ?_) fun _ => .fail
  exact .andThen fun _ => .andThen fun k => keeps s k now

theorem moreMembers (keeps : ∀ s k, holds s → Yields (step s k) holds) (fuel : Nat) {s : σ}
    (now : holds s) : Yields (moreMembers key step fuel s) holds := by
  induction fuel generalizing s with
  | zero => exact .fail
  | succ fuel ih =>
    refine .andThen fun next => .ite (fun _ => ?_) fun _ => .ite (fun _ => ?_) fun _ => .fail
    · exact .andThen fun _ => .pure now
    · exact .andThen fun _ => (oneMember keeps now).bind fun s' after => ih after

theorem members (keeps : ∀ s k, holds s → Yields (step s k) holds) {s : σ} (now : holds s) :
    Yields (members key step s) holds := by
  refine .andThen fun input => .andThen fun next => .ite (fun _ => ?_) fun _ => ?_
  · exact .andThen fun _ => .pure now
  · exact (oneMember keeps now).bind fun s' after => moreMembers keeps _ after

end Yields

theorem appendDigits_lt {n : Nat} (small : n < UInt64.size) (cs : List Char) :
    (appendDigits n cs).1 < UInt64.size := by
  induction cs generalizing n with
  | nil => exact small
  | cons c cs ih =>
    rw [appendDigits]
    split
    · exact ih ‹_›
    · exact small

theorem inRange_of_value? {n : Numeral} {x : Number} (value : n.value? = some x) : x.InRange := by
  have small := appendDigits_lt (n := 0) (by decide) n.whole
  simp only [Numeral.value?] at value
  split at value
  · rename_i whole
    cases value
    obtain ⟨-, -, -, signed⟩ := whole
    rcases signed with positive | negative
    · simp only [positive, Number.InRange, Bool.false_eq_true, if_false]
      omega
    · simp only [Number.InRange]
      split <;> omega
  · obtain ⟨b, _, rfl⟩ := Option.map_eq_some_iff.mp value
    trivial

theorem yields_number : Yields number Number.InRange := by
  refine .andThen fun n => ?_
  cases value : n.value? with
  | some x => exact .pure (inRange_of_value? value)
  | none => exact .fail

theorem yields_scalar (p : Piece) (depth : Nat) : Yields (scalar p) (Fits depth) := by
  unfold scalar
  split
  · exact .andThen fun _ => .andThen fun _ => .pure .null
  · exact .andThen fun _ => .andThen fun _ => .pure (.bool true)
  · exact .andThen fun _ => .andThen fun _ => .pure (.bool false)
  · exact .andThen fun _ => .andThen fun s => .pure (.string s)
  · refine .ite (fun _ => ?_) fun _ => .fail
    exact yields_number.bind fun n range => .pure (.number range)
  · exact .fail

theorem yields_value (depth : Nat) : Yields (value depth) (Fits depth) := by
  induction depth with
  | zero => exact .andThen fun p => .ite (fun _ => .fail) fun _ => yields_scalar p 0
  | succ depth ih =>
    refine .andThen fun p => .ite (fun _ => ?_) fun _ => .ite (fun _ => ?_) fun _ => yields_scalar p _
    · exact .andThen fun _ => ih.items.bind fun items fit => .pure (.array fit)
    · have keeps : ∀ sorted key, FitMembers depth sorted →
          Yields (do colon; return addMember key (← value depth) sorted) (FitMembers depth) :=
        fun sorted key fit => .andThen fun _ => ih.bind fun j fits => .pure (fit.add key fits)
      refine .andThen fun _ => (Yields.members keeps (.nil depth)).bind fun members fit => ?_
      exact .pure (.object fit.1 fit.2)

end Reader

end ReachAudit.Json
