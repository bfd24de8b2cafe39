import Mathlib.Data.List.TakeWhile
import ReachAudit.Text.Trim

namespace ReachAudit.Text

/-- The inner part of a text is what is left without some passing characters at its two ends, and
    no more of them can be taken away. -/
structure TrimsTo (p : Char → Bool) (text inner : List Char) : Prop where
  split : ∃ before after, (∀ c ∈ before, p c = true) ∧ (∀ c ∈ after, p c = true) ∧
    text = before ++ inner ++ after
  starts : ∀ c, inner.head? = some c → p c = false
  ends : ∀ c, inner.getLast? = some c → p c = false

variable {p : Char → Bool} {text inner : List Char}

theorem trimsTo_trimEnds (p : Char → Bool) (text : List Char) :
    TrimsTo p text (trimEnds p text) := by
  obtain ⟨after, passes, rest⟩ := trimEnd_append p (text.dropWhile p)
  refine ⟨⟨text.takeWhile p, after, fun c member => ?_, passes, ?_⟩, fun c first => ?_,
    fun c last => getLast?_trimEnd last⟩
  · exact List.all_eq_true.mp List.all_takeWhile c member
  · rw [List.append_assoc, trimEnds, ← rest, List.takeWhile_append_dropWhile]
  · have begins : (text.dropWhile p).head? = some c := by
      rw [rest, List.head?_append, ← trimEnds, first]
      rfl
    have stopped := List.head?_dropWhile_not p text
    rw [begins] at stopped
    simpa using stopped

theorem dropWhile_append_of_starts {before : List Char} (passes : ∀ c ∈ before, p c = true)
    (starts : ∀ c, inner.head? = some c → p c = false) :
    (before ++ inner).dropWhile p = inner := by
  rw [List.dropWhile_append_of_pos passes]
  cases inner with
  | nil => rfl
  | cons c cs => exact List.dropWhile_cons_of_neg (by simp [starts c rfl])

theorem TrimsTo.trimEnds_eq (trims : TrimsTo p text inner) : trimEnds p text = inner := by
  obtain ⟨⟨before, after, first, last, rfl⟩, starts, ends⟩ := trims
  cases inner with
  | nil =>
    have passes : ∀ c ∈ before ++ [] ++ after, p c = true := by
      intro c member
      rw [List.append_nil] at member
      exact (List.mem_append.mp member).elim (first c) (last c)
    rw [trimEnds, List.dropWhile_eq_nil_iff.mpr passes]
    rfl
  | cons c cs =>
    have front : (before ++ (c :: cs ++ after)).dropWhile p = c :: cs ++ after :=
      dropWhile_append_of_starts first fun c' head => starts c' head
    have back : (after.reverse ++ (c :: cs).reverse).dropWhile p = (c :: cs).reverse :=
      dropWhile_append_of_starts (fun c' member => last c' (List.mem_reverse.mp member))
        fun c' head => ends c' (List.head?_reverse ▸ head)
    rw [trimEnds, List.append_assoc, front, trimEnd, List.reverse_append, back,
      List.reverse_reverse]

theorem trimsTo_iff : TrimsTo p text inner ↔ trimEnds p text = inner := by
  constructor
  · exact TrimsTo.trimEnds_eq
  · rintro rfl
    exact trimsTo_trimEnds p text

end ReachAudit.Text
