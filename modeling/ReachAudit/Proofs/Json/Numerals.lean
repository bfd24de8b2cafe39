import Mathlib.Data.List.Basic
import ReachAudit.Proofs.Json.Strings

namespace ReachAudit.Json.Reader

open ReachAudit.Text (Piece)

/-- A number that stands before the rest ends there. -/
def Closed (rest : List Piece) : Prop :=
  ∀ c, rest.head? = some (.char c) → c.isDigit = false ∧ c ≠ '.' ∧ c ≠ 'e' ∧ c ≠ 'E'

theorem Closed.cons {c : Char} (digit : c.isDigit = false) (mark : c ∉ ['.', 'e', 'E'])
    (rest : List Piece) : Closed (.char c :: rest) := by
  intro d head
  cases head
  simpa [digit] using mark

theorem Closed.blanks {ws : List Char} (blank : Blanks ws) {rest : List Piece}
    (closed : Closed rest) : Closed (ws.map .char ++ rest) := by
  cases ws with
  | nil => exact closed
  | cons c ws =>
    have space := blank c List.mem_cons_self
    simp only [List.mem_cons, List.not_mem_nil, or_false] at space
    rcases space with rfl | rfl | rfl | rfl <;> exact .cons (by decide) (by decide) _

theorem digits_append {cs : List Char} (all : ∀ c ∈ cs, c.isDigit = true) {rest : List Piece}
    (closed : Closed rest) : digits (cs.map .char ++ rest) = (cs, rest) := by
  induction cs with
  | nil =>
    cases rest with
    | nil => rfl
    | cons p rest =>
      cases p with
      | stray b => rfl
      | char c => simp [digits, (closed c rfl).1]
  | cons c cs ih =>
    have first := all c List.mem_cons_self
    have tail := ih fun d member => all d (List.mem_cons_of_mem c member)
    simp [digits, first, tail]

theorem eq_zero_of_head?_toDigits {n : Nat} (head : (Nat.toDigits 10 n).head? = some '0') :
    n = 0 := by
  -- All digits but the last are those of the tenth part.
  induction n using Nat.strongRecOn with
  | ind n ih =>
    rw [Nat.toDigits_eq_if (by decide)] at head
    split at head
    · exact Nat.digitChar_eq_zero.mp (Option.some.inj head)
    · rename_i long
      rw [List.head?_append_of_ne_nil _ Nat.toDigits_ne_nil] at head
      have zero := ih (n / 10) (by omega) head
      omega

theorem run_wholePart (n : Nat) {rest : List Piece} (closed : Closed rest) :
    StateT.run wholePart ((Nat.toDigits 10 n).map .char ++ rest) =
      .ok (Nat.toDigits 10 n, rest) := by
  have all : ∀ c ∈ Nat.toDigits 10 n, c.isDigit = true :=
    fun c => Nat.isDigit_of_mem_toDigits (by decide) (by decide)
  have alone : ¬ ((Nat.toDigits 10 n).head? = some '0' ∧ (Nat.toDigits 10 n).length ≠ 1) := by
    rintro ⟨head, long⟩
    rw [eq_zero_of_head?_toDigits head] at long
    exact long rfl
  have some : StateT.run someDigits ((Nat.toDigits 10 n).map .char ++ rest) =
      .ok (Nat.toDigits 10 n, rest) := by
    simp [someDigits, digits_append all closed]
  simp only [wholePart, StateT.run_bind, some, ok_bind, if_neg alone]
  rfl

theorem run_fractionPart {rest : List Piece} (closed : Closed rest) :
    StateT.run fractionPart rest = .ok ([], rest) := by
  have point : rest.head? ≠ some (.char '.') := fun head => (closed '.' head).2.1 rfl
  simp [fractionPart, point]

theorem run_exponentPart {rest : List Piece} (closed : Closed rest) :
    StateT.run exponentPart rest = .ok (none, rest) := by
  have lower : rest.head? ≠ some (.char 'e') := fun head => (closed 'e' head).2.2.1 rfl
  have upper : rest.head? ≠ some (.char 'E') := fun head => (closed 'E' head).2.2.2 rfl
  simp [exponentPart, lower, upper]

theorem exists_toDigits_eq_cons (n : Nat) :
    ∃ c cs, Nat.toDigits 10 n = c :: cs ∧ c.isDigit = true := by
  obtain ⟨c, cs, shape⟩ := List.exists_cons_of_ne_nil (Nat.toDigits_ne_nil (n := n) (b := 10))
  have member : c ∈ Nat.toDigits 10 n := shape ▸ List.mem_cons_self
  exact ⟨c, cs, shape, Nat.isDigit_of_mem_toDigits (by decide) (by decide) member⟩

theorem run_numeral_nat (n : Nat) {rest : List Piece} (closed : Closed rest) :
    StateT.run numeral ((Nat.toDigits 10 n).map .char ++ rest) =
      .ok (⟨false, Nat.toDigits 10 n, [], none⟩, rest) := by
  obtain ⟨c, cs, shape, digit⟩ := exists_toDigits_eq_cons n
  have unsigned : ((Nat.toDigits 10 n).map Piece.char ++ rest).head? ≠ some (.char '-') := by
    rw [shape]
    intro head
    cases head
    cases digit
  simp [numeral, -List.head?_append, unsigned, run_wholePart n closed, run_fractionPart closed,
    run_exponentPart closed]

theorem run_numeral_negative (n : Nat) {rest : List Piece} (closed : Closed rest) :
    StateT.run numeral (.char '-' :: ((Nat.toDigits 10 n).map .char ++ rest)) =
      .ok (⟨true, Nat.toDigits 10 n, [], none⟩, rest) := by
  simp [numeral, run_wholePart n closed, run_fractionPart closed, run_exponentPart closed]

theorem le_ofDigitChars (cs : List Char) (n : Nat) : n ≤ Nat.ofDigitChars 10 cs n := by
  induction cs generalizing n with
  | nil => exact Nat.le_refl n
  | cons c cs ih =>
    rw [Nat.ofDigitChars_cons]
    exact Nat.le_trans (by omega) (ih _)

theorem appendDigits_eq {cs : List Char} {n : Nat} (fits : Nat.ofDigitChars 10 cs n < UInt64.size) :
    appendDigits n cs = (Nat.ofDigitChars 10 cs n, []) := by
  induction cs generalizing n with
  | nil => rfl
  | cons c cs ih =>
    rw [Nat.ofDigitChars_cons, Nat.mul_comm] at fits ⊢
    have first := Nat.lt_of_le_of_lt (le_ofDigitChars cs _) fits
    rw [appendDigits, if_pos first, ih fits]

theorem appendDigits_toDigits {n : Nat} (fits : n < UInt64.size) :
    appendDigits 0 (Nat.toDigits 10 n) = (n, []) := by
  have value := Nat.ofDigitChars_ten_toDigits (n := n)
  rw [appendDigits_eq (by rwa [value]), value]

theorem value?_nat {n : Nat} (fits : n < UInt64.size) :
    Numeral.value? ⟨false, Nat.toDigits 10 n, [], none⟩ = some (.int n) := by
  simp [Numeral.value?, appendDigits_toDigits fits]

theorem value?_negative {n : Nat} (positive : 0 < n) (fits : n ≤ UInt64.size / 2) :
    Numeral.value? ⟨true, Nat.toDigits 10 n, [], none⟩ = some (.int (-n)) := by
  have unsigned : n < UInt64.size := Nat.lt_of_le_of_lt fits (by decide)
  simp [Numeral.value?, appendDigits_toDigits unsigned, positive, fits]

theorem text_ofNat (n : Nat) : (Number.int n).text = Nat.toDigits 10 n := Nat.toList_repr

theorem text_negSucc (n : Nat) :
    (Number.int (.negSucc n)).text = '-' :: Nat.toDigits 10 (n + 1) := by
  rw [Number.text, Int.repr, String.toList_append, Nat.toList_repr]
  rfl

theorem exists_text_eq_cons (n : Int) :
    ∃ c cs, (Number.int n).text = c :: cs ∧ (c = '-' ∨ c.isDigit = true) := by
  cases n with
  | ofNat n =>
    obtain ⟨c, cs, shape, digit⟩ := exists_toDigits_eq_cons n
    exact ⟨c, cs, (text_ofNat n).trans shape, Or.inr digit⟩
  | negSucc n => exact ⟨_, _, text_negSucc n, Or.inl rfl⟩

theorem run_number {n : Int} (low : -(UInt64.size / 2 : Nat) ≤ n) (high : n < UInt64.size)
    {rest : List Piece} (closed : Closed rest) :
    StateT.run number ((Number.int n).text.map .char ++ rest) = .ok (.int n, rest) := by
  cases n with
  | ofNat n =>
    have fits : n < UInt64.size := Int.ofNat_lt.mp high
    rw [Int.ofNat_eq_natCast, text_ofNat]
    simp [number, run_numeral_nat n closed, value?_nat fits]
  | negSucc n =>
    have fits : n + 1 ≤ UInt64.size / 2 := by omega
    rw [text_negSucc]
    simp [number, run_numeral_negative (n + 1) closed, value?_negative (Nat.succ_pos n) fits,
      Int.negSucc_eq]

theorem run_passNumber (n : Int) {rest : List Piece} (closed : Closed rest) :
    StateT.run passNumber ((Number.int n).text.map .char ++ rest) = .ok ((), rest) := by
  cases n with
  | ofNat n =>
    have read := run_numeral_nat n closed
    rw [Int.ofNat_eq_natCast, text_ofNat]
    simp only [StateT.run, passNumber] at read ⊢
    rw [read]
  | negSucc n =>
    have read := run_numeral_negative (n + 1) closed
    rw [text_negSucc, List.map_cons, List.cons_append]
    simp only [StateT.run, passNumber] at read ⊢
    rw [read]

end ReachAudit.Json.Reader
