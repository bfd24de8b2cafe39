import Mathlib.Data.List.Lex

namespace ReachAudit.Text

def utf8 (s : String) : List UInt8 := s.toUTF8.data.toList

/-- The first byte in which two texts differ decides which of them comes first. -/
def BytesBefore (a b : List UInt8) : Prop := List.Lex (· < ·) a b

theorem utf8_eq_flatMap (s : String) : utf8 s = s.toList.flatMap String.utf8EncodeChar := by
  rw [utf8, String.toUTF8, ← String.utf8Encode_toList, List.utf8Encode, List.toList_data_toByteArray]

theorem lex_ofNat_cons {a b : Nat} {x y : List UInt8} (bound : b < 256) (le : a ≤ b)
    (rest : a = b → BytesBefore x y) :
    BytesBefore (UInt8.ofNat a :: x) (UInt8.ofNat b :: y) := by
  rcases Nat.lt_or_eq_of_le le with below | same
  · refine List.Lex.rel ?_
    rw [UInt8.lt_iff_toNat_lt, UInt8.toNat_ofNat', UInt8.toNat_ofNat']
    omega
  · subst same
    exact List.Lex.cons (rest rfl)

/-- Of two characters the one with the lesser code point has the lesser bytes, whatever follows. -/
theorem bytesBefore_of_lt {c d : Char} (below : c < d) (x y : List UInt8) :
    BytesBefore (String.utf8EncodeChar c ++ x) (String.utf8EncodeChar d ++ y) := by
  have less : c.val.toNat < d.val.toNat := below
  have bound : d.val.toNat < 0x110000 := by
    have valid := d.valid
    simp only [UInt32.isValidChar, Nat.isValidChar] at valid
    omega
  simp only [String.utf8EncodeChar]
  generalize c.val.toNat = m at less
  generalize d.val.toNat = n at less bound
  -- By the number of bytes. Where it differs the first bytes do.
  by_cases one : m ≤ 0x7f
  · rw [if_pos one]
    split
    · exact lex_ofNat_cons (by omega) (by omega) fun same => by omega
    · split
      · exact lex_ofNat_cons (by omega) (by omega) fun same => by omega
      · split <;> exact lex_ofNat_cons (by omega) (by omega) fun same => by omega
  · rw [if_neg one, if_neg (show ¬ n ≤ 0x7f by omega)]
    by_cases two : m ≤ 0x7ff
    · rw [if_pos two]
      split
      · exact lex_ofNat_cons (by omega) (by omega) fun high =>
          lex_ofNat_cons (by omega) (by omega) fun low => by omega
      · split <;> exact lex_ofNat_cons (by omega) (by omega) fun same => by omega
    · rw [if_neg two, if_neg (show ¬ n ≤ 0x7ff by omega)]
      by_cases three : m ≤ 0xffff
      · rw [if_pos three]
        split
        · exact lex_ofNat_cons (by omega) (by omega) fun high =>
            lex_ofNat_cons (by omega) (by omega) fun middle =>
              lex_ofNat_cons (by omega) (by omega) fun low => by omega
        · exact lex_ofNat_cons (by omega) (by omega) fun same => by omega
      · rw [if_neg three, if_neg (show ¬ n ≤ 0xffff by omega)]
        exact lex_ofNat_cons (by omega) (by omega) fun high =>
          lex_ofNat_cons (by omega) (by omega) fun upper =>
            lex_ofNat_cons (by omega) (by omega) fun lower =>
              lex_ofNat_cons (by omega) (by omega) fun low => by omega

theorem bytesBefore_flatMap {cs ds : List Char} (before : List.Lex (· < ·) cs ds) :
    BytesBefore (cs.flatMap String.utf8EncodeChar) (ds.flatMap String.utf8EncodeChar) := by
  induction before with
  | @nil d ds =>
    rw [List.flatMap_cons]
    cases bytes : String.utf8EncodeChar d with
    | nil => exact absurd bytes (String.utf8EncodeChar_ne_nil)
    | cons first rest => exact List.Lex.nil
  | cons tail ih =>
    rw [List.flatMap_cons, List.flatMap_cons]
    exact List.Lex.append_left _ ih _
  | rel below =>
    rw [List.flatMap_cons, List.flatMap_cons]
    exact bytesBefore_of_lt below _ _

theorem bytesBefore_of_string_lt {s t : String} (below : s < t) : BytesBefore (utf8 s) (utf8 t) := by
  rw [utf8_eq_flatMap, utf8_eq_flatMap]
  exact bytesBefore_flatMap below

theorem lt_iff_bytesBefore {s t : String} : s < t ↔ BytesBefore (utf8 s) (utf8 t) := by
  have asymm : ∀ a b, BytesBefore a b → ¬ BytesBefore b a :=
    (List.Lex.asymm fun a b : UInt8 => a < b).asymm
  refine ⟨bytesBefore_of_string_lt, fun before => ?_⟩
  rw [← String.not_le]
  intro le
  by_cases same : s = t
  · subst same
    exact asymm _ _ before before
  · have above : t < s := String.not_le.mp fun other => same (String.le_antisymm other le)
    exact asymm _ _ before (bytesBefore_of_string_lt above)

end ReachAudit.Text
