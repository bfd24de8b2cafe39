import ReachAudit.Text.Utf8

namespace ReachAudit.Text.Piece

variable {bytes : ByteArray} {i : Nat}

theorem ofBytesFrom_of_decoded {c : Char} (decoded : bytes.utf8DecodeChar? i = some c) :
    ofBytesFrom bytes i = .char c :: ofBytesFrom bytes (i + c.utf8Size) := by
  have bound := ByteArray.lt_size_of_isSome_utf8DecodeChar? (Option.isSome_of_eq_some decoded)
  rw [ofBytesFrom, dif_pos bound, decoded]

theorem ofBytesFrom_of_stray (bound : i < bytes.size)
    (stray : bytes.utf8DecodeChar? i = none) :
    ofBytesFrom bytes i = .stray bytes[i] :: ofBytesFrom bytes (i + 1) := by
  rw [ofBytesFrom, dif_pos bound, stray]

theorem ofBytesFrom_of_le (stop : bytes.size ≤ i) : ofBytesFrom bytes i = [] := by
  rw [ofBytesFrom, dif_neg (Nat.not_lt.mpr stop)]

theorem utf8DecodeChar?_extract (bytes : ByteArray) (i j : Nat) :
    (bytes.extract i bytes.size).utf8DecodeChar? j = bytes.utf8DecodeChar? (i + j) := by
  have stop : min (i + (bytes.extract i bytes.size).size) bytes.size = bytes.size := by
    rw [ByteArray.size_extract]
    omega
  rw [ByteArray.utf8DecodeChar?_eq_utf8DecodeChar?_extract, ByteArray.extract_extract, stop,
    ← ByteArray.utf8DecodeChar?_eq_utf8DecodeChar?_extract]

theorem ofBytesFrom_extract (inside : i ≤ bytes.size) (j : Nat) :
    ofBytesFrom (bytes.extract i bytes.size) j = ofBytesFrom bytes (i + j) := by
  have size : (bytes.extract i bytes.size).size = bytes.size - i := by
    rw [ByteArray.size_extract, Nat.min_self]
  induction j using ofBytesFrom.induct (bytes.extract i bytes.size) with
  | case1 j bound c decoded ih =>
    rw [ofBytesFrom_of_decoded decoded, ih]
    rw [utf8DecodeChar?_extract] at decoded
    rw [ofBytesFrom_of_decoded decoded, Nat.add_assoc]
  | case2 j bound stray ih =>
    rw [ofBytesFrom_of_stray bound stray, ih, ByteArray.getElem_extract]
    rw [utf8DecodeChar?_extract] at stray
    rw [ofBytesFrom_of_stray (by omega) stray, Nat.add_assoc]
  | case3 j stop => rw [ofBytesFrom_of_le (by omega), ofBytesFrom_of_le (by omega)]

theorem ofBytes_of_decoded {c : Char} (decoded : bytes.utf8DecodeChar? 0 = some c) :
    ofBytes bytes = .char c :: ofBytes (bytes.extract c.utf8Size bytes.size) := by
  have inside := ByteArray.le_size_of_utf8DecodeChar?_eq_some decoded
  rw [ofBytes, ofBytesFrom_of_decoded decoded, ofBytes, ofBytesFrom_extract (by omega),
    Nat.zero_add, Nat.add_zero]

theorem size_utf8Encode_singleton (c : Char) : [c].utf8Encode.size = c.utf8Size := by
  rw [List.utf8Encode_singleton, List.size_toByteArray, String.length_utf8EncodeChar]

theorem ofBytes_append (cs : List Char) (rest : ByteArray) :
    ofBytes (cs.utf8Encode ++ rest) = cs.map .char ++ ofBytes rest := by
  induction cs with
  | nil => rw [List.utf8Encode_nil, ByteArray.empty_append]; rfl
  | cons c cs ih =>
    have decoded := List.utf8DecodeChar?_utf8Encode_singleton_append (c := c)
      (b := cs.utf8Encode ++ rest)
    have others : ([c].utf8Encode ++ (cs.utf8Encode ++ rest)).extract c.utf8Size
        ([c].utf8Encode ++ (cs.utf8Encode ++ rest)).size = cs.utf8Encode ++ rest :=
      ByteArray.extract_append_eq_right (size_utf8Encode_singleton c).symm ByteArray.size_append
    rw [List.utf8Encode_cons, ByteArray.append_assoc, ofBytes_of_decoded decoded, others, ih]
    rfl

theorem ofBytes_toUTF8 (s : String) : ofBytes s.toUTF8 = s.toList.map .char := by
  have whole := ofBytes_append s.toList .empty
  have nothing : ofBytes .empty = [] := ofBytesFrom_of_le (Nat.le_refl 0)
  rwa [ByteArray.append_empty, String.utf8Encode_toList, nothing, List.append_nil] at whole

theorem eq_utf8Encode_of_ofBytes {cs : List Char} (read : ofBytes bytes = cs.map .char) :
    bytes = cs.utf8Encode := by
  induction cs generalizing bytes with
  | nil =>
    rcases Nat.eq_zero_or_pos bytes.size with empty | bound
    · rw [List.utf8Encode_nil]
      exact ByteArray.size_eq_zero_iff.mp empty
    · rw [ofBytes, ofBytesFrom, dif_pos bound] at read
      split at read <;> cases read
  | cons c cs ih =>
    cases decoded : bytes.utf8DecodeChar? 0 with
    | some d =>
      rw [ofBytes_of_decoded decoded, List.map_cons, List.cons.injEq] at read
      obtain ⟨first, others⟩ := read
      cases first
      rw [List.utf8Encode_cons, ← ih others, List.utf8Encode_singleton]
      exact ByteArray.eq_of_utf8DecodeChar?_eq_some decoded
    | none =>
      rcases Nat.eq_zero_or_pos bytes.size with empty | bound
      · rw [ofBytes, ofBytesFrom_of_le (Nat.le_of_eq empty)] at read
        cases read
      · rw [ofBytes, ofBytesFrom_of_stray bound decoded] at read
        cases read

end ReachAudit.Text.Piece
