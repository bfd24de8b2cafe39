import Mathlib.Tactic.SplitIfs
import ReachAudit.Json.Reader
import ReachAudit.Proofs.Json.Spelling

namespace ReachAudit.Json.Reader

open ReachAudit.Text (Piece)

variable {α β : Type}

@[simp]
theorem pure_eq_ok (a : α) : (pure a : Except ReadError α) = .ok a := rfl

@[simp]
theorem ok_bind (a : α) (f : α → Except ReadError β) : (.ok a >>= f) = f a := rfl

@[simp]
theorem map_ok (f : α → β) (a : α) : f <$> (.ok a : Except ReadError α) = .ok (f a) := rfl

@[simp]
theorem run_peek (p : Piece) (rest : List Piece) :
    StateT.run peek (p :: rest) = .ok (p, p :: rest) := by
  rw [peek, StateT.run_bind, StateT.run_get]
  rfl

@[simp]
theorem run_skip (p : Piece) (rest : List Piece) :
    StateT.run skip (p :: rest) = .ok ((), rest) := by
  rw [skip, StateT.run_modify]
  rfl

theorem run_peekToken {p : Piece} (mark : isBlank p = false) (rest : List Piece) :
    StateT.run peekToken (p :: rest) = .ok (p, p :: rest) := by
  have kept : (p :: rest).dropWhile isBlank = p :: rest := by rw [List.dropWhile_cons, mark]; rfl
  simp [peekToken, blanks, kept]

theorem isBlank_of_mem {c : Char} (blank : c ∈ [' ', '\t', '\n', '\r']) :
    isBlank (.char c) = true := by
  simpa [isBlank] using blank

theorem run_blanks_append {ws : List Char} (blank : Blanks ws) (input : List Piece) :
    StateT.run blanks (ws.map .char ++ input) = StateT.run blanks input := by
  have passed : ∀ p ∈ ws.map Piece.char, isBlank p = true := by
    intro p member
    obtain ⟨c, known, rfl⟩ := List.mem_map.mp member
    exact isBlank_of_mem (blank c known)
  change Except.ok ((), (ws.map Piece.char ++ input).dropWhile isBlank) = .ok ((), _)
  rw [List.dropWhile_append_of_pos passed]

theorem run_bind_peekToken {ws : List Char} (blank : Blanks ws) (f : Piece → Reader α)
    (input : List Piece) :
    StateT.run (peekToken >>= f) (ws.map .char ++ input) = StateT.run (peekToken >>= f) input := by
  simp only [peekToken, bind_assoc, StateT.run_bind, run_blanks_append blank]

theorem run_letters (cs : List Char) (rest : List Piece) :
    StateT.run (letters cs) (cs.map .char ++ rest) = .ok ((), rest) := by
  induction cs with
  | nil => rfl
  | cons c cs ih => simpa [letters] using ih

theorem run_colon {ws : List Char} (blank : Blanks ws) (rest : List Piece) :
    StateT.run colon (ws.map .char ++ .char ':' :: rest) = .ok ((), rest) := by
  rw [colon, run_bind_peekToken blank]
  simp [run_peekToken (p := .char ':') rfl]

theorem run_hexQuad {ds : List Char} {n : Nat} (quad : Quad ds n) (rest : List Piece) :
    StateT.run hexQuad (ds.map .char ++ rest) = .ok (n, rest) := by
  obtain ⟨first, second, third, fourth⟩ := quad
  simp [hexQuad, hexValue?, first, second, third, fourth]

theorem run_untilQuote_plain {c : Char} (quote : c ≠ '"') (backslash : c ≠ '\\')
    (printed : 0x20 ≤ c.toNat) (kept : Bool) (fuel : Nat) (rest : List Piece) :
    StateT.run (untilQuote kept (fuel + 1)) (.char c :: rest) =
      (fun r => (.char c :: r.1, r.2)) <$> StateT.run (untilQuote kept fuel) rest := by
  simp [untilQuote, Nat.not_lt.mpr printed]

theorem run_untilQuote_escape {kept : Bool} {input rest : List Piece} {c : Char}
    (escape : StateT.run (escape kept) input = .ok (c, rest)) (fuel : Nat) :
    StateT.run (untilQuote kept (fuel + 1)) (.char '\\' :: input) =
      (fun r => (.char c :: r.1, r.2)) <$> StateT.run (untilQuote kept fuel) rest := by
  simp [untilQuote, escape]

theorem run_escape_short {e c : Char} (pair : (e, c) ∈ shortEscapes) (kept : Bool)
    (rest : List Piece) : StateT.run (escape kept) (.char e :: rest) = .ok (c, rest) := by
  simp only [shortEscapes, List.mem_cons, Prod.mk.injEq, List.not_mem_nil, or_false] at pair
  rcases pair with ⟨rfl, rfl⟩ | ⟨rfl, rfl⟩ | ⟨rfl, rfl⟩ | ⟨rfl, rfl⟩ | ⟨rfl, rfl⟩ | ⟨rfl, rfl⟩ |
    ⟨rfl, rfl⟩ | ⟨rfl, rfl⟩ <;> rfl

theorem not_surrogate (c : Char) : ¬ (0xd800 ≤ c.toNat ∧ c.toNat ≤ 0xdfff) := by
  have valid : c.toNat < 0xd800 ∨ 0xdfff < c.toNat ∧ c.toNat < 0x110000 := c.valid
  omega

theorem run_escape_code {ds : List Char} {c : Char} (quad : Quad ds c.toNat) (kept : Bool)
    (rest : List Piece) :
    StateT.run (escape kept) (.char 'u' :: (ds.map .char ++ rest)) = .ok (c, rest) := by
  have code := run_hexQuad quad rest
  have whole := not_surrogate c
  have high : ¬ (0xd800 ≤ c.toNat ∧ c.toNat ≤ 0xdbff) := by omega
  have low : ¬ (0xdc00 ≤ c.toNat ∧ c.toNat ≤ 0xdfff) := by omega
  simp [escape, code, high, low]

theorem run_escape_half {ds : List Char} {n : Nat} (quad : Quad ds n) (rest : List Piece) :
    StateT.run (escape false) (.char 'u' :: (ds.map .char ++ rest)) = .ok (Char.ofNat n, rest) := by
  have code := run_hexQuad quad rest
  simp [escape, code]

theorem run_escape_halves {ds es : List Char} {high low : Nat} {c : Char} (first : Quad ds high)
    (second : Quad es low) (isHigh : 0xd800 ≤ high ∧ high ≤ 0xdbff)
    (isLow : 0xdc00 ≤ low ∧ low ≤ 0xdfff)
    (value : c.toNat = 0x10000 + (high - 0xd800) * 0x400 + (low - 0xdc00)) (rest : List Piece) :
    StateT.run (escape true)
      (.char 'u' :: (ds.map .char ++ .char '\\' :: .char 'u' :: (es.map .char ++ rest))) =
        .ok (c, rest) := by
  have upper := run_hexQuad first (.char '\\' :: .char 'u' :: (es.map .char ++ rest))
  have lower := run_hexQuad second rest
  simp [escape, lowSurrogate, upper, lower, isHigh, isLow, ← value]

/-- What stands for a character is read in one round, or in two where the halves of a pair are only
    passed over. -/
theorem exists_run_untilQuote_char {text : List Char} {c : Char} (spelling : CharSpelling text c)
    (kept : Bool) :
    ∃ rounds ps, rounds ≤ text.length ∧ (kept = true → ps = [.char c]) ∧ ∀ fuel rest,
      StateT.run (untilQuote kept (fuel + rounds)) (text.map .char ++ rest) =
        (fun r => (ps ++ r.1, r.2)) <$> StateT.run (untilQuote kept fuel) rest := by
  cases spelling with
  | plain quote backslash printed =>
    exact ⟨1, [.char c], Nat.le_refl _, fun _ => rfl,
      run_untilQuote_plain quote backslash printed kept⟩
  | short pair =>
    exact ⟨1, [.char c], Nat.succ_pos _, fun _ => rfl, fun fuel rest =>
      run_untilQuote_escape (run_escape_short pair kept rest) fuel⟩
  | code quad =>
    exact ⟨1, [.char c], Nat.succ_pos _, fun _ => rfl, fun fuel rest =>
      run_untilQuote_escape (run_escape_code quad kept rest) fuel⟩
  | @halves ds es high low _ first second isHigh isLow value =>
    cases kept with
    | true =>
      refine ⟨1, [.char c], Nat.succ_pos _, fun _ => rfl, fun fuel rest => ?_⟩
      have pair := run_escape_halves first second isHigh isLow value rest
      simpa using run_untilQuote_escape pair fuel
    | false =>
      refine ⟨2, [.char (Char.ofNat high), .char (Char.ofNat low)], ?_, nofun,
        fun fuel rest => ?_⟩
      · simp only [List.length_cons]
        omega
      · have upper := run_escape_half first (.char '\\' :: .char 'u' :: (es.map .char ++ rest))
        have lower := run_escape_half second rest
        simpa [run_untilQuote_escape lower fuel] using run_untilQuote_escape upper (fuel + 1)

theorem run_untilQuote {text cs : List Char} (spelling : Spelling text cs) (kept : Bool)
    {fuel : Nat} (enough : text.length < fuel) (rest : List Piece) :
    ∃ ps, (kept = true → ps = cs.map .char) ∧
      StateT.run (untilQuote kept fuel) (text.map .char ++ .char '"' :: rest) = .ok (ps, rest) := by
  induction spelling generalizing fuel with
  | nil =>
    obtain ⟨fuel, rfl⟩ := Nat.exists_eq_add_of_lt enough
    exact ⟨[], fun _ => rfl, by simp [untilQuote]⟩
  | @cons text others cs c first spelling ih =>
    obtain ⟨rounds, ps, few, char, reads⟩ := exists_run_untilQuote_char first kept
    rw [List.length_append] at enough
    obtain ⟨fuel, rfl⟩ : ∃ n, fuel = n + rounds := Nat.exists_eq_add_of_le' (by omega)
    have within : others.length < fuel := by omega
    obtain ⟨ps', chars, tail⟩ := ih within
    refine ⟨ps ++ ps', fun isKept => ?_, ?_⟩
    · rw [char isKept, chars isKept]
      rfl
    · rw [List.map_append, List.append_assoc, reads, tail]
      rfl

theorem run_stringBody {text : List Char} {s : String} (spelling : Spelling text s.toList)
    (rest : List Piece) :
    StateT.run stringBody (text.map .char ++ .char '"' :: rest) = .ok (s, rest) := by
  have enough : text.length < (text.map Piece.char ++ .char '"' :: rest).length + 1 := by
    rw [List.length_append, List.length_map]
    omega
  obtain ⟨ps, same, inner⟩ := run_untilQuote spelling true enough rest
  rw [same rfl] at inner
  simp only [stringBody, StateT.run_bind, StateT.run_get, pure_eq_ok, ok_bind, inner,
    Piece.text?_map_char, StateT.run_pure, String.ofList_toList]

theorem run_passString {text : List Char} {s : String} (spelling : Spelling text s.toList)
    (rest : List Piece) :
    StateT.run passString (text.map .char ++ .char '"' :: rest) = .ok ((), rest) := by
  have enough : text.length < (text.map Piece.char ++ .char '"' :: rest).length + 1 := by
    rw [List.length_append, List.length_map]
    omega
  obtain ⟨ps, _, inner⟩ := run_untilQuote spelling false enough rest
  simp only [passString, StateT.run_bind, StateT.run_get, pure_eq_ok, ok_bind, inner,
    StateT.run_pure]

end ReachAudit.Json.Reader
