import ReachAudit.Proofs.Json.Brackets

namespace ReachAudit.Json

open ReachAudit.Text (Piece)

theorem ne_of_opens {c d : Char} (opens : c = '-' ∨ c.isDigit = true) (sign : d ≠ '-')
    (digit : d.isDigit = false) : c ≠ d := by
  rintro rfl
  rcases opens with rfl | isDigit
  · exact sign rfl
  · rw [digit] at isDigit
    cases isDigit

theorem not_blank_of_opens {c : Char} (opens : c = '-' ∨ c.isDigit = true) :
    Reader.isBlank (.char c) = false := by
  have space : c ≠ ' ' := ne_of_opens opens (by decide) (by decide)
  have tab : c ≠ '\t' := ne_of_opens opens (by decide) (by decide)
  have line : c ≠ '\n' := ne_of_opens opens (by decide) (by decide)
  have back : c ≠ '\r' := ne_of_opens opens (by decide) (by decide)
  simp [Reader.isBlank, space, tab, line, back]

namespace Reader

variable {κ σ : Type}

theorem run_value_append {ws : List Char} (blank : Blanks ws) (depth : Nat) (input : List Piece) :
    StateT.run (value depth) (ws.map .char ++ input) = StateT.run (value depth) input := by
  cases depth <;> exact run_bind_peekToken blank _ input

theorem run_passValue_append {ws : List Char} (blank : Blanks ws) (depth : Nat)
    (input : List Piece) :
    StateT.run (passValue (depth + 1)) (ws.map .char ++ input) =
      StateT.run (passValue (depth + 1)) input :=
  run_bind_peekToken blank _ input

theorem scalar_number {c : Char} (opens : c = '-' ∨ c.isDigit = true) :
    scalar (.char c) = .number <$> number := by
  have null : c ≠ 'n' := ne_of_opens opens (by decide) (by decide)
  have true : c ≠ 't' := ne_of_opens opens (by decide) (by decide)
  have false : c ≠ 'f' := ne_of_opens opens (by decide) (by decide)
  have quote : c ≠ '"' := ne_of_opens opens (by decide) (by decide)
  simp [scalar, opens]

theorem run_scalar_word {c : Char} {cs : List Char} {j : Json}
    (word : scalar (.char c) = do skip; letters cs; pure j) (rest : List Piece) :
    StateT.run (scalar (.char c)) ((c :: cs).map .char ++ rest) = .ok (j, rest) := by
  rw [List.map_cons, List.cons_append, word]
  simp [run_letters]

theorem exists_run_scalar {text : List Char} {j : Json} (spelling : ScalarSpelling text j) :
    ∃ c cs, text = c :: cs ∧ isBlank (.char c) = false ∧ c ∉ ['[', ']', '\x7b', '\x7d'] ∧
      ∀ rest, Closed rest →
        StateT.run (scalar (.char c)) (text.map .char ++ rest) = .ok (j, rest) := by
  -- Only a number needs the rest to be closed: everything else ends with a mark of its own.
  cases spelling with
  | null => exact ⟨_, _, rfl, rfl, by decide, fun rest _ => run_scalar_word rfl rest⟩
  | true => exact ⟨_, _, rfl, rfl, by decide, fun rest _ => run_scalar_word rfl rest⟩
  | false => exact ⟨_, _, rfl, rfl, by decide, fun rest _ => run_scalar_word rfl rest⟩
  | @number n range =>
    obtain ⟨c, cs, shape, opens⟩ := exists_text_eq_cons n
    refine ⟨c, cs, shape, not_blank_of_opens opens, ?_, fun rest closed => ?_⟩
    · intro member
      simp only [List.mem_cons, List.not_mem_nil, or_false] at member
      rcases member with same | same | same | same <;>
        exact ne_of_opens opens (by decide) (by decide) same
    · rw [scalar_number opens, StateT.run_map, run_number range.1 range.2 closed]
      rfl
  | @string _ s quoted =>
    obtain ⟨inner, rfl, spelling⟩ := quoted
    refine ⟨_, _, rfl, rfl, by decide, fun rest _ => ?_⟩
    have body := run_stringBody spelling rest
    simp [scalar, body]

theorem passValue_number {c : Char} (opens : c = '-' ∨ c.isDigit = true) (depth : Nat)
    (rest : List Piece) :
    StateT.run (passValue (depth + 1)) (.char c :: rest) =
      StateT.run passNumber (.char c :: rest) := by
  have mark := not_blank_of_opens opens
  have null : c ≠ 'n' := ne_of_opens opens (by decide) (by decide)
  have true : c ≠ 't' := ne_of_opens opens (by decide) (by decide)
  have false : c ≠ 'f' := ne_of_opens opens (by decide) (by decide)
  have quote : c ≠ '"' := ne_of_opens opens (by decide) (by decide)
  have list : c ≠ '[' := ne_of_opens opens (by decide) (by decide)
  have object : c ≠ '\x7b' := ne_of_opens opens (by decide) (by decide)
  simp [passValue, run_peekToken mark, opens]

theorem run_passValue_scalar {text : List Char} {j : Json} (spelling : ScalarSpelling text j)
    (depth : Nat) {rest : List Piece} (closed : Closed rest) :
    StateT.run (passValue (depth + 1)) (text.map .char ++ rest) = .ok ((), rest) := by
  cases spelling with
  | null =>
    simpa [passValue, run_peekToken (p := .char 'n') rfl]
      using run_letters ['u', 'l', 'l'] rest
  | true =>
    simpa [passValue, run_peekToken (p := .char 't') rfl]
      using run_letters ['r', 'u', 'e'] rest
  | false =>
    simpa [passValue, run_peekToken (p := .char 'f') rfl]
      using run_letters ['a', 'l', 's', 'e'] rest
  | @number n range =>
    obtain ⟨c, cs, shape, opens⟩ := exists_text_eq_cons n
    have passed := run_passNumber n closed
    rw [shape, List.map_cons, List.cons_append] at passed ⊢
    rw [passValue_number opens, passed]
  | string quoted =>
    obtain ⟨inner, rfl, spelling⟩ := quoted
    have body := run_passString spelling rest
    simpa [passValue, run_peekToken (p := .char '"') rfl] using body

theorem reads_value_scalar {text : List Char} {j : Json} (spelling : ScalarSpelling text j)
    (depth : Nat) : Reads (value depth) text (.ok j) := by
  intro ws rest blank closed
  obtain ⟨c, cs, rfl, mark, bracket, reads⟩ := exists_run_scalar spelling
  have list : c ≠ '[' := fun same => bracket (by simp [same])
  have object : c ≠ '\x7b' := fun same => bracket (by simp [same])
  rw [run_value_append blank, map_ok]
  have read := reads rest closed
  rw [List.map_cons, List.cons_append] at read ⊢
  cases depth <;> simpa [value, run_peekToken mark, list, object] using read

theorem reads_oneMember {key : Reader κ} {k : κ} {step : σ → κ → Reader σ} {m : Member}
    (tidy : m.Tidy) {state : σ} {result : Except ReadError σ}
    (body : ∀ inner, Spelling inner m.key.content.toList → ∀ input,
      StateT.run key (inner.map .char ++ .char '"' :: input) = .ok (k, input))
    (reads : ∀ rest, Closed rest →
      StateT.run (step state k) (m.key.after.map .char ++ .char ':' ::
        (m.value.before.map .char ++ (m.value.text.map .char ++ rest))) =
          (fun s => (s, rest)) <$> result) :
    Reads (oneMember key step state) m.laid.text result := by
  intro ws rest blank closed
  obtain ⟨inner, shape, spelling⟩ := tidy.quoted
  have start := body inner spelling (m.key.after.map .char ++ .char ':' ::
    (m.value.before.map .char ++ (m.value.text.map .char ++ rest)))
  rw [oneMember, run_bind_peekToken blank, ← reads rest closed, Member.laid, shape]
  simp [run_peekToken (p := .char '"') rfl, start]

theorem opens_laid {m : Member} (tidy : m.Tidy) : Opens m.laid.text := by
  obtain ⟨inner, shape, _⟩ := tidy.quoted
  refine ⟨'"', inner ++ ['"'] ++ (m.key.after ++ ':' :: (m.value.before ++ m.value.text)), ?_, rfl,
    by decide, by decide⟩
  rw [Member.laid, shape]
  simp

theorem run_members_laid {key : Reader κ} {step : σ → κ → Reader σ}
    (take : σ → String × Json → Except ReadError σ) {m : Member} {ms : List Member}
    (tidy : ∀ m' ∈ m :: ms, m'.Tidy)
    (reads : ∀ m' ∈ m :: ms, ∀ state,
      Reads (oneMember key step state) m'.laid.text (take state m'.laid.content))
    (state : σ) (rest : List Piece) :
    StateT.run (members key step state)
      ((separated m.laid (ms.map Member.laid)).map .char ++ .char '\x7d' :: rest) =
        (fun s => (s, rest)) <$> ((m :: ms).map fun m => m.laid.content).foldlM take state := by
  have laid : ∀ e ∈ m.laid :: ms.map Member.laid, ∃ m' ∈ m :: ms, e = m'.laid := by
    intro e member
    rw [← List.map_cons] at member
    obtain ⟨m', own, same⟩ := List.mem_map.mp member
    exact ⟨m', own, same.symm⟩
  have tidy' : ∀ e ∈ m.laid :: ms.map Member.laid, e.Tidy := by
    intro e member
    obtain ⟨m', own, rfl⟩ := laid e member
    exact ⟨(tidy m' own).key.before, (tidy m' own).value.after⟩
  have reads' : ∀ e ∈ m.laid :: ms.map Member.laid, ∀ state,
      Reads (oneMember key step state) e.text (take state e.content) := by
    intro e member
    obtain ⟨m', own, rfl⟩ := laid e member
    exact reads m' own
  rw [run_members key step tidy' (opens_laid (tidy m List.mem_cons_self)) reads' state rest,
    ← List.map_cons, List.map_map]
  rfl

theorem run_value_list (depth : Nat) (input : List Piece) :
    StateT.run (value (depth + 1)) (.char '[' :: input) =
      (fun r => (.array r.1, r.2)) <$> StateT.run (items (value depth)) input := by
  simp [value, run_peekToken (p := .char '[') rfl]

theorem run_value_object (depth : Nat) (input : List Piece) :
    StateT.run (value (depth + 1)) (.char '\x7b' :: input) =
      (fun r => (.object r.1, r.2)) <$> StateT.run (members stringBody (fun sorted key => do
        colon
        return addMember key (← value depth) sorted) []) input := by
  simp [value, run_peekToken (p := .char '\x7b') rfl]

theorem run_passValue_list (depth : Nat) (input : List Piece) :
    StateT.run (passValue (depth + 1)) (.char '[' :: input) =
      (fun r => ((), r.2)) <$> StateT.run (items (passValue depth)) input := by
  simp [passValue, run_peekToken (p := .char '[') rfl]

theorem run_passValue_object (depth : Nat) (input : List Piece) :
    StateT.run (passValue (depth + 1)) (.char '\x7b' :: input) =
      StateT.run (members passString (fun _ _ => do colon; passValue depth) ()) input := by
  simp [passValue, run_peekToken (p := .char '\x7b') rfl]

end Reader

open Reader

theorem Spells.opens {depth : Nat} {text : List Char} {j : Json} (spells : Spells depth text j) :
    Opens text := by
  cases spells with
  | scalar spelling =>
    obtain ⟨c, cs, shape, mark, bracket, _⟩ := exists_run_scalar spelling
    exact ⟨c, cs, shape, mark, fun same => bracket (by simp [same]),
      fun same => bracket (by simp [same])⟩
  | noItems _ => exact ⟨_, _, rfl, rfl, by decide, by decide⟩
  | array _ _ => exact ⟨_, _, rfl, rfl, by decide, by decide⟩
  | noMembers _ => exact ⟨_, _, rfl, rfl, by decide, by decide⟩
  | object _ _ => exact ⟨_, _, rfl, rfl, by decide, by decide⟩

/-- Every text that stands for a value is read as that value. -/
theorem Spells.reads_value {depth : Nat} {text : List Char} {j : Json}
    (spells : Spells depth text j) : Reads (value depth) text (.ok j) := by
  induction spells with
  | scalar spelling => exact reads_value_scalar spelling _
  | @noItems depth inner blank =>
    intro ws rest before closed
    have read := run_items_nil (value depth) blank rest
    rw [run_value_append before, List.map_cons, List.cons_append, run_value_list, List.map_append,
      List.append_assoc]
    simp [read]
  | @array depth e es tidy spelled ih =>
    intro ws rest before closed
    have opens := (spelled e List.mem_cons_self).opens
    have read := run_items id tidy opens ih rest
    rw [run_value_append before, List.map_cons, List.cons_append, run_value_list, List.map_append,
      List.append_assoc]
    simp [read]
  | @noMembers depth inner blank =>
    intro ws rest before closed
    rw [run_value_append before, List.map_cons, List.cons_append, run_value_object, List.map_append,
      List.append_assoc]
    simp [run_members_nil _ _ blank]
  | @object depth m ms tidy spelled ih =>
    intro ws rest before closed
    have member : ∀ m' ∈ m :: ms, ∀ sorted, Reads (oneMember stringBody (fun sorted key => do
        colon
        return addMember key (← value depth) sorted) sorted) m'.laid.text
          (.ok (addMember m'.key.content m'.value.content sorted)) := by
      intro m' own sorted
      have tidy' := tidy m' own
      refine reads_oneMember tidy' (fun inner spelling => run_stringBody spelling) ?_
      intro rest closed
      have read := ih m' own m'.value.before rest tidy'.value.before closed
      simp [run_colon tidy'.key.after, read]
    have read := run_members_laid (fun sorted m => .ok (addMember m.1 m.2 sorted)) tidy
      member [] rest
    rw [run_value_append before, List.map_cons, List.cons_append, run_value_object, List.map_append,
      List.append_assoc]
    simp only [List.map_cons, List.map_nil, List.cons_append, List.nil_append]
    rw [read]
    exact congrArg _ (congrArg _ (List.foldlM_pure ..))

theorem length_le_separated {α : Type} {e e' : Laid α} {es : List (Laid α)}
    (member : e' ∈ e :: es) :
    e'.text.length ≤ (separated e es).length := by
  rcases List.mem_cons.mp member with rfl | later
  · simp only [separated, Laid.spelled, List.length_append]
    omega
  · have own : ',' :: e'.spelled ∈ es.map fun e => ',' :: e.spelled := List.mem_map_of_mem later
    have part := (List.sublist_flatten_of_mem own).length_le
    rw [← List.flatMap_def] at part
    simp only [separated, Laid.spelled, List.length_append, List.length_cons] at part ⊢
    omega

theorem Spells.reads_passValue {depth fuel : Nat} {text : List Char} {j : Json}
    (spells : Spells depth text j) (enough : text.length < fuel) :
    Reads (passValue fuel) text (.ok ()) := by
  -- Each bracket takes one from the fuel, and its own place in the text.
  induction spells generalizing fuel with
  | scalar spelling =>
    obtain ⟨fuel, rfl⟩ := Nat.exists_eq_add_of_lt enough
    intro ws rest before closed
    rw [run_passValue_append before]
    exact run_passValue_scalar spelling _ closed
  | noItems blank =>
    obtain ⟨fuel, rfl⟩ : ∃ n, fuel = n + 1 := Nat.exists_eq_succ_of_ne_zero (by omega)
    intro ws rest before closed
    have read := run_items_nil (passValue fuel) blank rest
    rw [run_passValue_append before, List.map_cons, List.cons_append, run_passValue_list,
      List.map_append, List.append_assoc]
    simp [read]
  | @array depth e es tidy spelled ih =>
    obtain ⟨fuel, rfl⟩ : ∃ n, fuel = n + 1 := Nat.exists_eq_succ_of_ne_zero (by omega)
    have shorter : ∀ e' ∈ e :: es, e'.text.length < fuel := by
      intro e' member
      have part := length_le_separated member
      simp only [List.length_cons, List.length_append] at enough
      omega
    have opens := (spelled e List.mem_cons_self).opens
    intro ws rest before closed
    have read := run_items (fun _ => ()) tidy opens
      (fun e' member => ih e' member (shorter e' member)) rest
    rw [run_passValue_append before, List.map_cons, List.cons_append, run_passValue_list,
      List.map_append, List.append_assoc]
    simp [read]
  | noMembers blank =>
    obtain ⟨fuel, rfl⟩ : ∃ n, fuel = n + 1 := Nat.exists_eq_succ_of_ne_zero (by omega)
    intro ws rest before closed
    rw [run_passValue_append before, List.map_cons, List.cons_append, run_passValue_object,
      List.map_append, List.append_assoc]
    simp [run_members_nil _ _ blank]
  | @object depth m ms tidy spelled ih =>
    obtain ⟨fuel, rfl⟩ : ∃ n, fuel = n + 1 := Nat.exists_eq_succ_of_ne_zero (by omega)
    have shorter : ∀ m' ∈ m :: ms, m'.value.text.length < fuel := by
      intro m' own
      have laid : m'.laid ∈ m.laid :: ms.map Member.laid :=
        List.map_cons ▸ List.mem_map_of_mem own
      have whole := length_le_separated laid
      have part : m'.value.text.length < m'.laid.text.length := by
        simp only [Member.laid, List.length_cons, List.length_append]
        omega
      simp only [List.length_cons, List.length_append] at enough
      omega
    have member : ∀ m' ∈ m :: ms, ∀ state, Reads (oneMember passString
        (fun _ _ => do colon; passValue fuel) state) m'.laid.text (.ok ()) := by
      intro m' own state
      have tidy' := tidy m' own
      refine reads_oneMember tidy' (fun inner spelling => run_passString spelling) ?_
      intro rest closed
      have read := ih m' own (shorter m' own) m'.value.before rest tidy'.value.before closed
      simp [run_colon tidy'.key.after, read]
    intro ws rest before closed
    have read := run_members_laid (fun _ _ => .ok ()) tidy member () rest
    rw [run_passValue_append before, List.map_cons, List.cons_append, run_passValue_object,
      List.map_append, List.append_assoc]
    simp only [List.map_cons, List.map_nil, List.cons_append, List.nil_append]
    rw [read]
    exact congrArg _ (List.foldlM_pure ..)

end ReachAudit.Json
