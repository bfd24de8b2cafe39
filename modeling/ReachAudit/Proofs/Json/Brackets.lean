import ReachAudit.Proofs.Json.Numerals

namespace ReachAudit.Json.Reader

open ReachAudit.Text (Piece)

variable {α β κ σ : Type}

/-- A reader passes over blanks and then reads a text, with a given result. It leaves what comes
    after the text, which has to be closed. -/
def Reads (reader : Reader α) (text : List Char) (result : Except ReadError α) : Prop :=
  ∀ ws rest, Blanks ws → Closed rest →
    StateT.run reader (ws.map .char ++ (text.map .char ++ rest)) = (fun a => (a, rest)) <$> result

def Opens (text : List Char) : Prop :=
  ∃ c cs, text = c :: cs ∧ isBlank (.char c) = false ∧ c ≠ ']' ∧ c ≠ '\x7d'

theorem length_le_flatMap {f : α → List β} (some : ∀ a, 0 < (f a).length)
    (as : List α) : as.length ≤ (as.flatMap f).length := by
  induction as with
  | nil => exact Nat.le_refl 0
  | cons a as ih =>
    have first := some a
    rw [List.flatMap_cons, List.length_append, List.length_cons]
    omega

/-- What follows one of several laid out texts: its blanks, then each other after a comma, and the
    closing bracket. -/
def following (ws : List Char) (es : List (Laid α)) (bracket : Char) (rest : List Piece) :
    List Piece :=
  ws.map .char ++ ((es.flatMap fun e => ',' :: e.spelled).map .char ++ .char bracket :: rest)

theorem following_cons (ws : List Char) (e : Laid α) (es : List (Laid α)) (bracket : Char)
    (rest : List Piece) :
    following ws (e :: es) bracket rest = ws.map .char ++ .char ',' ::
      (e.before.map .char ++ (e.text.map .char ++ following e.after es bracket rest)) := by
  simp [following, Laid.spelled]

theorem separated_append (e : Laid α) (es : List (Laid α)) (bracket : Char) (rest : List Piece) :
    (separated e es).map .char ++ .char bracket :: rest =
      e.before.map .char ++ (e.text.map .char ++ following e.after es bracket rest) := by
  simp [separated, following, Laid.spelled]

theorem closed_following {ws : List Char} (blank : Blanks ws) (es : List (Laid α)) (bracket : Char)
    (digit : bracket.isDigit = false) (mark : bracket ∉ ['.', 'e', 'E']) (rest : List Piece) :
    Closed (following ws es bracket rest) := by
  refine .blanks blank ?_
  cases es with
  | nil => exact .cons digit mark rest
  | cons e es => exact .cons (by decide) (by decide) _

theorem length_lt_following (ws : List Char) (es : List (Laid α)) (bracket : Char)
    (rest : List Piece) : es.length < (following ws es bracket rest).length := by
  have long := length_le_flatMap (f := fun e : Laid α => ',' :: e.spelled)
    (fun e => Nat.succ_pos _) es
  simp only [following, List.length_append, List.length_cons, List.length_map]
  omega

theorem run_moreItems {item : Reader β} {result : α → β} {es : List (Laid α)}
    (tidy : ∀ e ∈ es, e.Tidy) (reads : ∀ e ∈ es, Reads item e.text (.ok (result e.content)))
    {fuel : Nat} (enough : es.length < fuel) {ws : List Char} (blank : Blanks ws)
    (rest : List Piece) :
    StateT.run (moreItems item fuel) (following ws es ']' rest) =
      .ok (es.map fun e => result e.content, rest) := by
  induction es generalizing fuel ws with
  | nil =>
    obtain ⟨fuel, rfl⟩ := Nat.exists_eq_add_of_lt enough
    rw [moreItems, following, run_bind_peekToken blank]
    simp [run_peekToken (p := .char ']') rfl]
  | cons e es ih =>
    cases fuel with
    | zero => cases enough
    | succ fuel =>
      have own := tidy e List.mem_cons_self
      have first := reads e List.mem_cons_self e.before _ own.before
        (closed_following own.after es ']' (by decide) (by decide) rest)
      have tail := ih (fun e' member => tidy e' (List.mem_cons_of_mem e member))
        (fun e' member => reads e' (List.mem_cons_of_mem e member))
        (Nat.lt_of_succ_lt_succ enough) own.after
      rw [following_cons, moreItems, run_bind_peekToken blank]
      simp [run_peekToken (p := .char ',') rfl, first, tail]

theorem run_items {item : Reader β} (result : α → β) {e : Laid α} {es : List (Laid α)}
    (tidy : ∀ e' ∈ e :: es, e'.Tidy) (opens : Opens e.text)
    (reads : ∀ e' ∈ e :: es, Reads item e'.text (.ok (result e'.content))) (rest : List Piece) :
    StateT.run (items item) ((separated e es).map .char ++ .char ']' :: rest) =
      .ok ((e :: es).map fun e => result e.content, rest) := by
  have own := tidy e List.mem_cons_self
  have closed := closed_following own.after es ']' (by decide) (by decide) rest
  have first := reads e List.mem_cons_self [] _ .nil closed
  have long := length_lt_following e.after es ']' rest
  rw [separated_append]
  obtain ⟨c, cs, shape, mark, bracket, _⟩ := opens
  rw [shape] at first ⊢
  have enough : es.length < (e.before.map Piece.char ++ ((c :: cs).map Piece.char ++
      following e.after es ']' rest)).length + 1 := by
    simp only [List.length_append]
    omega
  have more := run_moreItems (fun e' member => tidy e' (List.mem_cons_of_mem e member))
    (fun e' member => reads e' (List.mem_cons_of_mem e member)) enough own.after rest
  -- An element is told from the closing bracket by its first character.
  have other : Piece.char c ≠ .char ']' := fun same => bracket (Piece.char.inj same)
  rw [items, StateT.run_bind, StateT.run_get, pure_eq_ok, ok_bind, run_bind_peekToken own.before]
  simp only [List.map_nil, List.nil_append, List.map_cons, List.cons_append] at first more ⊢
  simp only [StateT.run_bind, ok_bind, run_peekToken mark, if_neg other, first, map_ok, more,
    StateT.run_pure, pure_eq_ok]

theorem run_items_nil (item : Reader β) {ws : List Char} (blank : Blanks ws) (rest : List Piece) :
    StateT.run (items item) (ws.map .char ++ .char ']' :: rest) = .ok ([], rest) := by
  rw [items, StateT.run_bind, StateT.run_get, pure_eq_ok, ok_bind, run_bind_peekToken blank]
  simp [run_peekToken (p := .char ']') rfl]

variable (key : Reader κ) (step : σ → κ → Reader σ) {take : σ → α → Except ReadError σ}

theorem run_moreMembers {es : List (Laid α)} (tidy : ∀ e ∈ es, e.Tidy)
    (reads : ∀ e ∈ es, ∀ state, Reads (oneMember key step state) e.text (take state e.content))
    {fuel : Nat} (enough : es.length < fuel) {ws : List Char} (blank : Blanks ws) (state : σ)
    (rest : List Piece) :
    StateT.run (moreMembers key step fuel state) (following ws es '\x7d' rest) =
      (fun s => (s, rest)) <$> (es.map Laid.content).foldlM take state := by
  induction es generalizing fuel ws state with
  | nil =>
    obtain ⟨fuel, rfl⟩ := Nat.exists_eq_add_of_lt enough
    rw [moreMembers, following, run_bind_peekToken blank]
    simp [run_peekToken (p := .char '\x7d') rfl]
  | cons e es ih =>
    cases fuel with
    | zero => cases enough
    | succ fuel =>
      have own := tidy e List.mem_cons_self
      have first := reads e List.mem_cons_self state e.before _ own.before
        (closed_following own.after es '\x7d' (by decide) (by decide) rest)
      have tail := ih (fun e' member => tidy e' (List.mem_cons_of_mem e member))
        (fun e' member => reads e' (List.mem_cons_of_mem e member))
        (Nat.lt_of_succ_lt_succ enough) own.after
      rw [following_cons, moreMembers, run_bind_peekToken blank]
      simp [run_peekToken (p := .char ',') rfl, first, tail]

theorem run_members_opens {ws text : List Char} (blank : Blanks ws) (opens : Opens text)
    (state : σ) (input : List Piece) :
    ∃ fuel, input.length < fuel ∧
      StateT.run (members key step state) (ws.map .char ++ (text.map .char ++ input)) =
        StateT.run (oneMember key step state) (text.map .char ++ input) >>= fun r =>
          StateT.run (moreMembers key step fuel r.1) r.2 := by
  refine ⟨(ws.map Piece.char ++ (text.map Piece.char ++ input)).length + 1, ?_, ?_⟩
  · simp only [List.length_append]
    omega
  · obtain ⟨c, cs, rfl, mark, _, bracket⟩ := opens
    have other : Piece.char c ≠ .char '\x7d' := fun same => bracket (Piece.char.inj same)
    rw [members, StateT.run_bind, StateT.run_get, pure_eq_ok, ok_bind, run_bind_peekToken blank]
    simp only [List.map_cons, List.cons_append, StateT.run_bind, ok_bind, run_peekToken mark,
      if_neg other]

theorem run_members {e : Laid α} {es : List (Laid α)} (tidy : ∀ e' ∈ e :: es, e'.Tidy)
    (opens : Opens e.text)
    (reads : ∀ e' ∈ e :: es, ∀ state,
      Reads (oneMember key step state) e'.text (take state e'.content))
    (state : σ) (rest : List Piece) :
    StateT.run (members key step state) ((separated e es).map .char ++ .char '\x7d' :: rest) =
      (fun s => (s, rest)) <$> ((e :: es).map Laid.content).foldlM take state := by
  have own := tidy e List.mem_cons_self
  have closed := closed_following own.after es '\x7d' (by decide) (by decide) rest
  have first := reads e List.mem_cons_self state [] _ .nil closed
  have long := length_lt_following e.after es '\x7d' rest
  obtain ⟨fuel, enough, split⟩ := run_members_opens key step own.before opens state
    (following e.after es '\x7d' rest)
  have more := run_moreMembers key step (fun e' member => tidy e' (List.mem_cons_of_mem e member))
    (fun e' member => reads e' (List.mem_cons_of_mem e member)) (Nat.lt_trans long enough)
    own.after
  rw [List.map_nil, List.nil_append] at first
  rw [separated_append, split, first, List.map_cons, List.foldlM_cons]
  cases take state e.content with
  | error failure => rfl
  | ok next => exact more next rest

theorem run_members_nil {ws : List Char} (blank : Blanks ws) (state : σ) (rest : List Piece) :
    StateT.run (members key step state) (ws.map .char ++ .char '\x7d' :: rest) =
      .ok (state, rest) := by
  rw [members, StateT.run_bind, StateT.run_get, pure_eq_ok, ok_bind, run_bind_peekToken blank]
  simp [run_peekToken (p := .char '\x7d') rfl]

end ReachAudit.Json.Reader
