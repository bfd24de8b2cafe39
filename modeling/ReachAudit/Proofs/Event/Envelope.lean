import ReachAudit.Event.Codec
import ReachAudit.Proofs.Json.Yields

namespace ReachAudit

open ReachAudit.Text (Piece)

namespace Json.Reader

theorem run_unexpected_scalar {α : Type} {text : List Char} {j : Json}
    (spelling : ScalarSpelling text j) (expected : String) {rest : List Piece}
    (closed : Closed rest) :
    StateT.run (unexpected expected : Reader α) (text.map .char ++ rest) =
      .error (.misfit (.kind j.found expected)) := by
  obtain ⟨c, cs, rfl, mark, bracket, reads⟩ := exists_run_scalar spelling
  have list : c ≠ '[' := fun same => bracket (by simp [same])
  have object : c ≠ '\x7b' := fun same => bracket (by simp [same])
  have read := reads rest closed
  rw [List.map_cons, List.cons_append] at read ⊢
  simp [unexpected, run_peekToken mark, list, object, read]
  rfl

theorem run_string_unquoted {c : Char} (mark : isBlank (.char c) = false) (unquoted : c ≠ '"')
    (input : List Piece) :
    StateT.run string (.char c :: input) =
      StateT.run (unexpected "a string") (.char c :: input) := by
  simp [string, run_peekToken mark, unquoted]

theorem reads_string {depth : Nat} {text : List Char} {j : Json} (spells : Spells depth text j) :
    Reads string text (j.asString.mapError .misfit) := by
  intro ws rest blank closed
  rw [string, run_bind_peekToken blank, ← string]
  cases spells with
  | scalar spelling =>
    have refused := run_unexpected_scalar (α := String) spelling "a string" closed
    cases spelling with
    | @number n range =>
      obtain ⟨c, cs, shape, opens⟩ := exists_text_eq_cons n
      rw [shape, List.map_cons, List.cons_append] at refused ⊢
      have unquoted : c ≠ '"' := ne_of_opens opens (by decide) (by decide)
      exact (run_string_unquoted (not_blank_of_opens opens) unquoted _).trans refused
    | string quoted =>
      obtain ⟨inner, rfl, spelling⟩ := quoted
      have body := run_stringBody spelling rest
      simp [string, run_peekToken (p := .char '"') rfl, body]
      rfl
    | _ => exact (run_string_unquoted rfl (by decide) _).trans refused
  | _ => rfl

theorem yields_unexpected {α : Type} {p : α → Prop} (expected : String) :
    Yields (unexpected expected) p := by
  refine .andThen fun first => .ite (fun _ => ?_) fun _ => .ite (fun _ => ?_) fun _ => ?_
  all_goals exact .andThen fun _ => .fail

end Json.Reader

namespace Envelope

open Json Reader

def Draft.take (draft : Draft) (m : String × Json) : Except ReadError Draft :=
  if m.1 = "event_type" then
    if draft.eventType.isSome then .error (.misfit (.duplicate m.1))
    else do return { draft with eventType := some (← m.2.asString.mapError .misfit) }
  else if m.1 = "data" then
    if draft.data.isSome then .error (.misfit (.duplicate m.1))
    else .ok { draft with data := some m.2 }
  else .ok draft

def Draft.envelope (draft : Draft) : Except ReadError Envelope :=
  match draft.eventType with
  | some eventType => .ok { eventType, data := draft.data.getD .null }
  | none => .error (.misfit (.missing "event_type"))

def ofContents (ms : List (String × Json)) : Except ReadError Envelope :=
  ms.foldlM Draft.take {} >>= Draft.envelope

structure Spelled (m : Member) : Prop where
  tidy : m.Tidy
  spells : ∃ depth, Spells depth m.value.text m.value.content
  data : m.key.content = "data" → Spells 126 m.value.text m.value.content

theorem reads_addMember {m : Member} (spelled : Spelled m) (draft : Draft) :
    Reads (oneMember stringBody addMember draft) m.laid.text (draft.take m.laid.content) := by
  refine reads_oneMember spelled.tidy (fun inner spelling => run_stringBody spelling) ?_
  intro rest closed
  have colon := run_colon spelled.tidy.key.after
    (m.value.before.map .char ++ (m.value.text.map .char ++ rest))
  have before := spelled.tidy.value.before
  obtain ⟨depth, spells⟩ := spelled.spells
  change _ = (fun s => (s, rest)) <$> draft.take (m.key.content, m.value.content)
  by_cases type : m.key.content = "event_type"
  · cases known : draft.eventType with
    | some name => simp [addMember, Draft.take, type, known]; rfl
    | none =>
      have read := reads_string spells m.value.before rest before closed
      simp only [addMember, Draft.take, type, known]
      simp [colon, read]
      cases m.value.content.asString <;> rfl
  · by_cases data : m.key.content = "data"
    · cases given : draft.data with
      | some j => simp [addMember, Draft.take, data, given]; rfl
      | none =>
        have read := (spelled.data data).reads_value m.value.before rest before closed
        simp [addMember, Draft.take, data, given, colon, read, dataDepth, maxDepth]
    · have enough : m.value.text.length < (m.value.before.map Piece.char ++
          (m.value.text.map Piece.char ++ rest)).length + 1 := by
        simp only [List.length_append, List.length_map]
        omega
      have read := spells.reads_passValue enough m.value.before rest before closed
      simp only [addMember, Draft.take, type, data, if_false, StateT.run_bind, colon, ok_bind,
        StateT.run_get, pure_eq_ok, read, map_ok, StateT.run_pure]

inductive Written : List Char → List (String × Json) → Prop where
  | empty {ws : List Char} (blank : Blanks ws) : Written ('\x7b' :: (ws ++ ['\x7d'])) []
  | members {m : Member} {ms : List Member} (spelled : ∀ m' ∈ m :: ms, Spelled m') :
      Written ('\x7b' :: (separated m.laid (ms.map Member.laid) ++ ['\x7d']))
        ((m :: ms).map fun m => m.laid.content)

theorem run_reader_object {ws : List Char} (blank : Blanks ws) (input : List Piece) :
    StateT.run reader (ws.map .char ++ .char '\x7b' :: input) = StateT.run ofMembers input := by
  rw [reader, run_bind_peekToken blank]
  simp [run_peekToken (p := .char '\x7b') rfl]

theorem run_ofMembers {input rest : List Piece} (result : Except ReadError Draft)
    (read : StateT.run (members stringBody addMember {}) input = (fun d => (d, rest)) <$> result) :
    StateT.run ofMembers input = (fun e => (e, rest)) <$> (result >>= Draft.envelope) := by
  rw [ofMembers, StateT.run_bind, read]
  cases result with
  | error failure => rfl
  | ok draft =>
    rw [map_ok, ok_bind, ok_bind, Draft.envelope]
    cases draft.eventType <;> rfl

/-- An envelope is read by its members, whatever its layout. -/
theorem run_reader {object : List Char} {ms : List (String × Json)} (written : Written object ms)
    {ws : List Char} (blank : Blanks ws) (rest : List Piece) :
    StateT.run reader (ws.map .char ++ (object.map .char ++ rest)) =
      (fun e => (e, rest)) <$> ofContents ms := by
  cases written with
  | empty inner =>
    have read := run_members_nil stringBody addMember inner {} rest
    rw [List.map_cons, List.cons_append, run_reader_object blank, List.map_append,
      List.append_assoc]
    exact run_ofMembers (.ok {}) read
  | @members m ms spelled =>
    have read := run_members_laid Draft.take (fun m' own => (spelled m' own).tidy)
      (fun m' own => reads_addMember (spelled m' own)) {} rest
    rw [List.map_cons, List.cons_append, run_reader_object blank, List.map_append,
      List.append_assoc]
    exact run_ofMembers _ read

theorem spelled_type (name : String) : Spelled (bareMember ("event_type", .string name)) where
  tidy := tidy_bareMember _
  spells := ⟨0, .scalar (.string (quoted_stringText name))⟩
  data := fun same => absurd same (show "event_type" ≠ "data" by decide)

theorem written_text {e : Envelope} (fits : e.data.Fits 126) (whole : e.data.Whole) :
    Written ('\x7b' :: e.text ++ ['\x7d'])
      [("event_type", .string e.eventType), ("data", e.data)] := by
  have data : Spelled (bareMember ("data", e.data)) :=
    ⟨tidy_bareMember _, ⟨126, fits.spells whole⟩, fun _ => fits.spells whole⟩
  have spelled :
      ∀ m ∈ [bareMember ("event_type", .string e.eventType), bareMember ("data", e.data)],
        Spelled m := by
    intro m member
    rcases List.mem_cons.mp member with rfl | member
    · exact spelled_type e.eventType
    · rw [List.mem_singleton.mp member]
      exact data
  have written := Written.members spelled
  rw [Envelope.text, membersText_cons]
  exact written

theorem ofContents_text (e : Envelope) :
    ofContents [("event_type", .string e.eventType), ("data", e.data)] = .ok e :=
  rfl

theorem yields_addMember_type {name : String} (draft : Draft) (key : String)
    (known : draft.eventType = some name) :
    Yields (addMember draft key) fun draft => draft.eventType = some name := by
  -- A second type is refused.
  refine .ite (fun _ => .ite (fun _ => .stop) fun unset => ?_) fun _ =>
    .ite (fun _ => .ite (fun _ => .stop) fun _ => ?_) fun _ => ?_
  · exact absurd (Option.isSome_of_eq_some known) unset
  · exact .andThen fun _ => .andThen fun data => .pure known
  · exact .andThen fun _ => .andThen fun _ => .andThen fun _ => .pure known

theorem eventType_of_run_reader {e read : Envelope} {rest : List Piece}
    (returned : StateT.run reader (('\x7b' :: e.text ++ ['\x7d']).map .char) = .ok (read, rest)) :
    read.eventType = e.eventType := by
  -- The type stands first, so that it is known whatever comes after it.
  let first := bareMember ("event_type", .string e.eventType)
  let data := (bareMember ("data", e.data)).laid
  let more := following [] [data] '\x7d' []
  have type : Spelled first := spelled_type e.eventType
  have closed : Closed more := closed_following .nil [data] '\x7d' (by decide) (by decide) []
  have taken : StateT.run (oneMember stringBody addMember {}) (first.laid.text.map .char ++ more) =
      .ok ({ eventType := some e.eventType }, more) := reads_addMember type {} [] more .nil closed
  obtain ⟨fuel, -, start⟩ := run_members_opens stringBody addMember .nil (opens_laid type.tidy) {}
    more
  have shape : ('\x7b' :: e.text ++ ['\x7d']).map Piece.char =
      .char '\x7b' :: (first.laid.text.map .char ++ more) := by
    rw [Envelope.text, membersText_cons]
    simp [first, more, data, following, separated, Laid.spelled, Member.laid, bareMember,
      bareItem, bare]
  rw [List.map_nil, List.nil_append, taken, ok_bind] at start
  rw [shape] at returned
  have opened := run_reader_object .nil (first.laid.text.map .char ++ more)
  rw [List.map_nil, List.nil_append, returned, ofMembers, StateT.run_bind, start] at opened
  cases ended : StateT.run (moreMembers stringBody addMember fuel { eventType := some e.eventType })
      more with
  | error failure =>
    rw [ended] at opened
    cases opened
  | ok found =>
    have known := Yields.moreMembers yields_addMember_type fuel rfl _ _ _ ended
    simp only [ended, ok_bind, known] at opened
    cases opened
    rfl

def Draft.Fits (draft : Draft) : Prop := ∀ data, draft.data = some data → data.Fits dataDepth

theorem yields_addMember_fits (draft : Draft) (key : String) (fits : draft.Fits) :
    Yields (addMember draft key) Draft.Fits := by
  refine .ite (fun _ => .ite (fun _ => .stop) fun _ => ?_) fun _ =>
    .ite (fun _ => .ite (fun _ => .stop) fun _ => ?_) fun _ => ?_
  · exact .andThen fun _ => .andThen fun name => .pure fits
  · refine .andThen fun _ => (yields_value dataDepth).bind fun data own => .pure ?_
    intro given same
    cases same
    exact own
  · exact .andThen fun _ => .andThen fun _ => .andThen fun _ => .pure fits

theorem yields_reader_fits : Yields reader fun e => e.data.Fits dataDepth := by
  have ofMembers : Yields ofMembers fun e => e.data.Fits dataDepth := by
    have none : Draft.Fits {} := fun data same => by cases same
    refine (Yields.members yields_addMember_fits none).bind fun draft fits => ?_
    cases known : draft.eventType with
    | none => exact .fail
    | some name =>
      refine .pure ?_
      cases given : draft.data with
      | none => exact .null
      | some data => exact fits data given
  have ofItems : Yields ofItems fun e => e.data.Fits dataDepth := by
    refine .andThen fun first => .ite (fun _ => .stop) fun _ => ?_
    refine .andThen fun name => .andThen fun second => .ite (fun _ => ?_) fun _ =>
      .ite (fun _ => ?_) fun _ => .fail
    · exact .andThen fun _ => .pure .null
    · refine .andThen fun _ => (yields_value dataDepth).bind fun data fits => ?_
      refine .andThen fun last => .ite (fun _ => ?_) fun _ => .fail
      exact .andThen fun _ => .pure fits
  refine .andThen fun first => .ite (fun _ => ?_) fun _ => .ite (fun _ => ?_) fun _ => ?_
  · exact .andThen fun _ => ofItems
  · exact .andThen fun _ => ofMembers
  · exact yields_unexpected structName

end Envelope

end ReachAudit
