import Mathlib.Data.List.TakeWhile
import ReachAudit.Proofs.Event.RoundTrip

namespace ReachAudit

open ReachAudit.Text (Piece)
open Json (Blanks ReadError)

namespace Envelope

def named (name : String) (ms : List (String × Json)) : List Json :=
  (ms.filter fun m => m.1 = name).map Prod.snd

theorem named_append (name : String) (ms ms' : List (String × Json)) :
    named name (ms ++ ms') = named name ms ++ named name ms' := by
  simp [named]

theorem named_perm {ms ms' : List (String × Json)} (same : ms.Perm ms') (name : String) :
    (named name ms).Perm (named name ms') :=
  (same.filter _).map _

theorem named_eq_nil {name : String} {ms : List (String × Json)} (other : ∀ m ∈ ms, m.1 ≠ name) :
    named name ms = [] := by
  rw [named, List.filter_eq_nil_iff.mpr fun m member => by simpa using other m member]
  rfl

theorem two_ne_toList {α : Type} (a b : α) (as : List α) (o : Option α) :
    a :: b :: as ≠ o.toList := by
  cases o <;> simp

def Draft.types (draft : Draft) : List Json := (draft.eventType.map Json.string).toList

theorem types_of_take {draft d : Draft} {m : String × Json} (taken : draft.take m = .ok d) :
    d.types = draft.types ++ named "event_type" [m] ∧
      d.data.toList = draft.data.toList ++ named "data" [m] := by
  obtain ⟨name, value⟩ := m
  rw [Draft.take] at taken
  split_ifs at taken with type known data given
  · have unset : draft.eventType = none := Option.not_isSome_iff_eq_none.mp known
    dsimp only at type
    subst type
    cases value with
    | string s =>
      cases taken
      rw [Draft.types, Draft.types, unset]
      exact ⟨rfl, (List.append_nil _).symm⟩
    | _ => cases taken
  · have unset : draft.data = none := Option.not_isSome_iff_eq_none.mp given
    dsimp only at data
    subst data
    cases taken
    rw [unset]
    exact ⟨(List.append_nil _).symm, rfl⟩
  · cases taken
    have noType : named "event_type" [(name, value)] = [] := named_eq_nil (by simpa using type)
    have noData : named "data" [(name, value)] = [] := named_eq_nil (by simpa using data)
    rw [noType, noData, List.append_nil, List.append_nil]
    exact ⟨rfl, rfl⟩

theorem types_of_foldlM {draft d : Draft} {ms : List (String × Json)}
    (taken : ms.foldlM Draft.take draft = .ok d) :
    d.types = draft.types ++ named "event_type" ms ∧
      d.data.toList = draft.data.toList ++ named "data" ms := by
  induction ms generalizing draft with
  | nil =>
    cases taken
    exact ⟨(List.append_nil _).symm, (List.append_nil _).symm⟩
  | cons m ms ih =>
    rw [List.foldlM_cons] at taken
    cases first : draft.take m with
    | error e =>
      rw [first] at taken
      cases taken
    | ok next =>
      rw [first] at taken
      obtain ⟨types, datas⟩ := types_of_take first
      obtain ⟨types', datas'⟩ := ih taken
      rw [types', datas', types, datas, List.append_assoc, List.append_assoc, ← named_append,
        ← named_append]
      exact ⟨rfl, rfl⟩

theorem exists_take {draft : Draft} {m : String × Json} {type : Option String} {data : Option Json}
    {types datas : List Json}
    (once : draft.types ++ (named "event_type" [m] ++ types) = (type.map Json.string).toList)
    (once' : draft.data.toList ++ (named "data" [m] ++ datas) = data.toList) :
    ∃ next, draft.take m = .ok next := by
  obtain ⟨name, value⟩ := m
  rw [Draft.take]
  split_ifs with isType known isData given
  · obtain ⟨t, known⟩ := Option.isSome_iff_exists.mp known
    dsimp only at isType
    subst isType
    rw [Draft.types, known] at once
    exact absurd once (two_ne_toList _ _ _ _)
  · have unset : draft.eventType = none := Option.not_isSome_iff_eq_none.mp known
    dsimp only at isType
    subst isType
    rw [Draft.types, unset] at once
    cases type with
    | none => cases once
    | some s =>
      cases once
      exact ⟨_, rfl⟩
  · obtain ⟨j, given⟩ := Option.isSome_iff_exists.mp given
    dsimp only at isData
    subst isData
    rw [given] at once'
    exact absurd once' (two_ne_toList _ _ _ _)
  · exact ⟨_, rfl⟩
  · exact ⟨_, rfl⟩

theorem foldlM_take_of_types {draft : Draft} {ms : List (String × Json)} {type : Option String}
    {data : Option Json}
    (types : draft.types ++ named "event_type" ms = (type.map Json.string).toList)
    (datas : draft.data.toList ++ named "data" ms = data.toList) :
    ms.foldlM Draft.take draft = .ok ⟨type, data⟩ := by
  induction ms generalizing draft with
  | nil =>
    obtain ⟨type', data'⟩ := draft
    change (type'.map Json.string).toList ++ [] = _ at types
    change data'.toList ++ [] = _ at datas
    rw [List.append_nil] at types datas
    cases type <;> cases type' <;> cases types <;> cases data <;> cases data' <;> cases datas <;>
      rfl
  | cons m ms ih =>
    rw [← List.singleton_append, named_append] at types datas
    obtain ⟨next, first⟩ := exists_take types datas
    obtain ⟨types', datas'⟩ := types_of_take first
    rw [← List.append_assoc, ← types'] at types
    rw [← List.append_assoc, ← datas'] at datas
    rw [List.foldlM_cons, first, Json.Reader.ok_bind, ih types datas]

theorem ofContents_of_perm {ms extras : List (String × Json)} {t : String} {data : Option Json}
    (same : ms.Perm (("event_type", .string t) :: data.toList.map (fun v => ("data", v)) ++ extras))
    (others : ∀ m ∈ extras, m.1 ≠ "event_type" ∧ m.1 ≠ "data") :
    ofContents ms = .ok { eventType := t, data := data.getD .null } := by
  have noType : named "event_type" extras = [] := named_eq_nil fun m member => (others m member).1
  have noData : named "data" extras = [] := named_eq_nil fun m member => (others m member).2
  have types := named_perm same "event_type"
  have datas := named_perm same "data"
  rw [named_append, noType, List.append_nil] at types
  rw [named_append, noData, List.append_nil] at datas
  have type : named "event_type" ms = [.string t] := by
    cases data <;> exact List.perm_singleton.mp types
  have datas : named "data" ms = data.toList := by
    cases data with
    | none => exact List.perm_nil.mp datas
    | some j => exact List.perm_singleton.mp datas
  have taken : ms.foldlM Draft.take {} = .ok ⟨some t, data⟩ := foldlM_take_of_types type datas
  rw [ofContents, taken]
  rfl

theorem named_of_ofContents {ms : List (String × Json)} {e : Envelope}
    (read : ofContents ms = .ok e) :
    named "event_type" ms = [.string e.eventType] ∧ (named "data" ms).length ≤ 1 := by
  cases taken : ms.foldlM Draft.take {} with
  | error failure =>
    rw [ofContents, taken] at read
    cases read
  | ok draft =>
    obtain ⟨types, datas⟩ := types_of_foldlM taken
    rw [ofContents, taken, Json.Reader.ok_bind, Draft.envelope] at read
    cases known : draft.eventType with
    | none =>
      rw [known] at read
      cases read
    | some t =>
      rw [known] at read
      cases read
      rw [Draft.types, known] at types
      refine ⟨types.symm, ?_⟩
      change _ = [] ++ _ at datas
      rw [List.nil_append] at datas
      rw [← datas]
      cases draft.data <;> simp

end Envelope

namespace Event

open Json.Reader

theorem run_finish (input : List Piece) :
    StateT.run finish input =
      if input.dropWhile isBlank = [] then .ok ((), []) else .error .malformed := by
  change (if input.dropWhile isBlank ≠ [] then fail .malformed else pure () : Json.Reader Unit)
    (input.dropWhile isBlank) = _
  cases input.dropWhile isBlank <;> rfl

theorem run_finish_blanks {ws : List Char} (blank : Blanks ws) :
    StateT.run finish (ws.map .char) = .ok ((), []) := by
  have passed := List.dropWhile_eq_nil_iff.mpr (List.forall_mem_map.mpr fun c member =>
    isBlank_of_mem (blank c member) : ∀ p ∈ ws.map Piece.char, isBlank p = true)
  rw [run_finish, if_pos passed]

theorem exists_blanks {input : List Piece} (passed : ∀ p ∈ input, isBlank p = true) :
    ∃ ws, Blanks ws ∧ input = ws.map .char := by
  induction input with
  | nil => exact ⟨[], .nil, rfl⟩
  | cons p input ih =>
    obtain ⟨ws, blank, rfl⟩ := ih fun q member => passed q (List.mem_cons_of_mem p member)
    have first := passed p List.mem_cons_self
    simp only [isBlank, decide_eq_true_eq] at first
    have shape : ∃ c ∈ [' ', '\t', '\n', '\r'], p = .char c := by
      rcases first with rfl | rfl | rfl | rfl <;> exact ⟨_, by decide, rfl⟩
    obtain ⟨c, known, rfl⟩ := shape
    exact ⟨c :: ws, List.forall_mem_cons.mpr ⟨known, blank⟩, rfl⟩

theorem blanks_of_run_finish {after : ByteArray} {r : Unit × List Piece}
    (finished : StateT.run finish (Piece.ofBytes after) = .ok r) :
    ∃ ws, Blanks ws ∧ after = (String.ofList ws).toUTF8 := by
  rw [run_finish] at finished
  split_ifs at finished with none
  · obtain ⟨ws, blank, shape⟩ := exists_blanks (List.dropWhile_eq_nil_iff.mp none)
    refine ⟨ws, blank, ?_⟩
    rw [Piece.eq_utf8Encode_of_ofBytes shape]
    rfl

theorem decode_written {before object : List Char} {ms : List (String × Json)}
    (blank : Blanks before) (written : Envelope.Written object ms) (after : ByteArray) :
    decode ((String.ofList (before ++ object)).toUTF8 ++ after) =
      (Envelope.ofContents ms).mapError .unreadable >>= fun e => e.event? >>= fun event =>
        (StateT.run finish (Piece.ofBytes after)).mapError .unreadable >>= fun _ => .ok event := by
  have read := Envelope.run_reader written blank (Piece.ofBytes after)
  have pieces : Piece.ofBytes ((String.ofList (before ++ object)).toUTF8 ++ after) =
      before.map .char ++ (object.map .char ++ Piece.ofBytes after) := by
    have bytes := Piece.ofBytes_append (before ++ object) after
    rw [List.map_append, List.append_assoc] at bytes
    exact bytes
  rw [← pieces] at read
  cases known : Envelope.ofContents ms with
  | error failure =>
    rw [known] at read
    rw [decode, ofPieces, read]
    rfl
  | ok e =>
    rw [known] at read
    rw [decode, ofPieces_eq read]
    rfl

theorem exists_error {α : Type} {result : Except DecodeError α}
    (failed : ∀ a, result ≠ .ok a) : ∃ e, result = .error e := by
  cases result with
  | error e => exact ⟨e, rfl⟩
  | ok a => exact absurd rfl (failed a)

theorem contents_of_decode {before object : List Char} {ms : List (String × Json)}
    (blank : Blanks before) (written : Envelope.Written object ms) {after : ByteArray} {event : Event}
    (decoded : decode ((String.ofList (before ++ object)).toUTF8 ++ after) = .ok event) :
    (∃ t, Envelope.named "event_type" ms = [.string t]) ∧
      (Envelope.named "data" ms).length ≤ 1 ∧
      ∃ ws, Blanks ws ∧ after = (String.ofList ws).toUTF8 := by
  rw [decode_written blank written] at decoded
  cases known : Envelope.ofContents ms with
  | error failure =>
    rw [known] at decoded
    cases decoded
  | ok e =>
    obtain ⟨type, data⟩ := Envelope.named_of_ofContents known
    refine ⟨⟨_, type⟩, data, ?_⟩
    rw [known] at decoded
    cases judged : e.event? with
    | error failure =>
      change e.event? >>= _ = _ at decoded
      rw [judged] at decoded
      cases decoded
    | ok event' =>
      change e.event? >>= _ = _ at decoded
      rw [judged] at decoded
      cases finished : StateT.run finish (Piece.ofBytes after) with
      | error failure =>
        rw [finished] at decoded
        cases decoded
      | ok r => exact blanks_of_run_finish finished

theorem decode_of_perm {before object ws : List Char} {ms extras : List (String × Json)} {t : String}
    {data : Option Json} (blank : Blanks before) (written : Envelope.Written object ms)
    (same : ms.Perm (("event_type", .string t) :: data.toList.map (fun v => ("data", v)) ++ extras))
    (others : ∀ m ∈ extras, m.1 ≠ "event_type" ∧ m.1 ≠ "data") (after : Blanks ws) :
    decode ((String.ofList (before ++ object)).toUTF8 ++ (String.ofList ws).toUTF8) =
      Envelope.event? { eventType := t, data := data.getD .null } := by
  have finished : StateT.run finish (Piece.ofBytes (String.ofList ws).toUTF8) = .ok ((), []) := by
    rw [Piece.ofBytes_toUTF8, String.toList_ofList]
    exact run_finish_blanks after
  rw [decode_written blank written, Envelope.ofContents_of_perm same others, finished]
  change Envelope.event? _ >>= _ = _
  cases Envelope.event? { eventType := t, data := data.getD .null } <;> rfl

/-- An event depends on what stands in its envelope: not on the order of the members, on others
    among them, on the blanks between the tokens or on how the strings are escaped. -/
theorem decode_ignores_layout {before object : List Char} {ms : List (String × Json)}
    (blank : Blanks before) (written : Envelope.Written object ms) (after : ByteArray) :
    let read := decode ((String.ofList (before ++ object)).toUTF8 ++ after)
    let finished := ∃ ws, Blanks ws ∧ after = (String.ofList ws).toUTF8
    (∀ before' object', Blanks before' → Envelope.Written object' ms →
      decode ((String.ofList (before' ++ object')).toUTF8 ++ after) = read) ∧
    (∀ t data extras,
      ms.Perm (("event_type", .string t) :: data.toList.map (fun v => ("data", v)) ++ extras) →
      (∀ m ∈ extras, m.1 ≠ "event_type" ∧ m.1 ≠ "data") → finished →
      (t = "trigger_all" → read = .ok .triggerAll) ∧
      (t = "trigger_by_rule_ids" →
        (data = none ∨ data = some .null → read = .ok (.triggerByRuleIds [])) ∧
        (∀ ids, data = some (.ofStrings ids) → read = .ok (.triggerByRuleIds ids)) ∧
        ∀ v, data = some v → v ≠ .null → (∀ ids, v ≠ .ofStrings ids) →
          read = .error .notRuleIds) ∧
      (t ≠ "trigger_all" → t ≠ "trigger_by_rule_ids" → read = .ok (.other t (data.getD .null)))) ∧
    (Envelope.named "event_type" ms = [] ∨
        (∃ v ∈ Envelope.named "event_type" ms, ∀ t, v ≠ .string t) ∨
        1 < (Envelope.named "event_type" ms).length ∨ 1 < (Envelope.named "data" ms).length ∨
        ¬ finished → ∃ e, read = .error e) := by
  intro read finished
  refine ⟨?_, ?_, ?_⟩
  · intro before' object' blank' written'
    exact (decode_written blank' written' after).trans (decode_written blank written after).symm
  · rintro t data extras same others ⟨ws, trailing, rfl⟩
    have judged : read = Envelope.event? { eventType := t, data := data.getD .null } :=
      decode_of_perm blank written same others trailing
    rw [judged]
    refine ⟨?_, ?_, ?_⟩
    · rintro rfl
      rfl
    · rintro rfl
      refine ⟨?_, ?_, ?_⟩
      · rintro (rfl | rfl) <;> rfl
      · rintro ids rfl
        exact Envelope.event?_ofStrings ids
      · rintro v rfl null strings
        exact Envelope.event?_notRuleIds null strings
    · intro all ids
      have type : EventType.ofName t = .other t := EventType.ofName_eq_other.mpr ⟨rfl, all, ids⟩
      simp [Envelope.event?, type]
  · intro wrong
    refine exists_error fun event decoded => ?_
    obtain ⟨⟨t, type⟩, data, trailing⟩ := contents_of_decode blank written decoded
    rw [type] at wrong
    rcases wrong with missing | ⟨v, member, other⟩ | twice | twice | more
    · cases missing
    · exact other t (List.mem_singleton.mp member)
    · exact absurd twice (Nat.lt_irrefl 1)
    · omega
    · exact more trailing

def sampleType : Json.Member where
  key := ⟨['\n'], '"' :: (['\\', 'u', '0', '0', '6', '5'] ++ "vent_type".toList ++ ['"']), [' '],
    "event_type"⟩
  value := ⟨[], Json.stringText "trigger_by_rule_ids", ['\n'], .string "trigger_by_rule_ids"⟩

def sampleData : Json.Member where
  key := ⟨[' '], Json.stringText "data", ['\t'], "data"⟩
  value := ⟨[' '], (Json.ofStrings ["ns/r"]).text, [], .ofStrings ["ns/r"]⟩

def sampleObject : List Char :=
  '\x7b' :: (Json.separated sampleData.laid [sampleType.laid] ++ ['\x7d'])

theorem written_sampleObject :
    Envelope.Written sampleObject
      [("data", .ofStrings ["ns/r"]), ("event_type", .string "trigger_by_rule_ids")] := by
  have blank : Blanks [' '] ∧ Blanks ['\t'] ∧ Blanks ['\n'] := by
    refine ⟨?_, ?_, ?_⟩ <;> exact List.forall_mem_singleton.mpr (by decide)
  have quad : Json.Quad ['0', '0', '6', '5'] 'e'.toNat := by
    have zero : Text.hexValue? '0' = some 0 := rfl
    have six : Text.hexValue? '6' = some 6 := rfl
    have five : Text.hexValue? '5' = some 5 := rfl
    exact .digits zero zero six five
  have type : Envelope.Spelled sampleType := by
    refine ⟨⟨⟨blank.2.2, blank.1⟩, ⟨.nil, blank.2.2⟩, ⟨_, rfl, ?_⟩⟩, ⟨0, ?_⟩, nofun⟩
    · exact .cons (.code quad) (Json.spelling_escaped "vent_type".toList)
    · exact .scalar (.string (Json.quoted_stringText _))
  have data : Envelope.Spelled sampleData := by
    have value : Json.Spells 126 (Json.ofStrings ["ns/r"]).text (.ofStrings ["ns/r"]) :=
      (Json.fits_ofStrings 125 _).spells (Json.whole_ofStrings _)
    exact ⟨⟨⟨blank.1, blank.2.1⟩, ⟨blank.1, .nil⟩, Json.quoted_stringText _⟩, ⟨126, value⟩,
      fun _ => value⟩
  exact .members (List.forall_mem_cons.mpr ⟨data, List.forall_mem_singleton.mpr type⟩)

theorem decode_ignores_layout_escaped :
    decode ((String.ofList sampleObject).toUTF8 ++ "\n".toUTF8) =
      .ok (.triggerByRuleIds ["ns/r"]) := by
  have layout := decode_ignores_layout .nil written_sampleObject "\n".toUTF8
  have finished : ∃ ws, Blanks ws ∧ "\n".toUTF8 = (String.ofList ws).toUTF8 :=
    ⟨['\n'], List.forall_mem_singleton.mpr (by decide), rfl⟩
  have members := layout.2.1 "trigger_by_rule_ids" (some (.ofStrings ["ns/r"])) []
    (List.Perm.swap _ _ []) nofun finished
  exact (members.2.1 rfl).2.1 ["ns/r"] rfl

end Event

end ReachAudit
