import ReachAudit.Proofs.Event.Envelope
import ReachAudit.Proofs.Text.Pieces

namespace ReachAudit

open ReachAudit.Text (Piece)

namespace Event

/-- An event of a type that only its sender knows has a type of its own. -/
def Canonical : Event → Prop
  | .other name _ => name ≠ "trigger_all" ∧ name ≠ "trigger_by_rule_ids"
  | _ => True

def Fits : Event → Prop
  | .other _ data => data.Fits 126
  | _ => True

def Whole : Event → Prop
  | .other _ data => data.Whole
  | _ => True

theorem ofBytes_encode (e : Event) :
    Piece.ofBytes e.encode.toUTF8 = ('\x7b' :: e.envelope.text ++ ['\x7d']).map .char := by
  rw [encode, Piece.ofBytes_toUTF8, String.toList_ofList]

theorem fits_envelope {e : Event} (fits : e.Fits) : e.envelope.data.Fits Envelope.dataDepth := by
  cases e with
  | triggerAll => exact .null
  | triggerByRuleIds ids => exact Json.fits_ofStrings 125 ids
  | other name data => exact fits

theorem whole_envelope {e : Event} (whole : e.Whole) : e.envelope.data.Whole := by
  cases e with
  | triggerAll => exact .null
  | triggerByRuleIds ids => exact Json.whole_ofStrings ids
  | other name data => exact whole

theorem ofPieces_eq {input rest : List Piece} {envelope : Envelope}
    (read : StateT.run Envelope.reader input = .ok (envelope, rest)) :
    ofPieces input = envelope.event? >>= fun event =>
      (StateT.run Json.Reader.finish rest).mapError .unreadable >>= fun _ => .ok event := by
  rw [ofPieces, read]
  rfl

theorem exists_of_decode {payload : ByteArray} {e : Event} (decoded : decode payload = .ok e) :
    ∃ envelope rest, StateT.run Envelope.reader (Piece.ofBytes payload) = .ok (envelope, rest) ∧
      envelope.event? = .ok e := by
  rw [decode] at decoded
  -- Reading the envelope, judging it and finding nothing after it can each fail.
  cases read : StateT.run Envelope.reader (Piece.ofBytes payload) with
  | error failure =>
    rw [ofPieces, read] at decoded
    cases decoded
  | ok found =>
    refine ⟨found.1, found.2, rfl, ?_⟩
    rw [ofPieces_eq read] at decoded
    cases judged : found.1.event? with
    | error failure =>
      rw [judged] at decoded
      cases decoded
    | ok event =>
      rw [judged] at decoded
      cases finished : StateT.run Json.Reader.finish found.2 with
      | error failure =>
        rw [finished] at decoded
        cases decoded
      | ok after =>
        rw [finished] at decoded
        cases decoded
        rfl

theorem decode_encode_eq {e : Event} (fits : e.Fits) (whole : e.Whole) :
    decode e.encode.toUTF8 = e.envelope.event? := by
  have written := Envelope.written_text (fits_envelope fits) (whole_envelope whole)
  have read := Envelope.run_reader written .nil []
  rw [Envelope.ofContents_text, List.map_nil, List.nil_append, List.append_nil] at read
  rw [decode, ofBytes_encode, ofPieces_eq read]
  cases e.envelope.event? <;> rfl

end Event

theorem EventType.ofName_eq_other {name other : String} :
    ofName name = .other other ↔
      name = other ∧ name ≠ "trigger_all" ∧ name ≠ "trigger_by_rule_ids" := by
  unfold ofName
  split_ifs with all ids
  · simp [all]
  · simp [ids]
  · simp [all, ids]

namespace Envelope

theorem mapM_ruleId? {items : List Json} {ids : List RuleId} :
    items.mapM ruleId? = some ids ↔ items = ids.map Json.string := by
  induction items generalizing ids with
  | nil => cases ids <;> simp
  | cons item items ih =>
    cases item with
    | string id =>
      cases ids with
      | nil => simp [ruleId?, Option.bind_eq_some_iff]
      | cons first ids => simp [ruleId?, Option.bind_eq_some_iff, ih, and_comm]
    | _ => cases ids <;> simp [ruleId?]

theorem event?_ofStrings (ids : List RuleId) :
    event? { eventType := "trigger_by_rule_ids", data := .ofStrings ids } =
      .ok (.triggerByRuleIds ids) := by
  have strings : (ids.map Json.string).mapM ruleId? = some ids := mapM_ruleId?.mpr rfl
  simp [event?, EventType.ofName, Json.ofStrings, strings]

theorem event?_notRuleIds {data : Json} (null : data ≠ .null)
    (strings : ∀ ids, data ≠ .ofStrings ids) :
    event? { eventType := "trigger_by_rule_ids", data } = .error .notRuleIds := by
  have judged (ids : List RuleId) : data ≠ .array (ids.map .string) := strings ids
  cases data with
  | null => exact absurd rfl null
  | array items =>
    cases found : items.mapM ruleId? with
    | none => simp [event?, EventType.ofName, found]
    | some ids => exact absurd (congrArg Json.array (mapM_ruleId?.mp found)) (strings ids)
  | _ => rfl

theorem event?_cases {e : Envelope} {event : Event} (judged : e.event? = .ok event) :
    (event = .triggerAll ∧ EventType.ofName e.eventType = .triggerAll) ∨
      (∃ ids, event = .triggerByRuleIds ids ∧
        EventType.ofName e.eventType = .triggerByRuleIds) ∨
      ∃ name, event = .other name e.data ∧ EventType.ofName e.eventType = .other name := by
  unfold event? at judged
  split at judged
  · rename_i type
    cases judged
    exact Or.inl ⟨rfl, type⟩
  · rename_i type
    split at judged
    · cases judged
      exact Or.inr (Or.inl ⟨[], rfl, type⟩)
    · split at judged
      · rename_i ids _
        cases judged
        exact Or.inr (Or.inl ⟨ids, rfl, type⟩)
      · cases judged
    · cases judged
  · rename_i name type
    cases judged
    exact Or.inr (Or.inr ⟨name, rfl, type⟩)

theorem canonical_of_event? {e : Envelope} {event : Event} (judged : e.event? = .ok event) :
    event.Canonical ∧ event.type = .ofName e.eventType := by
  rcases event?_cases judged with ⟨rfl, type⟩ | ⟨ids, rfl, type⟩ | ⟨name, rfl, type⟩
  · exact ⟨trivial, type.symm⟩
  · exact ⟨trivial, type.symm⟩
  · obtain ⟨rfl, own⟩ := EventType.ofName_eq_other.mp type
    exact ⟨own, rfl⟩

theorem fits_of_event? {e : Envelope} (fits : e.data.Fits dataDepth) {event : Event}
    (judged : e.event? = .ok event) : event.Fits := by
  rcases event?_cases judged with ⟨rfl, _⟩ | ⟨ids, rfl, _⟩ | ⟨name, rfl, _⟩
  · trivial
  · trivial
  · exact fits

end Envelope

namespace Event

theorem event?_envelope {e : Event} (canonical : e.Canonical) : e.envelope.event? = .ok e := by
  cases e with
  | triggerAll => rfl
  | triggerByRuleIds ids => exact Envelope.event?_ofStrings ids
  | other name data =>
    have type : EventType.ofName name = .other name :=
      EventType.ofName_eq_other.mpr ⟨rfl, canonical⟩
    simp [envelope, Envelope.event?, type]

theorem decode_encode_canonical {e : Event} (fits : e.Fits) (whole : e.Whole)
    (canonical : e.Canonical) : decode e.encode.toUTF8 = .ok e := by
  rw [decode_encode_eq fits whole, event?_envelope canonical]

theorem type_eq_ofName (e : Event) : e.type = .ofName e.envelope.eventType := by
  cases e <;> rfl

/-- Events are read back from what is written just when they are canonical. One that has the type of
    a trigger without being one is read as that trigger, if its data is what the trigger holds, and
    else not at all. Whatever is read is canonical, and of the type that was written. -/
theorem decode_encode :
    (∀ e : Event, e.Fits → e.Whole → (decode e.encode.toUTF8 = .ok e ↔ e.Canonical)) ∧
    (∀ data : Json, data.Fits 126 → data.Whole →
      decode (other "trigger_all" data).encode.toUTF8 = .ok .triggerAll) ∧
    (∀ data : Json, data.Fits 126 → data.Whole →
      let read := decode (other "trigger_by_rule_ids" data).encode.toUTF8
      (data = .null → read = .ok (.triggerByRuleIds [])) ∧
      (∀ ids, data = .ofStrings ids → read = .ok (.triggerByRuleIds ids)) ∧
      (data ≠ .null → (∀ ids, data ≠ .ofStrings ids) → read = .error .notRuleIds)) ∧
    (∀ payload e, decode payload = .ok e →
      e.Canonical ∧ e.Fits ∧ (e.Whole → decode e.encode.toUTF8 = .ok e)) ∧
    ∀ e read : Event, decode e.encode.toUTF8 = .ok read → read.type = e.type := by
  refine ⟨?_, ?_, ?_, ?_, ?_⟩
  · intro e fits whole
    refine ⟨fun same => ?_, decode_encode_canonical fits whole⟩
    rw [decode_encode_eq fits whole] at same
    exact (Envelope.canonical_of_event? same).1
  · intro data fits whole
    exact decode_encode_eq (e := other "trigger_all" data) fits whole
  · intro data fits whole read
    have judged : read = Envelope.event? { eventType := "trigger_by_rule_ids", data } :=
      decode_encode_eq (e := other "trigger_by_rule_ids" data) fits whole
    rw [judged]
    refine ⟨?_, ?_, Envelope.event?_notRuleIds⟩
    · rintro rfl
      rfl
    · rintro ids rfl
      exact Envelope.event?_ofStrings ids
  · intro payload e decoded
    obtain ⟨envelope, rest, found, judged⟩ := exists_of_decode decoded
    have fits := Envelope.fits_of_event? (Envelope.yields_reader_fits _ _ _ found) judged
    have canonical := (Envelope.canonical_of_event? judged).1
    exact ⟨canonical, fits, fun whole => decode_encode_canonical fits whole canonical⟩
  · intro e read decoded
    obtain ⟨envelope, rest, found, judged⟩ := exists_of_decode decoded
    rw [ofBytes_encode] at found
    rw [(Envelope.canonical_of_event? judged).2, Envelope.eventType_of_run_reader found,
      type_eq_ofName]

def nested : Json := .object [("at", .number (.int (-3))), ("to", .ofStrings ["\"", "é"])]

theorem fits_nested : nested.Fits 126 := by
  apply Json.Fits.object (by decide)
  intro m member
  rcases List.mem_pair.mp member with rfl | rfl
  · exact .number (by simp [Number.InRange, UInt64.size])
  · exact Json.fits_ofStrings 124 _

theorem whole_nested : nested.Whole := by
  apply Json.Whole.object
  intro m member
  rcases List.mem_pair.mp member with rfl | rfl
  · exact .number (-3)
  · exact Json.whole_ofStrings _

theorem decode_encode_nested :
    decode (other "scan" nested).encode.toUTF8 = .ok (other "scan" nested) ∧
      decode (other "trigger_all" nested).encode.toUTF8 = .ok .triggerAll ∧
      decode (other "trigger_by_rule_ids" nested).encode.toUTF8 = .error .notRuleIds ∧
      decode (other "trigger_by_rule_ids" (.ofStrings ["ns/r"])).encode.toUTF8 =
        .ok (.triggerByRuleIds ["ns/r"]) ∧
      triggerAll.type = (other "trigger_all" nested).type := by
  obtain ⟨canonical, all, listed, _, type⟩ := decode_encode
  have scan := (canonical (other "scan" nested) fits_nested whole_nested).mpr
    ⟨by decide, by decide⟩
  have whole := all nested fits_nested whole_nested
  have ids := listed (.ofStrings ["ns/r"]) (Json.fits_ofStrings 125 _) (Json.whole_ofStrings _)
  have refused := (listed nested fits_nested whole_nested).2.2 (by simp [nested])
    (fun ids same => by cases same)
  exact ⟨scan, whole, refused, ids.2.1 ["ns/r"] rfl, type _ _ whole⟩

end Event

end ReachAudit
