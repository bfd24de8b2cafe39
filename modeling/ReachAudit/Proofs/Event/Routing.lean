import Mathlib.Data.List.Induction
import ReachAudit.Dispatch
import ReachAudit.Proofs.Event.RoundTrip

namespace ReachAudit

open ReachAudit.Text (Piece)

theorem EventType.ofName_inj {a b : String} : ofName a = ofName b ↔ a = b := by
  constructor
  · intro same
    rw [← name_ofName a, same, name_ofName]
  · rintro rfl
    rfl

theorem Json.stringText_cancel {s t : String} {rest rest' : List Char}
    (same : stringText s ++ rest = stringText t ++ rest') : s = t := by
  have reads (s : String) (rest : List Char) :
      StateT.run Reader.stringBody ((stringText s ++ rest).tail.map .char) =
        .ok (s, rest.map .char) := by
    have body := Reader.run_stringBody (spelling_escaped s.toList) (rest.map Piece.char)
    simpa [stringText] using body
  have read := reads s rest
  rw [same, reads t rest', Except.ok.injEq, Prod.mk.injEq] at read
  exact read.1.symm

theorem Envelope.text_eq (e : Envelope) :
    e.text = Json.stringText "event_type" ++
      ':' :: (Json.stringText e.eventType ++ ',' :: Json.membersText [("data", e.data)]) := by
  simp [text, Json.membersText, Json.text]

/-- The name in the field for the type in an event's encoded envelope. -/
def Event.EncodedUnder (e : Event) (name : String) : Prop :=
  ∃ data, e.encode =
    String.ofList ('\x7b' :: ({ eventType := name, data } : Envelope).text ++ ['\x7d'])

theorem Event.encodedUnder_iff {e : Event} {name : String} :
    e.EncodedUnder name ↔ name = e.envelope.eventType := by
  constructor
  · rintro ⟨data, same⟩
    have letters := List.append_cancel_right (String.ofList_injective same)
    rw [List.cons.injEq, Envelope.text_eq, Envelope.text_eq] at letters
    have after := List.append_cancel_left letters.2
    rw [List.cons.injEq] at after
    exact (Json.stringText_cancel after.2).symm
  · rintro rfl
    exact ⟨e.envelope.data, rfl⟩

namespace DispatchTable

variable {η ε : Type}

inductive Request (η : Type) where
  | register (name : String) (handler : η)
  | dispatch (event : Event)

def Request.handlerFor? (name : String) : Request η → Option η
  | .register other handler => if other = name then some handler else none
  | .dispatch _ => none

def lastRegistered (name : String) (requests : List (Request η)) : Option η :=
  (requests.filterMap (·.handlerFor? name)).getLast?

def registered (table : DispatchTable η) (requests : List (Request η)) : DispatchTable η :=
  requests.foldl (fun table request => match request with
    | .register name handler => table.register (.ofName name) handler
    | .dispatch _ => table) table

variable {m : Type → Type} [Monad m]

def handled (handle : η → Event → m (Except ε Unit)) (event : Event) :
    Option η → m (Except ε Unit)
  | some handler => handle handler event
  | none => pure (.ok ())

def serve (table : DispatchTable η) (handle : η → Event → m (Except ε Unit)) :
    List (Request η) → m (List (Except ε Unit))
  | [] => return []
  | .register name handler :: rest => serve (table.register (.ofName name) handler) handle rest
  | .dispatch event :: rest => do
    let result ← table.dispatch handle event
    let later ← serve table handle rest
    return result :: later

theorem lastRegistered_concat (name : String) (requests : List (Request η)) (r : Request η) :
    lastRegistered name (requests ++ [r]) =
      (r.handlerFor? name).or (lastRegistered name requests) := by
  unfold lastRegistered
  rw [List.filterMap_append]
  cases own : r.handlerFor? name <;> simp [own]

theorem lastRegistered_insert_other {name other : String} (differ : other ≠ name) (handler : η)
    (first second : List (Request η)) :
    lastRegistered name (first ++ .register other handler :: second) =
      lastRegistered name (first ++ second) := by
  unfold lastRegistered
  rw [List.filterMap_append, List.filterMap_append, List.filterMap_cons_none]
  exact if_neg differ

theorem route_registered (requests : List (Request η)) (event : Event) :
    (registered {} requests).route event = lastRegistered event.envelope.eventType requests := by
  induction requests using List.reverseRecOn with
  | nil => rfl
  | append_singleton requests request ih =>
    rw [registered, List.foldl_concat, ← registered, lastRegistered_concat, ← ih]
    cases request with
    | register name handler =>
      rw [route_register, Event.type_eq_ofName]
      by_cases own : name = event.envelope.eventType
      · simp [Request.handlerFor?, own]
      · simp [Request.handlerFor?, EventType.ofName_inj, own]
    | dispatch other => rfl

theorem dispatch_registered (requests : List (Request η)) (handle : η → Event → m (Except ε Unit))
    (event : Event) :
    (registered {} requests).dispatch handle event =
      handled handle event (lastRegistered event.envelope.eventType requests) := by
  rw [dispatch, route_registered]
  rfl

theorem serve_append [LawfulMonad m] (table : DispatchTable η)
    (handle : η → Event → m (Except ε Unit)) (first second : List (Request η)) :
    table.serve handle (first ++ second) = do
      let results ← table.serve handle first
      let later ← (table.registered first).serve handle second
      return results ++ later := by
  induction first generalizing table with
  | nil => simp [serve, registered]
  | cons request first ih =>
    cases request with
    | register name handler => exact ih _
    | dispatch event => simp [serve, ih, registered]

/-- Among any registrations and dispatches, an event is given to the handler most recently
    registered under the name that its encoded envelope has for the type, and what that handler
    returns is the result. Without such a registration nothing is called. Registrations under other
    names do not matter. -/
theorem events_routed_by_wire_name [LawfulMonad m] (handle : η → Event → m (Except ε Unit))
    (before later : List (Request η)) (event : Event) :
    ∃ name, (∀ other, event.EncodedUnder other ↔ other = name) ∧
      serve {} handle (before ++ .dispatch event :: later) = (do
        let results ← serve {} handle before
        let result ← handled handle event (lastRegistered name before)
        let others ← (registered {} before).serve handle later
        return results ++ result :: others) ∧
      ∀ other handler first second, other ≠ name →
        (registered {} (first ++ .register other handler :: second)).dispatch handle event =
          (registered {} (first ++ second)).dispatch handle event := by
  refine ⟨event.envelope.eventType, fun other => Event.encodedUnder_iff, ?_, ?_⟩
  · rw [serve_append, ← dispatch_registered]
    simp [serve]
  · intro other handler first second differ
    rw [dispatch_registered, dispatch_registered, lastRegistered_insert_other differ]

def noted (handler : Nat) (_ : Event) : StateM (List Nat) (Except String Unit) := do
  modify (· ++ [handler])
  return if handler = 2 then .error "refused" else .ok ()

theorem events_routed_by_wire_name_replaced :
    ∃ name, (∀ other, (Event.other "trigger_all" .null).EncodedUnder other ↔ other = name) ∧
      (serve {} noted [.register "trigger_all" 1, .dispatch .triggerAll, .register "scan" 3,
        .register name 2, .dispatch (.other "trigger_all" .null)]).run [] =
        ([.ok (), .error "refused"], [1, 2]) := by
  obtain ⟨name, encoded, served, _⟩ := events_routed_by_wire_name noted
    [.register "trigger_all" 1, .dispatch .triggerAll, .register "scan" 3,
      .register "trigger_all" 2] [] (.other "trigger_all" .null)
  obtain rfl : "trigger_all" = name := (encoded _).mp (Event.encodedUnder_iff.mpr rfl)
  refine ⟨_, encoded, ?_⟩
  exact (congrArg (StateT.run · []) served).trans rfl

end DispatchTable

end ReachAudit
