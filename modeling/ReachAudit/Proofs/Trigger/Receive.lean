import Mathlib.Data.List.Count
import ReachAudit.Proofs.Event.RoundTrip
import ReachAudit.Trigger

namespace ReachAudit

variable {η ε : Type}

def DispatchTable.call? (table : DispatchTable η) (event : Event) : Option (η × Event) :=
  let handler? := match event with
    | .triggerAll => table.handlers.get? .triggerAll
    | .triggerByRuleIds _ => table.handlers.get? .triggerByRuleIds
    | .other name _ => table.handlers.get? (.other name)
  handler?.map fun handler => (handler, event)

def Event.countsAs (kind : TriggerKind) : Event → Bool
  | .triggerAll => kind = .all
  | .triggerByRuleIds _ => kind = .byRuleIds
  | .other _ _ => kind = .other

section Canonical

variable {event : Event} (canonical : event.Canonical)

include canonical

theorem DispatchTable.call?_of_canonical (table : DispatchTable η) :
    table.call? event = (table.handlers.get? event.type).map fun handler => (handler, event) := by
  cases event with
  | triggerAll => rfl
  | triggerByRuleIds ids => rfl
  | other name data =>
    have type : EventType.ofName name = .other name :=
      EventType.ofName_eq_other.mpr ⟨rfl, canonical⟩
    rw [call?, Event.type, type]

theorem Event.Canonical.countsAs_eq (kind : TriggerKind) :
    event.countsAs kind = decide (kind = event.type.kind) := by
  cases event with
  | triggerAll => rfl
  | triggerByRuleIds ids => rfl
  | other name data =>
    have type : EventType.ofName name = .other name :=
      EventType.ofName_eq_other.mpr ⟨rfl, canonical⟩
    rw [countsAs, Event.type, type, EventType.kind]

end Canonical

namespace Trigger

def event? (payload : ByteArray) : Option Event := (Event.decode payload).toOption

def rejected (payloads : List ByteArray) : Nat := payloads.countP fun p => (event? p).isNone

def received (kind : TriggerKind) (payloads : List ByteArray) : Nat :=
  (payloads.filterMap event?).countP (Event.countsAs kind)

theorem canonical_of_held {payload : ByteArray} {event : Event}
    (held : event? payload = some event) : event.Canonical := by
  rw [event?] at held
  cases decoded : Event.decode payload with
  | error e =>
    rw [decoded] at held
    cases held
  | ok read =>
    rw [decoded] at held
    cases held
    obtain ⟨envelope, rest, -, judged⟩ := Event.exists_of_decode decoded
    exact (Envelope.canonical_of_event? judged).1

def calls (table : DispatchTable η) (payloads : List ByteArray) : List (η × Event) :=
  payloads.flatMap fun p => ((event? p).bind table.call?).toList

structure Trace (η : Type) where
  calls : List (η × Event) := []
  metrics : Metrics := {}

def Trace.after (t : Trace η) (table : DispatchTable η) (payloads : List ByteArray) : Trace η where
  calls := t.calls ++ Trigger.calls table payloads
  metrics := {
    t.metrics with
    triggers := fun kind => t.metrics.triggers kind + received kind payloads
    malformedTriggers := t.metrics.malformedTriggers + rejected payloads }

variable {m : Type → Type} [Monad m]

/-- A handler whose calls are kept. What it does and returns is left open. -/
def traced (behave : η → Event → m (Except ε Unit)) (handler : η) (event : Event) :
    StateT (Trace η) m (Except ε Unit) := do
  modify fun t => { t with calls := t.calls ++ [(handler, event)] }
  StateT.lift (behave handler event)

def counted (change : Metrics → Metrics) : StateT (Trace η) m Unit :=
  modify fun t => { t with metrics := change t.metrics }

def handleAll (behave : η → Event → m (Except ε Unit)) (cs : List (η × Event)) : m Unit :=
  cs.forM fun c => do let _ ← behave c.1 c.2

theorem calls_append (table : DispatchTable η) (xs ys : List ByteArray) :
    calls table (xs ++ ys) = calls table xs ++ calls table ys :=
  List.flatMap_append

theorem Trace.after_append (t : Trace η) (table : DispatchTable η) (xs ys : List ByteArray) :
    t.after table (xs ++ ys) = (t.after table xs).after table ys := by
  simp [after, calls_append, received, rejected, Nat.add_assoc]

theorem calls_rejected (table : DispatchTable η) {payload : ByteArray}
    (none : event? payload = none) : calls table [payload] = [] := by
  simp [calls, none]

theorem calls_received (table : DispatchTable η) {payload : ByteArray} {event : Event}
    (held : event? payload = some event) :
    calls table [payload] = (table.call? event).toList := by
  simp [calls, held]

theorem Trace.after_rejected (t : Trace η) (table : DispatchTable η) {payload : ByteArray}
    (none : event? payload = none) :
    t.after table [payload] = { t with metrics := t.metrics.triggerMalformed } := by
  simp [after, calls_rejected table none, received, rejected, none, Metrics.triggerMalformed]

theorem Trace.after_received (t : Trace η) (table : DispatchTable η) {payload : ByteArray}
    {event : Event} (held : event? payload = some event) :
    t.after table [payload] = {
      calls := t.calls ++ (table.call? event).toList
      metrics := t.metrics.triggerReceived event.type } := by
  simp [after, calls_received table held, received, rejected, held, Metrics.triggerReceived,
    List.countP_cons, (canonical_of_held held).countsAs_eq]

variable [LawfulMonad m]

theorem handleAll_append (behave : η → Event → m (Except ε Unit)) (cs ds : List (η × Event)) :
    handleAll behave (cs ++ ds) = handleAll behave cs >>= fun _ => handleAll behave ds :=
  List.forM_append

theorem run_dispatch (table : DispatchTable η) (behave : η → Event → m (Except ε Unit))
    {event : Event} (canonical : event.Canonical) (t : Trace η) :
    StateT.run (table.dispatch (traced behave) event >>= fun _ => pure ()) t = do
      handleAll behave (table.call? event).toList
      return ((), { t with calls := t.calls ++ (table.call? event).toList }) := by
  rw [DispatchTable.dispatch, DispatchTable.route, table.call?_of_canonical canonical]
  cases table.handlers.get? event.type with
  | none => simp [handleAll]
  | some handler => simp [handleAll, traced]

theorem run_receiveOne (table : DispatchTable η) (behave : η → Event → m (Except ε Unit))
    (payload : ByteArray) (t : Trace η) :
    StateT.run (receiveOne table (traced behave) counted payload) t = do
      handleAll behave (calls table [payload])
      return ((), t.after table [payload]) := by
  rw [receiveOne]
  cases decoded : Event.decode payload with
  | error e =>
    have none : event? payload = none := by rw [event?, decoded]; rfl
    rw [calls_rejected table none, t.after_rejected table none]
    simp [counted, handleAll]
  | ok event =>
    have held : event? payload = some event := by rw [event?, decoded]; rfl
    have dispatched := run_dispatch table behave (canonical_of_held held)
      { t with metrics := t.metrics.triggerReceived event.type }
    rw [calls_received table held, t.after_received table held]
    simpa [counted] using dispatched

theorem run_receive (table : DispatchTable η) (behave : η → Event → m (Except ε Unit))
    (payloads : List ByteArray) (t : Trace η) :
    StateT.run (receive table (traced behave) counted payloads) t = do
      handleAll behave (calls table payloads)
      return ((), t.after table payloads) := by
  induction payloads generalizing t with
  | nil => simp [receive, handleAll, calls, Trace.after, rejected, received]
  | cons payload payloads ih =>
    have split : calls table (payload :: payloads) =
        calls table [payload] ++ calls table payloads := calls_append table [payload] payloads
    have after : t.after table (payload :: payloads) =
        (t.after table [payload]).after table payloads := t.after_append table [payload] payloads
    -- The rest starts from the trace that the first payload leaves.
    change StateT.run (do
      receiveOne table (traced behave) counted payload
      receive table (traced behave) counted payloads) t = _
    rw [StateT.run_bind, run_receiveOne, split, handleAll_append, after]
    simp only [bind_assoc, pure_bind, ih]

theorem receive_append (table : DispatchTable η) (handle : η → Event → m (Except ε Unit))
    (count : (Metrics → Metrics) → m Unit) (xs ys : List ByteArray) :
    receive table handle count (xs ++ ys) =
      receive table handle count xs >>= fun _ => receive table handle count ys :=
  List.forM_append

theorem rejected_add_received (payloads : List ByteArray) :
    rejected payloads + (received .all payloads + received .byRuleIds payloads +
      received .other payloads) = payloads.length := by
  induction payloads with
  | nil => rfl
  | cons payload payloads ih =>
    simp only [rejected, received] at ih ⊢
    cases held : event? payload with
    | none =>
      simp only [List.countP_cons, List.filterMap_cons, held, List.length_cons, Option.isNone_none,
        if_true]
      omega
    | some event =>
      simp only [List.countP_cons, List.filterMap_cons, held, List.length_cons, Option.isNone_some]
      cases event <;> simp [Event.countsAs] <;> omega

end Trigger

namespace Metrics

def TriggerLine (type : String) (count : Nat) (line : String) : Prop :=
  count ≠ 0 ∧ line = "triggers_total\x7bevent_type=\"" ++ type ++ "\"\x7d " ++ count.repr

variable {metrics : Metrics} {line : String}

theorem triggerSeries_eq_some {type : String} {count : Nat} :
    series "triggers" [("event_type", type)] count = some line ↔ TriggerLine type count line := by
  have opening : "triggers_total\x7bevent_type=\"" =
      "triggers" ++ ("_total" ++ ("\x7b" ++ ("event_type" ++ "=\""))) := by decide
  have closing : "\"\x7d " = "\"" ++ ("\x7d" ++ " ") := by decide
  have single (pair : String) : ",".intercalate [pair] = pair := rfl
  have text : sample "triggers" (labels [("event_type", type)]) count =
      "triggers_total\x7bevent_type=\"" ++ type ++ "\"\x7d " ++ count.repr := by
    rw [sample, labels, List.map_singleton, single, opening, closing]
    simp only [String.append_assoc]
  unfold series TriggerLine
  split
  · rename_i none
    simp [none]
  · rename_i counted
    rw [Option.some.injEq, text, eq_comm]
    exact (and_iff_right counted).symm

theorem mem_triggerSamples :
    line ∈ metrics.triggerSamples ↔
      TriggerLine "trigger_all" (metrics.triggers .all) line ∨
      TriggerLine "trigger_by_rule_ids" (metrics.triggers .byRuleIds) line ∨
      TriggerLine "other" (metrics.triggers .other) line := by
  simp only [triggerSamples, List.mem_filterMap, List.mem_cons, List.not_mem_nil, or_false,
    triggerSeries_eq_some, exists_eq_or_imp, exists_eq_left]
  rfl

theorem mem_samples :
    line ∈ metrics.samples ↔ line ∈ metrics.probeSamples ∨
      (TriggerLine "trigger_all" (metrics.triggers .all) line ∨
        TriggerLine "trigger_by_rule_ids" (metrics.triggers .byRuleIds) line ∨
        TriggerLine "other" (metrics.triggers .other) line) ∨
      line = "history_write_errors_total " ++ metrics.historyWriteErrors.repr ∨
      line = "malformed_triggers_total " ++ metrics.malformedTriggers.repr := by
  rw [samples, sorted, List.mem_mergeSort, List.mem_append, List.mem_append, mem_triggerSamples,
    or_assoc, List.mem_cons, List.mem_singleton]
  rfl

end Metrics

end ReachAudit
