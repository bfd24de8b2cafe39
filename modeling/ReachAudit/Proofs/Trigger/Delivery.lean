import ReachAudit.Proofs.Event.RoundTrip
import ReachAudit.Proofs.Trigger.Receive

namespace ReachAudit.Trigger

variable {η ε : Type} {m : Type → Type} [Monad m]

def message (request : Option (List RuleId)) : Message where
  topic := topic
  payload := (event request).encode

def tracedSend (send : Message → m (Except String Unit)) (message : Message) :
    StateT (List Message) m (Except String Unit) := do
  modify fun sent => sent ++ [message]
  StateT.lift (send message)

def publishAll (send : Message → m (Except String Unit))
    (requests : List (Option (List RuleId))) : m Unit :=
  requests.forM fun request => do let _ ← publish send (event request)

def sendAll (send : Message → m (Except String Unit)) (messages : List Message) : m Unit :=
  messages.forM fun message => do let _ ← send message

inductive Arrival where
  | trigger (request : Option (List RuleId))
  | foreign (payload : ByteArray)

def Arrival.payload : Arrival → ByteArray
  | .trigger request => (message request).payload.toUTF8
  | .foreign payload => payload

theorem event?_message (request : Option (List RuleId)) :
    event? (message request).payload.toUTF8 = some (event request) := by
  have read : Event.decode (event request).encode.toUTF8 = .ok (event request) := by
    cases request <;> exact Event.decode_encode_canonical trivial trivial trivial
  rw [event?, message, read]
  rfl

theorem calls_message (table : DispatchTable η) (request : Option (List RuleId)) :
    calls table [(message request).payload.toUTF8] = (table.call? (event request)).toList := by
  rw [calls, List.flatMap_singleton, event?_message]
  rfl

theorem calls_arrivals {table : DispatchTable η} {all listed : η}
    (handlesAll : table.handlers.get? .triggerAll = some all)
    (handlesListed : table.handlers.get? .triggerByRuleIds = some listed)
    (arrivals : List Arrival) :
    calls table (arrivals.map Arrival.payload) = arrivals.flatMap fun
      | .trigger none => [(all, .triggerAll)]
      | .trigger (some ids) => [(listed, .triggerByRuleIds ids)]
      | .foreign payload => calls table [payload] := by
  induction arrivals with
  | nil => rfl
  | cons arrival arrivals ih =>
    rw [List.map_cons, ← List.singleton_append, calls_append, ih, List.flatMap_cons]
    congr 1
    match arrival with
    | .trigger none =>
      rw [Arrival.payload, calls_message, event, DispatchTable.call?, handlesAll]
      rfl
    | .trigger (some ids) =>
      rw [Arrival.payload, calls_message, event, DispatchTable.call?, handlesListed]
      rfl
    | .foreign payload => rfl

variable [LawfulMonad m]

theorem run_publish (send : Message → m (Except String Unit)) (request : Option (List RuleId))
    (sent : List Message) :
    StateT.run (publish (tracedSend send) (event request) >>= fun _ => pure ()) sent = do
      let _ ← send (message request)
      return ((), sent ++ [message request]) := by
  simp [publish, tracedSend, message]

theorem run_publishAll (send : Message → m (Except String Unit))
    (requests : List (Option (List RuleId))) (sent : List Message) :
    StateT.run (publishAll (tracedSend send) requests) sent = do
      sendAll send (requests.map message)
      return ((), sent ++ requests.map message) := by
  induction requests generalizing sent with
  | nil => simp [publishAll, sendAll]
  | cons request requests ih =>
    have split : publishAll (tracedSend send) (request :: requests) =
        (publish (tracedSend send) (event request) >>= fun _ => pure ()) >>= fun _ =>
          publishAll (tracedSend send) requests := List.forM_cons
    have first : sendAll send ((request :: requests).map message) =
        (send (message request) >>= fun _ => pure ()) >>= fun _ =>
          sendAll send (requests.map message) := List.forM_cons
    rw [split, first, StateT.run_bind, run_publish, List.map_cons, List.append_cons sent]
    simp only [bind_assoc, pure_bind, ih, List.append_assoc, List.singleton_append]

/-- A receiver makes the handler calls that its payloads lead to, in their order, whatever the
    handlers do. A payload that leads to none changes nothing for the others. Each one is counted
    once. Triggers that are published arrive as they are, whatever else arrives. -/
theorem receive_exact (table : DispatchTable η) (behave : η → Event → m (Except ε Unit)) :
    (∀ payloads t, StateT.run (receive table (traced behave) counted payloads) t = do
      handleAll behave (calls table payloads)
      return ((), t.after table payloads)) ∧
    (∀ xs x ys (t : Trace η), (t.after table (xs ++ x :: ys)).calls =
      t.calls ++ calls table xs ++ ((event? x).bind table.call?).toList ++ calls table ys) ∧
    (∀ (handle : η → Event → m (Except ε Unit)) count xs ys,
      receive table handle count (xs ++ ys) = do
        receive table handle count xs
        receive table handle count ys) ∧
    (∀ payloads, rejected payloads + (received .all payloads + received .byRuleIds payloads +
      received .other payloads) = payloads.length) ∧
    (∀ payloads (t : Trace η) line, line ∈ (t.after table payloads).metrics.samples ↔
      line ∈ t.metrics.probeSamples ∨
      (Metrics.TriggerLine "trigger_all" (t.metrics.triggers .all + received .all payloads) line ∨
        Metrics.TriggerLine "trigger_by_rule_ids"
          (t.metrics.triggers .byRuleIds + received .byRuleIds payloads) line ∨
        Metrics.TriggerLine "other"
          (t.metrics.triggers .other + received .other payloads) line) ∨
      line = "history_write_errors_total " ++ t.metrics.historyWriteErrors.repr ∨
      line = "malformed_triggers_total " ++
        (t.metrics.malformedTriggers + rejected payloads).repr) ∧
    (∀ (send : Message → m (Except String Unit)) requests sent,
      StateT.run (publishAll (tracedSend send) requests) sent = do
        sendAll send (requests.map message)
        return ((), sent ++ requests.map message)) ∧
    ∀ all listed, table.handlers.get? .triggerAll = some all →
      table.handlers.get? .triggerByRuleIds = some listed → ∀ arrivals : List Arrival,
        calls table (arrivals.map Arrival.payload) = arrivals.flatMap fun
          | .trigger none => [(all, .triggerAll)]
          | .trigger (some ids) => [(listed, .triggerByRuleIds ids)]
          | .foreign payload => calls table [payload] := by
  refine ⟨run_receive table behave, ?_, fun handle count => receive_append table handle count,
    rejected_add_received, ?_, run_publishAll, fun all listed => calls_arrivals⟩
  · intro xs x ys t
    rw [Trace.after, calls_append, List.append_assoc, List.append_assoc]
    rfl
  · intro payloads t line
    exact Metrics.mem_samples

def sampleTable : DispatchTable String :=
  (DispatchTable.register {} .triggerAll "all").register .triggerByRuleIds "listed"

def scan : Event := .other "scan" .null

def sampleArrivals : List Arrival := [
  .foreign .empty, .trigger none, .foreign scan.encode.toUTF8, .trigger (some ["ns/r"]),
  .trigger (some [])]

theorem event?_empty : event? .empty = none :=
  Option.isNone_iff_eq_none.mp (by decide +kernel)

theorem event?_scan : event? scan.encode.toUTF8 = some scan := by
  have fits : scan.Fits := Json.Fits.null
  have whole : scan.Whole := Json.Whole.null
  have canonical : scan.Canonical := ⟨by decide, by decide⟩
  rw [event?, Event.decode_encode_canonical fits whole canonical]
  rfl

theorem map_event?_sampleArrivals :
    (sampleArrivals.map Arrival.payload).map event? =
      [none, some .triggerAll, some scan, some (.triggerByRuleIds ["ns/r"]),
        some (.triggerByRuleIds [])] := by
  simp only [sampleArrivals, List.map_cons, List.map_nil, Arrival.payload, event?_empty,
    event?_scan, event?_message, event]

theorem receive_exact_failing :
    let fails (_ : String) (_ : Event) : Id (Except Unit Unit) := pure (.error ())
    let receiver : StateT (Trace String) Id Unit :=
      receive sampleTable (traced fails) counted (sampleArrivals.map Arrival.payload)
    let trace := (receiver.run {}).2
    trace.calls = [("all", .triggerAll), ("listed", .triggerByRuleIds ["ns/r"]),
        ("listed", .triggerByRuleIds [])] ∧
      trace.metrics.malformedTriggers = 1 ∧ trace.metrics.triggers .all = 1 ∧
      trace.metrics.triggers .byRuleIds = 2 ∧ trace.metrics.triggers .other = 1 ∧
      "triggers_total\x7bevent_type=\"trigger_by_rule_ids\"\x7d 2" ∈ trace.metrics.samples := by
  intro fails receiver trace
  let payloads := sampleArrivals.map Arrival.payload
  obtain ⟨run, -, -, -, shown, -, delivered⟩ := receive_exact (m := Id) sampleTable fails
  have after : trace = ({} : Trace String).after sampleTable payloads := by
    have same : receiver.run {} = _ := run payloads {}
    rw [show trace = (receiver.run {}).2 from rfl, same]
    rfl
  have held := map_event?_sampleArrivals
  have malformed : rejected payloads = 1 := by
    have counted := List.countP_map (p := Option.isNone) (f := event?) (l := payloads)
    rw [held] at counted
    exact counted.symm
  have accepted : payloads.filterMap event? =
      [.triggerAll, scan, .triggerByRuleIds ["ns/r"], .triggerByRuleIds []] := by
    have kept := List.filterMap_map (f := event?) (g := id) (l := payloads)
    rw [held] at kept
    exact kept.symm
  have series (kind : TriggerKind) : received kind payloads =
      [.triggerAll, scan, .triggerByRuleIds ["ns/r"], .triggerByRuleIds []].countP
        (Event.countsAs kind) := by
    rw [received, accepted]
  have listed : received .byRuleIds payloads = 2 := series .byRuleIds
  rw [after]
  refine ⟨?_, ?_, ?_, ?_, ?_, ?_⟩
  · have calls := delivered "all" "listed" rfl rfl sampleArrivals
    rw [Trace.after, calls, sampleArrivals]
    simp only [List.flatMap_cons, List.flatMap_nil, calls_rejected sampleTable event?_empty,
      calls_received sampleTable event?_scan]
    rfl
  · change 0 + rejected payloads = 1
    rw [malformed]
  · change 0 + received .all payloads = 1
    rw [series]
    rfl
  · change 0 + received .byRuleIds payloads = 2
    rw [listed]
  · change 0 + received .other payloads = 1
    rw [series]
    rfl
  · refine (shown payloads {} _).mpr (.inr (.inl (.inr (.inl ?_))))
    rw [listed]
    exact ⟨by decide, by decide⟩

end ReachAudit.Trigger
