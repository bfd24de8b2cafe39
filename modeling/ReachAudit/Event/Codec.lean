import ReachAudit.Event
import ReachAudit.Json.Reader

namespace ReachAudit

open ReachAudit.Text (Piece)

structure Envelope where
  eventType : String
  data : Json := .null

def Event.envelope : Event → Envelope
  | .triggerAll => { eventType := EventType.triggerAll.name }
  | .triggerByRuleIds ids =>
    { eventType := EventType.triggerByRuleIds.name, data := Json.ofStrings ids }
  | .other name data => { eventType := name, data }

def Envelope.text (e : Envelope) : List Char :=
  Json.membersText [("event_type", .string e.eventType), ("data", e.data)]

def Event.encode (e : Event) : String := String.ofList ('\x7b' :: e.envelope.text ++ ['\x7d'])

inductive Event.DecodeError where
  | unreadable (e : Json.ReadError)
  | notRuleIds
  deriving DecidableEq, Repr

def Event.DecodeError.message? : DecodeError → Option String
  | .unreadable (.misfit m) => some m.message
  | .unreadable _ => none
  | .notRuleIds =>
    some ("invalid " ++ EventType.triggerByRuleIds.name ++ " payload: expected a list of rule ids")

namespace Envelope

open Json Reader

def structName : String := "struct Envelope"

/-- The envelope's own bracket counts. -/
def dataDepth : Nat := maxDepth - 1

structure Draft where
  eventType : Option String := none
  data : Option Json := none

def addMember (draft : Draft) (key : String) : Reader Draft := do
  if key = "event_type" then
    if draft.eventType.isSome then fail (.misfit (.duplicate key))
    colon
    return { draft with eventType := some (← string) }
  else if key = "data" then
    if draft.data.isSome then fail (.misfit (.duplicate key))
    colon
    return { draft with data := some (← value dataDepth) }
  else
    colon
    passValue ((← get).length + 1)
    return draft

def ofMembers : Reader Envelope := do
  let draft ← members stringBody addMember {}
  match draft.eventType with
  | some eventType => return { eventType, data := draft.data.getD .null }
  | none => fail (.misfit (.missing "event_type"))

def ofItems : Reader Envelope := do
  if (← peekToken) = .char ']' then fail (.misfit (.length 0 (structName ++ " with 2 elements")))
  let eventType ← string
  let p ← peekToken
  if p = .char ']' then
    skip
    return { eventType }
  else if p = .char ',' then
    skip
    let data ← value dataDepth
    if (← peekToken) = .char ']' then
      skip
      return { eventType, data }
    else fail .malformed
  else fail .malformed

def reader : Reader Envelope := do
  let p ← peekToken
  if p = .char '[' then
    skip
    ofItems
  else if p = .char '\x7b' then
    skip
    ofMembers
  else unexpected structName

def ruleId? : Json → Option RuleId
  | .string id => some id
  | _ => none

/-- Whatever data comes with a trigger for all rules is ignored. -/
def event? (e : Envelope) : Except Event.DecodeError Event :=
  match EventType.ofName e.eventType with
  | .triggerAll => .ok .triggerAll
  | .triggerByRuleIds =>
    match e.data with
    | .null => .ok (.triggerByRuleIds [])
    | .array items =>
      match items.mapM ruleId? with
      | some ids => .ok (.triggerByRuleIds ids)
      | none => .error .notRuleIds
    | _ => .error .notRuleIds
  | .other name => .ok (.other name e.data)

end Envelope

/-- Reads an event. The envelope is judged before what follows it is looked at. -/
def Event.ofPieces (input : List Piece) : Except Event.DecodeError Event := do
  let (envelope, rest) ← (StateT.run Envelope.reader input).mapError .unreadable
  let event ← envelope.event?
  let _ ← (StateT.run Json.Reader.finish rest).mapError .unreadable
  return event

def Event.decode (payload : ByteArray) : Except Event.DecodeError Event :=
  ofPieces (Piece.ofBytes payload)

end ReachAudit
