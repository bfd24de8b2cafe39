import ReachAudit.Event
import ReachAudit.Table

namespace ReachAudit

structure DispatchTable (η : Type) where
  handlers : Table EventType η := ∅

namespace DispatchTable

variable {η ε : Type} {m : Type → Type} [Monad m]

def register (table : DispatchTable η) (type : EventType) (handler : η) : DispatchTable η :=
  ⟨table.handlers.insert type handler⟩

def route (table : DispatchTable η) (event : Event) : Option η := table.handlers.get? event.type

/-- Gives an event to its handler and returns what the handler returns. Without a handler nothing
    happens, and that is no failure. -/
def dispatch (table : DispatchTable η) (handle : η → Event → m (Except ε Unit)) (event : Event) :
    m (Except ε Unit) :=
  match table.route event with
  | some handler => handle handler event
  | none => pure (.ok ())

theorem route_register (table : DispatchTable η) (type : EventType) (handler : η) (event : Event) :
    (table.register type handler).route event =
      if type = event.type then some handler else table.route event :=
  table.handlers.get?_insert type event.type handler

def describe (table : DispatchTable η) : String :=
  "DispatchTable \x7b event_types: [" ++
    ", ".intercalate (table.handlers.keys.map EventType.describe) ++ "] \x7d"

end DispatchTable

end ReachAudit
