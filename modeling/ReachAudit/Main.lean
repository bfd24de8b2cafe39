import ReachAudit.Auditor.Scan
import ReachAudit.CommandLine.Audit
import ReachAudit.CommandLine.Trigger

namespace ReachAudit.Main

def environment {α : Type} (options : List (CommandOption α)) : IO (Table String String) := do
  let found ← (options.filterMap (·.envVar)).filterMapM fun name => do
    return (← IO.getEnv name).map (name, ·)
  return .ofList found

def fail (message : String) (code : UInt32) : IO UInt32 := do
  IO.eprintln ("error: " ++ message)
  return code

def console : Network where
  dial _ _ _ := .connected
  exchange _ _ _ := .undelivered

def print (message : Trigger.Message) : IO (Except String Unit) := do
  IO.println (message.topic ++ " " ++ message.payload)
  return .ok ()

def trigger (arguments : List String) : IO UInt32 := do
  match TriggerSettings.parse (← environment TriggerSettings.options) arguments with
  | .error e => fail e.message 2
  | .ok settings =>
    match ← settings.run console print with
    | .error e => fail e.message 1
    | .ok () => return 0

/-- An auditor that has yet to learn which node it runs on. -/
def handle (event : Event) : StateM (Auditor Nat) (Except ScanError Unit) := fun auditor =>
  auditor.handle { currentNode := .error "no cluster" } 0 event

partial def readLines (input : IO.FS.Stream) : IO (List String) := do
  let line ← input.getLine
  if line.isEmpty then return []
  return line :: (← readLines input)

/-- Receives the triggers on standard input, one a line, and writes what was counted. -/
def audit (arguments : List String) : IO UInt32 := do
  match AuditSettings.parse (← environment AuditSettings.options) arguments with
  | .error e => fail e.message 2
  | .ok settings =>
    match Probes.new (.ofMillis settings.scanTimeoutMs.toNat) settings.proxy with
    | .error e => fail e.message 1
    | .ok probes =>
      let table := [EventType.triggerAll, .triggerByRuleIds].foldl
        (fun table type => table.register type ()) ({} : DispatchTable Unit)
      let start : Auditor Nat :=
        .new History.Key.checksum History.defaultShards settings.maxProbes.toNat
      IO.println (start.describe probes)
      let payloads := (← readLines (← IO.getStdin)).map String.toUTF8
      let count (f : Metrics → Metrics) : StateM (Auditor Nat) Unit := modify (·.mapMetrics f)
      let received : StateM (Auditor Nat) Unit :=
        Trigger.receive table (fun _ => handle) count payloads
      for line in (received.run start).2.metrics.lines do
        IO.println line
      return 0

end ReachAudit.Main

def main : List String → IO UInt32
  | "audit" :: arguments => ReachAudit.Main.audit arguments
  | "trigger" :: arguments => ReachAudit.Main.trigger arguments
  | _ => ReachAudit.Main.fail "expected audit or trigger" 2
