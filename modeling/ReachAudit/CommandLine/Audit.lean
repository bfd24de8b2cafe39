import ReachAudit.Address.Socket
import ReachAudit.CommandLine.Values
import ReachAudit.Url.Reader

namespace ReachAudit

open CommandLine

structure AuditSettings where
  log : LogSettings := { filter := "reach_audit=info,warn" }
  redisUrl : String := ""
  proxy : Option Url := none
  scanTimeoutMs : UInt64 := 1000
  maxProbes : UInt64 := 64
  space : String := "default"
  podName : String := ""
  nodeSyncSeconds : UInt64 := 60
  scanSeconds : Option UInt64 := none
  historyAddress : SocketAddress := .v4 (.ofOctets 0 0 0 0) 9991

namespace AuditSettings

def options : List (CommandOption AuditSettings) := [
  { name := "log-level", envVar := some "FW_AUDITOR_LOG"
    effect := .value fun v s => (s.log.setFilter v).map fun log => { s with log } },
  { name := "log-format"
    effect := .value fun v s => (s.log.setFormat v).map fun log => { s with log } },
  { name := "redis-url", envVar := some "REDIS_URL", required := true
    effect := store fun redisUrl s => { s with redisUrl } },
  { name := "proxy-scan-url", envVar := some "PROXY_SCAN_URL"
    effect := storeAs (Url.parse? none) fun url s => { s with proxy := some url } },
  { name := "scan-timeout-ms"
    effect := storeAs word64? fun scanTimeoutMs s => { s with scanTimeoutMs } },
  { name := "max-concurrent-probes"
    effect := storeAs word64? fun maxProbes s => { s with maxProbes } },
  { name := "namespace", envVar := some "NAMESPACE"
    effect := store fun space s => { s with space } },
  { name := "pod-name", envVar := some "HOSTNAME", required := true
    effect := store fun podName s => { s with podName } },
  { name := "node-sync-interval-secs"
    effect := storeAs positive? fun nodeSyncSeconds s => { s with nodeSyncSeconds } },
  { name := "scan-interval-secs"
    effect := storeAs positive? fun n s => { s with scanSeconds := some n } },
  { name := "history-addr"
    effect := storeAs SocketAddress.parse? fun historyAddress s => { s with historyAddress } }]

def parse (environment : Table String String) (arguments : List String) :
    Except UsageError AuditSettings :=
  CommandLine.read options {} environment arguments

end AuditSettings

end ReachAudit
