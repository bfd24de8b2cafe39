import ReachAudit.Address.Socket
import ReachAudit.Metrics
import ReachAudit.Probe.Direct
import ReachAudit.Probe.Proxied

namespace ReachAudit

structure Probes where
  limit : Duration := .ofSeconds 1
  proxy : Option Url := none
  deriving DecidableEq, Repr

inductive ProbesError where
  | invalidProxy
  deriving DecidableEq, Repr

def ProbesError.message : ProbesError → String
  | .invalidProxy => "invalid proxy URL"

namespace Probes

def isProxy (u : Url) : Bool :=
  u.host?.isSome || ((Url.parse? none ("http://" ++ u.text)).bind Url.host?).isSome

def new (limit : Duration) (proxy : Option Url) : Except ProbesError Probes :=
  if proxy.all isProxy then .ok { limit, proxy } else .error .invalidProxy

def probe (probes : Probes) (network : Network) (strategy : Strategy) (address : String)
    (port : Option String) : Outcome :=
  match strategy with
  | .proxy => (probeThrough network probes.proxy probes.limit address).1
  | .direct =>
    match port with
    | some specifier => probeDirect network probes.limit address specifier
    | none => .error (.noPort address)

/-- Whether a probe takes time: that of a name does, since the name has to be looked up first. -/
def lasts (probes : Probes) (strategy : Strategy) (address : String) (port : Option String) :
    Bool :=
  strategy = .direct && 0 < probes.limit.nanos &&
    port.any fun specifier =>
      match Port.parse specifier with
      | .ok port => (SocketAddress.parse? (dialTarget address port)).isNone
      | .error _ => false

def describe (probes : Probes) : String :=
  let proxy := (probes.proxy.map Url.text).getD "None"
  "Probes \x7b dial: DirectDial \x7b timeout: " ++ probes.limit.text ++
    " \x7d, proxy: ProxyProbe(" ++ proxy ++ ") \x7d"

end Probes

end ReachAudit
