import ReachAudit.Json.Value
import ReachAudit.Node
import ReachAudit.Rule

namespace ReachAudit.History

/-- What a row is about: one destination of a rule, as probed from one node. -/
structure Key where
  rule : RuleId
  node : NodeId
  address : String
  port : Option String
  deriving DecidableEq, Repr

inductive Status where
  | success
  | error
  | pending
  deriving DecidableEq, Repr

def Status.name : Status → String
  | .success => "success"
  | .error => "error"
  | .pending => "pending"

/-- The latest state of a destination. The generation says which shape of its rule was probed. -/
structure Row (τ : Type) where
  nodeName : String
  nodeAddress : NodeAddress
  proxied : Bool
  generation : Nat
  status : Status
  message : Option String := none
  createdAt : τ
  updatedAt : τ
  deriving DecidableEq

namespace Key

def display (k : Key) : String :=
  k.rule ++ "@" ++ k.node ++ "->" ++ k.address ++ (k.port.map (":" ++ ·)).getD ""

/-- Keys are ordered by rule, node, address and port, and a missing port comes first. -/
def parts (k : Key) : List String := k.rule :: k.node :: k.address :: k.port.toList

theorem parts_injective {a b : Key} (h : a.parts = b.parts) : a = b := by
  obtain ⟨r, n, d, p⟩ := a
  obtain ⟨r', n', d', p'⟩ := b
  cases p <;> cases p' <;> simp_all [parts]

def namesBefore : List String → List String → Bool
  | [], _ => true
  | _ :: _, [] => false
  | x :: xs, y :: ys => if x = y then namesBefore xs ys else decide (x < y)

def before (a b : Key) : Bool := namesBefore a.parts b.parts

end Key

namespace Row

variable {τ : Type}

def pending (now : τ) (rule : RuleVersion) (node : Node τ) : Row τ where
  nodeName := node.name
  nodeAddress := node.address
  proxied := rule.rule.proxied
  generation := rule.generation
  status := .pending
  createdAt := now
  updatedAt := now

def update (old new : Row τ) : Row τ :=
  { old with
    generation := new.generation
    status := new.status
    message := new.message
    updatedAt := new.updatedAt }

end Row

def addressJson (a : NodeAddress) : Json :=
  Json.ofMembers [
    ("internalIp", Json.ofOption a.internalIp),
    ("externalIp", Json.ofOption a.externalIp),
    ("hostname", Json.ofOption a.hostname)]

def rowJson {τ : Type} (writeTime : τ → String) (key : Key) (row : Row τ) : Json :=
  Json.ofMembers [
    ("ruleId", .string key.rule),
    ("nodeId", .string key.node),
    ("nodeName", .string row.nodeName),
    ("nodeAddress", addressJson row.nodeAddress),
    ("destinationAddress", .string key.address),
    ("destinationPort", Json.ofOption key.port),
    ("isThroughProxy", .bool row.proxied),
    ("status", .string row.status.name),
    ("errorMessage", Json.ofOption row.message),
    ("createdAt", .string (writeTime row.createdAt)),
    ("updatedAt", .string (writeTime row.updatedAt))]

end ReachAudit.History
