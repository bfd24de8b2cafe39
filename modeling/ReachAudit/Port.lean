import ReachAudit.Text.Blank
import ReachAudit.Text.Digits
import ReachAudit.Text.Quoted

namespace ReachAudit

inductive Protocol where
  | tcp
  | udp
  deriving DecidableEq, Repr

def Protocol.name : Protocol → String
  | .tcp => "tcp"
  | .udp => "udp"

structure Port where
  protocol : Protocol
  number : Nat
  number_pos : 0 < number := by decide
  number_lt : number < 65536 := by decide
  deriving DecidableEq, Repr

inductive PortError where
  | format (raw : String)
  | range (raw : String)
  deriving DecidableEq, Repr

def PortError.message : PortError → String
  | .format raw => "port " ++ Text.quoted raw ++ " doesn't match any protocol pattern"
  | .range raw => "port " ++ Text.quoted raw ++ " is out of range"

namespace Port

def display (p : Port) : String := p.protocol.name ++ "/" ++ p.number.repr

def protocolAndDigits (spec : List Char) : Option (Protocol × List Char) :=
  match spec.span (· ≠ '/') with
  | (digits, []) => some (.tcp, digits)
  | (name, _ :: digits) =>
    if name = ['t', 'c', 'p'] then some (.tcp, digits)
    else if name = ['u', 'd', 'p'] then some (.udp, digits)
    else none

def parts (raw : String) : Option (Protocol × List Char) :=
  (protocolAndDigits ((Text.trim raw.toList).map Char.toLower)).filter fun p => Text.isDigits p.2

/-- Reads `443`, `tcp/22` or `udp/53`: a specifier without a protocol is TCP. -/
def parse (raw : String) : Except PortError Port :=
  match parts raw with
  | none => .error (.format raw)
  | some (protocol, digits) =>
    let number := Nat.ofDigitChars 10 digits 0
    if bounds : 0 < number ∧ number < 65536 then
      .ok { protocol, number, number_pos := bounds.1, number_lt := bounds.2 }
    else .error (.range raw)

end Port

end ReachAudit
