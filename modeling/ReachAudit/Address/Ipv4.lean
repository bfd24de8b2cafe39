import ReachAudit.Text.Digits

namespace ReachAudit

structure Ipv4 where
  bits : UInt32
  deriving DecidableEq, Repr

namespace Ipv4

def ofOctets (a b c d : Nat) : Ipv4 := ⟨UInt32.ofNat (((a * 256 + b) * 256 + c) * 256 + d)⟩

def octet (a : Ipv4) (i : Nat) : Nat := a.bits.toNat / Nat.pow 256 (3 - i) % 256

def display (a : Ipv4) : String :=
  ".".intercalate ((List.range 4).map fun i => (a.octet i).repr)

def octet? (cs : List Char) : Option Nat :=
  if cs.length ≤ 3 ∧ (cs.head? ≠ some '0' ∨ cs.length = 1) then Text.numberBelow? 256 cs else none

def parse? (cs : List Char) : Option Ipv4 :=
  match (cs.splitOn '.').mapM octet? with
  | some [a, b, c, d] => some (ofOctets a b c d)
  | _ => none

def loopback : Ipv4 := ofOctets 127 0 0 1

end Ipv4

end ReachAudit
