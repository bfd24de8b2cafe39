import ReachAudit.Text.Digits
import ReachAudit.Text.Trim

namespace ReachAudit

structure Duration where
  nanos : Nat
  deriving DecidableEq, Repr

namespace Duration

def ofMicros (n : Nat) : Duration := ⟨n * 1000⟩
def ofMillis (n : Nat) : Duration := ⟨n * 1000000⟩
def ofSeconds (n : Nat) : Duration := ⟨n * 1000000000⟩

def inUnit (nanos places : Nat) (unit : String) : String :=
  let size := Nat.pow 10 places
  let fraction :=
    if nanos % size = 0 then []
    else '.' :: Text.trimEnd (· = '0') (Text.padded places (nanos % size))
  (nanos / size).repr ++ String.ofList fraction ++ unit

def text (d : Duration) : String :=
  if 1000000000 ≤ d.nanos then inUnit d.nanos 9 "s"
  else if 1000000 ≤ d.nanos then inUnit d.nanos 6 "ms"
  else if 1000 ≤ d.nanos then inUnit d.nanos 3 "µs"
  else d.nanos.repr ++ "ns"

end Duration

end ReachAudit
