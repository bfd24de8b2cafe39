import ReachAudit.CommandLine
import ReachAudit.CommandLine.LogFilter
import ReachAudit.Text.Digits

namespace ReachAudit.CommandLine

def word64? (s : String) : Option UInt64 :=
  let digits := match s.toList with
    | '+' :: rest => rest
    | cs => cs
  (Text.numberBelow? UInt64.size digits).map UInt64.ofNat

def positive? (s : String) : Option UInt64 := (word64? s).filter (0 < ·)

inductive LogFormat where
  | plain
  | json
  deriving DecidableEq, Repr

def logFormat? (s : String) : Option LogFormat :=
  if s = "plain" then some .plain else if s = "json" then some .json else none

structure LogSettings where
  filter : String
  format : LogFormat := .plain

def LogSettings.setFilter (s : String) (log : LogSettings) : Option LogSettings :=
  if isLogFilter s then some { log with filter := s } else none

def LogSettings.setFormat (s : String) (log : LogSettings) : Option LogSettings :=
  (logFormat? s).map fun format => { log with format }

def store {α : Type} (set : String → α → α) : Effect α := .value fun v a => some (set v a)

def storeAs {α β : Type} (read? : String → Option β) (set : β → α → α) : Effect α :=
  .value fun v a => (read? v).map (set · a)

end ReachAudit.CommandLine
