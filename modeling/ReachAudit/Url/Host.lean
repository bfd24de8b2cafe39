import ReachAudit.Address.Ipv6
import ReachAudit.Url.Domain
import ReachAudit.Url.Percent

namespace ReachAudit.Url

/-- What stands for a machine. An empty domain stands for none. -/
inductive Host where
  | domain (name : String)
  | ipv4 (address : Ipv4)
  | ipv6 (address : Ipv6)
  deriving DecidableEq, Repr

namespace Host

def text : Host → String
  | .domain name => name
  | .ipv4 address => address.display
  | .ipv6 address => "[" ++ address.compressed ++ "]"

def isForbidden (c : Char) : Bool :=
  ['\x00', '\t', '\n', '\r', ' ', '#', '/', ':', '<', '>', '?', '@', '[', '\\', ']', '^',
    '|'].contains c

def isForbiddenInDomain (c : Char) : Bool :=
  isForbidden c || c.toNat < 0x20 || c = '%' || c = '\x7f'

/-- One part of an IPv4 address: decimal, or octal after a zero, or in base sixteen after `0x`. -/
def ipv4Part? (cs : List Char) : Option Nat :=
  let inBase (base : Nat) (digits : List Char) : Option Nat := do
    let values ← digits.mapM Text.hexValue?
    if values.all (· < base) then some (values.foldl (fun n d => n * base + d) 0) else none
  match cs with
  | [] => none
  | '0' :: 'x' :: digits => inBase 16 digits
  | '0' :: 'X' :: digits => inBase 16 digits
  | '0' :: digits => inBase 8 digits
  | digits => inBase 10 digits

def dottedParts (cs : List Char) : List (List Char) :=
  let parts := cs.splitOn '.'
  if 1 < parts.length ∧ parts.getLast? = some [] then parts.dropLast else parts

def endsInNumber (cs : List Char) : Bool :=
  match (dottedParts cs).getLast? with
  | some last => Text.isDigits last || (ipv4Part? last).isSome
  | none => false

/-- Up to four parts, of which the last fills the octets that the others leave. -/
def ipv4? (cs : List Char) : Option Ipv4 := do
  let numbers ← (dottedParts cs).mapM ipv4Part?
  let last ← numbers.getLast?
  let first := numbers.dropLast
  if numbers.length ≤ 4 ∧ first.all (· < 256) ∧ last < Nat.pow 256 (4 - first.length) then
    let high := first.foldl (fun n octet => n * 256 + octet) 0
    some ⟨UInt32.ofNat (high * Nat.pow 256 (4 - first.length) + last)⟩
  else none

def parseDomain? (cs : List Char) : Option Host := do
  let name ← Domain.toAscii? (← percentDecodeText? cs)
  if name = [] ∨ name.any isForbiddenInDomain then none
  else if endsInNumber name then return .ipv4 (← ipv4? name)
  else some (.domain (String.ofList name))

def parseOpaque? (cs : List Char) : Option Host :=
  if cs.any isForbidden then none
  else some (.domain (String.ofList (percentEncode isControl cs)))

def parse? (special : Bool) (cs : List Char) : Option Host :=
  match cs with
  | '[' :: inner =>
    if inner.getLast? = some ']' then (Ipv6.parse? inner.dropLast).map .ipv6 else none
  | _ => if special then parseDomain? cs else parseOpaque? cs

end Host

end ReachAudit.Url
