import ReachAudit.Address.Ipv4

namespace ReachAudit

structure Ipv6 where
  groups : Vector UInt16 8
  deriving DecidableEq, Repr

namespace Ipv6

def ofGroups? (groups : List Nat) : Option Ipv6 :=
  let words := (groups.map UInt16.ofNat).toArray
  if h : words.size = 8 then some ⟨⟨words, h⟩⟩ else none

def toList (a : Ipv6) : List Nat := a.groups.toList.map UInt16.toNat

def longestZeros (groups : List Nat) : Nat × Nat :=
  (List.range groups.length).foldl (fun best i =>
    let run := ((groups.drop i).takeWhile (· = 0)).length
    if best.2 < run then (i, run) else best) (0, 0)

def hexGroups (groups : List Nat) : String :=
  ":".intercalate (groups.map fun g => String.ofList (Text.hex g))

/-- Groups in base sixteen. The first longest run of at least two zeros is left out. -/
def compressed (a : Ipv6) : String :=
  let groups := a.toList
  let (start, run) := longestZeros groups
  if run < 2 then hexGroups groups
  else hexGroups (groups.take start) ++ "::" ++ hexGroups (groups.drop (start + run))

def mapped? (a : Ipv6) : Option Ipv4 :=
  match a.toList with
  | [0, 0, 0, 0, 0, 0xffff, high, low] =>
    some (.ofOctets (high / 256) (high % 256) (low / 256) (low % 256))
  | _ => none

def display (a : Ipv6) : String :=
  match a.mapped? with
  | some v4 => "::ffff:" ++ v4.display
  | none => a.compressed

def hexGroup? (cs : List Char) : Option Nat :=
  if cs ≠ [] ∧ cs.length ≤ 4 then
    (cs.mapM Text.hexValue?).map fun ds => ds.foldl (fun n d => n * 16 + d) 0
  else none

def groups? : List (List Char) → Option (List Nat)
  | [] => some []
  | [last] =>
    match hexGroup? last with
    | some g => some [g]
    | none => (Ipv4.parse? last).map fun v4 =>
      [v4.octet 0 * 256 + v4.octet 1, v4.octet 2 * 256 + v4.octet 3]
  | g :: rest => do return (← hexGroup? g) :: (← groups? rest)

def splitDouble : List Char → Option (List Char × List Char)
  | ':' :: ':' :: rest => some ([], rest)
  | c :: rest => (splitDouble rest).map fun (before, after) => (c :: before, after)
  | [] => none

def side? (cs : List Char) : Option (List Nat) :=
  if cs = [] then some [] else groups? (cs.splitOn ':')

/-- Reads colon notation. A double colon stands for at least one zero, and only the end of an
    address may be in dotted notation. -/
def parse? (cs : List Char) : Option Ipv6 :=
  match splitDouble cs with
  | none => do ofGroups? (← side? cs)
  | some (before, after) => do
    let head ← side? before
    let tail ← side? after
    if '.' ∈ before ∨ 8 ≤ head.length + tail.length then none
    else ofGroups? (head ++ List.replicate (8 - head.length - tail.length) 0 ++ tail)

end Ipv6

end ReachAudit
