import ReachAudit.History.Row

namespace ReachAudit.History

/-- The rows that share one lock. -/
abbrev Shard (τ : Type) := Table Key (Row τ)

namespace Shard

variable {τ : Type}

def write (shard : Shard τ) (key : Key) (row : Row τ) : Shard τ :=
  shard.insert key (((shard.get? key).map (·.update row)).getD row)

def sweep (shard : Shard τ) (rule : RuleId) : Shard τ :=
  shard.filter fun key _ => key.rule ≠ rule

end Shard

/-- The latest row of every destination, spread over shards by a hash of the key. Each rule has a
    generation, which advances whenever its rows are discarded. Generations are not bounded here:
    64 bits hold more of them than rows can be discarded. -/
structure Store (τ : Type) where
  hash : Key → Nat
  shards : List (Shard τ)
  generations : Table RuleId Nat := ∅

namespace Store

variable {τ : Type}

/-- The most shards that memory can be asked for, half of it, at 56 bytes each. -/
def greatestCount : Nat := UInt64.size / 2 / 56

def new (hash : Key → Nat) (shards : Nat) : Store τ where
  hash
  shards := List.replicate (max shards 1) ∅

def index (s : Store τ) (key : Key) : Nat := s.hash key % s.shards.length

def shard (s : Store τ) (key : Key) : Shard τ := s.shards.getD (s.index key) ∅

def get? (s : Store τ) (key : Key) : Option (Row τ) := (s.shard key).get? key

def contains (s : Store τ) (key : Key) : Bool := (s.get? key).isSome

def generation (s : Store τ) (rule : RuleId) : Nat := (s.generations.get? rule).getD 0

def write (s : Store τ) (key : Key) (row : Row τ) : Store τ :=
  { s with shards := s.shards.modify (s.index key) fun shard => Shard.write shard key row }

def accepts (s : Store τ) (key : Key) (row : Row τ) : Bool := s.generation key.rule ≤ row.generation

def upsert (s : Store τ) (key : Key) (row : Row τ) : Store τ :=
  if s.accepts key row then s.write key row else s

/-- The first half of a clear: from here on rows of earlier scans are refused. -/
def advance (s : Store τ) (rule : RuleId) : Store τ :=
  { s with generations := s.generations.insert rule (s.generation rule + 1) }

/-- One step of the second half of a clear: the rule's rows leave one shard. -/
def sweepShard (s : Store τ) (rule : RuleId) (i : Nat) : Store τ :=
  { s with shards := s.shards.modify i fun shard => Shard.sweep shard rule }

def clear (s : Store τ) (rule : RuleId) : Store τ :=
  (List.range s.shards.length).foldl (fun s i => s.sweepShard rule i) (s.advance rule)

def discarded (s : Store τ) (rule : RuleId) : Nat :=
  s.shards.foldr (fun shard n => (shard.size - (Shard.sweep shard rule).size) + n) 0

def size (s : Store τ) : Nat := s.shards.foldr (fun shard n => shard.size + n) 0

def isEmpty (s : Store τ) : Bool := s.size == 0

def select (s : Store τ) (p : Key → Bool) : List (Key × Row τ) :=
  ((s.shards.flatMap fun shard => shard.entries).filter fun e => p e.1).mergeSort
    fun a b => a.1.before b.1

def all (s : Store τ) : List (Key × Row τ) := s.select fun _ => true

def byRule (s : Store τ) (rule : RuleId) : List (Key × Row τ) := s.select fun key => key.rule = rule

end Store

def Key.checksum (k : Key) : Nat :=
  k.display.toList.foldl (fun h c => (h * 31 + c.toNat) % UInt32.size) 7

def defaultShards : Nat := 32

end ReachAudit.History
