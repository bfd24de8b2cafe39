import ReachAudit.History.Store

namespace ReachAudit

structure RuleEntry (τ : Type) where
  rule : Rule
  generation : Nat
  createdAt : τ
  updatedAt : τ
  deriving DecidableEq

/-- The rules declared in the cluster, and the history that their scans write. An entry carries the
    generation that the history has for its rule, unbounded as there. -/
structure RuleIndex (τ : Type) where
  rules : Table RuleId (RuleEntry τ) := ∅
  history : History.Store τ

namespace RuleIndex

variable {τ : Type}

/-- Records a rule. History of an earlier shape is discarded; a rule that comes again unchanged
    stays as it is. -/
def apply (now : τ) (id : RuleId) (rule : Rule) (index : RuleIndex τ) : RuleIndex τ :=
  match index.rules.get? id with
  | none =>
    let entry := {
      rule, generation := index.history.generation id, createdAt := now, updatedAt := now }
    { index with rules := index.rules.insert id entry }
  | some known =>
    if rule = known.rule then index
    else if rule.sameShape known.rule then
      { index with rules := index.rules.insert id { known with rule, updatedAt := now } }
    else
      let history := index.history.clear id
      let entry := { known with rule, generation := history.generation id, updatedAt := now }
      { rules := index.rules.insert id entry, history }

def delete (id : RuleId) (index : RuleIndex τ) : RuleIndex τ :=
  if index.rules.contains id then
    { rules := index.rules.erase id, history := index.history.clear id }
  else index

def version? (index : RuleIndex τ) (id : RuleId) : Option RuleVersion :=
  (index.rules.get? id).map fun entry => ⟨id, entry.rule, entry.generation⟩

def select (index : RuleIndex τ) (p : RuleId → Rule → Bool) : List RuleVersion :=
  ((index.rules.entries.filter fun e => e.2.rule.active && p e.1 e.2.rule).map
    fun e => ⟨e.1, e.2.rule, e.2.generation⟩).mergeSort fun a b => decide (a.id ≤ b.id)

def activeByRoles (index : RuleIndex τ) (roles : List String) : List RuleVersion :=
  index.select fun _ rule => rule.matchesRoles roles

def activeByIds (index : RuleIndex τ) (ids : List RuleId) (roles : List String) :
    List RuleVersion :=
  index.select fun id rule => ids.contains id && rule.matchesRoles roles

/-- A resource as a watch delivers it. What it specifies and what an index holds are both a `Rule`,
    field by field the same, so that nothing is converted between them. -/
structure Resource where
  space : Option String
  name : Option String
  rule : Rule

/-- Applies a resource of the watch. One without a namespace is ignored, and one with a namespace
    but no name is refused. -/
def applyResource (now : τ) (resource : Resource) (index : RuleIndex τ) : Option (RuleIndex τ) :=
  match resource.space, resource.name with
  | none, _ => some index
  | some _, none => none
  | some space, some name => some (index.apply now (.ofResource space name) resource.rule)

end RuleIndex

end ReachAudit
