import ReachAudit.NameSet
import ReachAudit.Table

namespace ReachAudit

/-- A node's unique id, which its name is not. -/
abbrev NodeId := String

structure NodeAddress where
  internalIp : Option String := none
  externalIp : Option String := none
  hostname : Option String := none
  deriving DecidableEq, Repr

/-- A node of the cluster. Times are of any type `τ`: they are only stored and handed on. -/
structure Node (τ : Type) where
  name : String
  roles : NameSet
  address : NodeAddress
  createdAt : τ
  updatedAt : τ
  deriving DecidableEq

/-- The nodes seen so far. None is ever removed, since history goes on referring to it. -/
abbrev NodeIndex (τ : Type) := Table NodeId (Node τ)

namespace NodeIndex

variable {τ : Type}

def apply (now : τ) (id : NodeId) (node : Node τ) (index : NodeIndex τ) : NodeIndex τ :=
  match index.get? id with
  | some known =>
    index.insert id { node with createdAt := known.createdAt, updatedAt := now }
  | none => index.insert id node

def rolesOf? (index : NodeIndex τ) (id : NodeId) : Option (List String) :=
  (index.get? id).map fun node => node.roles.toList

def sorted (index : NodeIndex τ) : List (NodeId × Node τ) :=
  index.entries.mergeSort fun a b => decide (a.1 ≤ b.1)

end NodeIndex

end ReachAudit
