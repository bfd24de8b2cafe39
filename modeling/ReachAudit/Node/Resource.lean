import ReachAudit.Node

namespace ReachAudit

structure NodeResource where
  uid : Option String := none
  name : Option String := none
  generateName : Option String := none
  labels : Table String String := ∅
  addresses : List (String × String) := []

namespace NodeResource

def roleLabelPrefix : String := "node-role.kubernetes.io/"

def role? (label : String) : Option String :=
  match roleLabelPrefix.toList.isPrefixOf? label.toList with
  | some [] => none
  | some suffix => some (String.ofList suffix)
  | none => none

def roles (labels : Table String String) : List String :=
  (NameSet.ofList labels.keys).toList.filterMap role?

def address? (node : NodeResource) (type : String) : Option String :=
  (node.addresses.find? (·.1 = type)).map Prod.snd

def id? (node : NodeResource) : Option NodeId := node.uid.filter (· ≠ "")

def displayName (node : NodeResource) : String :=
  (node.name.or node.generateName).getD ""

def toNode? {τ : Type} (now : τ) (node : NodeResource) : Option (NodeId × Node τ) :=
  node.id?.map fun id => (id, {
    name := node.displayName
    roles := NameSet.ofList (roles node.labels)
    address := {
      internalIp := node.address? "InternalIP"
      externalIp := node.address? "ExternalIP"
      hostname := node.address? "Hostname" }
    createdAt := now
    updatedAt := now })

end NodeResource

end ReachAudit
