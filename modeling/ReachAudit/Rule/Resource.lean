import ReachAudit.Rule

namespace ReachAudit.Rule

def fieldNames : List String :=
  ["active", "roles", "destinationAddresses", "destinationPorts", "throughProxy", "description",
    "changeRequests", "projects"]

def structName : String := "struct FirewallRuleSpec"

structure Draft where
  active : Option Bool := none
  roles : Option (List String) := none
  addresses : Option (List String) := none
  ports : Option (List String) := none
  proxied : Option Bool := none
  description : Option (Option String) := none
  changeRequests : Option (List UInt32) := none
  projects : Option (List String) := none

namespace Draft

open Json

def addField (draft : Draft) (name : String) (value : Json) : Shaped Draft := do
  match name with
  | "active" => return { draft with active := some (← value.asBool) }
  | "roles" => return { draft with roles := some (← value.asList asString) }
  | "destinationAddresses" => return { draft with addresses := some (← value.asList asString) }
  | "destinationPorts" => return { draft with ports := some (← value.asList asString) }
  | "throughProxy" => return { draft with proxied := some (← value.asBool) }
  | "description" => return { draft with description := some (← value.asOptional asString) }
  | "changeRequests" => return { draft with changeRequests := some (← value.asList asWord32) }
  | "projects" => return { draft with projects := some (← value.asList asString) }
  | _ => return draft

/-- Fills the defaults. `missing` refuses a field that has none. -/
def finish (draft : Draft) (missing : (α : Type) → String → Shaped α) : Shaped Rule := do
  let roles ← draft.roles.elim (missing _ "roles") pure
  let addresses ← draft.addresses.elim (missing _ "destinationAddresses") pure
  let description ← draft.description.elim (missing _ "description") pure
  return {
    active := draft.active.getD true
    roles, addresses
    ports := draft.ports.getD []
    proxied := draft.proxied.getD false
    description
    changeRequests := draft.changeRequests.getD []
    projects := draft.projects.getD [] }

end Draft

/-- The members are read in the order of their keys, so a member of the wrong kind is reported
    before a missing one. Only `description` may be null. -/
def ofMembers (members : List (String × Json)) : Json.Shaped Rule := do
  let draft ← members.foldlM (fun draft m => draft.addField m.1 m.2) ({} : Draft)
  { draft with description := some (draft.description.getD none) }.finish
    fun _ name => .error (.missing name)

/-- A list gives the fields in the order of their declaration. Those at its end may be missing if
    they have a default, which `description` has not in this form. -/
def ofItems (items : List Json) : Json.Shaped Rule := do
  let draft ← (fieldNames.zip items).foldlM (fun draft m => draft.addField m.1 m.2) ({} : Draft)
  let rule ← draft.finish fun _ name =>
    .error (.length (fieldNames.idxOf name) (structName ++ " with 8 elements"))
  if fieldNames.length < items.length then
    .error (.length items.length "fewer elements in array")
  else return rule

def ofJson : Json → Json.Shaped Rule
  | .object members => ofMembers members
  | .array items => ofItems items
  | j => j.misfit structName

def toJson (rule : Rule) : Json :=
  Json.ofMembers [
    ("active", .bool rule.active),
    ("roles", Json.ofStrings rule.roles),
    ("destinationAddresses", Json.ofStrings rule.addresses),
    ("destinationPorts", Json.ofStrings rule.ports),
    ("throughProxy", .bool rule.proxied),
    ("description", Json.ofOption rule.description),
    ("changeRequests", .array (rule.changeRequests.map fun n => Json.ofNat n.toNat)),
    ("projects", Json.ofStrings rule.projects)]

end ReachAudit.Rule
