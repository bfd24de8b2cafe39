import ReachAudit.Binary64

namespace ReachAudit

inductive Number where
  | int (n : Int)
  | real (x : Binary64)
  deriving DecidableEq, Repr

/-- A JSON value. The members of an object stand in the order of their keys, each key once. -/
inductive Json where
  | null
  | bool (b : Bool)
  | number (n : Number)
  | string (s : String)
  | array (items : List Json)
  | object (members : List (String × Json))
  deriving Inhabited

namespace Json

/-- Adds a member at its place. Of two members with one key the later stays. -/
def addMember (key : String) (value : Json) : List (String × Json) → List (String × Json)
  | [] => [(key, value)]
  | m :: rest =>
    if key < m.1 then (key, value) :: m :: rest
    else if key = m.1 then (key, value) :: rest
    else m :: addMember key value rest

def ofMembers (members : List (String × Json)) : Json :=
  .object (members.foldl (fun sorted m => addMember m.1 m.2 sorted) [])

def ofNat (n : Nat) : Json := .number (.int n)

def ofOption (s : Option String) : Json := (s.map Json.string).getD .null

def ofStrings (items : List String) : Json := .array (items.map Json.string)

def member? (key : String) : Json → Option Json
  | .object members => (members.find? (·.1 = key)).map Prod.snd
  | _ => none

end Json

end ReachAudit
