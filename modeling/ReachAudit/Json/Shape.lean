import ReachAudit.Json.Printer
import ReachAudit.Text.Quoted

namespace ReachAudit.Json

inductive Found where
  | null
  | bool (b : Bool)
  | number (n : Number)
  | string (s : String)
  | array
  | object
  deriving DecidableEq, Repr

inductive Misfit where
  | kind (found : Found) (expected : String)
  | outOfRange (n : Int) (expected : String)
  | length (n : Nat) (expected : String)
  | missing (field : String)
  | duplicate (field : String)
  deriving DecidableEq, Repr

def Found.describe : Found → String
  | .null => "null"
  | .bool b => "boolean `" ++ (if b then "true" else "false") ++ "`"
  | .number (.int n) => "integer `" ++ n.repr ++ "`"
  | .number (.real x) => "floating point `" ++ String.ofList x.text ++ "`"
  | .string s => "string " ++ Text.quoted s
  | .array => "sequence"
  | .object => "map"

def Misfit.message : Misfit → String
  | .kind found expected => "invalid type: " ++ found.describe ++ ", expected " ++ expected
  | .outOfRange n expected => "invalid value: integer `" ++ n.repr ++ "`, expected " ++ expected
  | .length n expected => "invalid length " ++ n.repr ++ ", expected " ++ expected
  | .missing field => "missing field `" ++ field ++ "`"
  | .duplicate field => "duplicate field `" ++ field ++ "`"

def found : Json → Found
  | .null => .null
  | .bool b => .bool b
  | .number n => .number n
  | .string s => .string s
  | .array _ => .array
  | .object _ => .object

abbrev Shaped (α : Type) := Except Misfit α

def misfit {α : Type} (j : Json) (expected : String) : Shaped α := .error (.kind j.found expected)

def asBool : Json → Shaped Bool
  | .bool b => .ok b
  | j => j.misfit "a boolean"

def asString : Json → Shaped String
  | .string s => .ok s
  | j => j.misfit "a string"

def asWord32 : Json → Shaped UInt32
  | .number (.int n) =>
    if 0 ≤ n ∧ n < UInt32.size then .ok (UInt32.ofNat n.toNat) else .error (.outOfRange n "u32")
  | j => j.misfit "u32"

def asList {α : Type} (element : Json → Shaped α) : Json → Shaped (List α)
  | .array items => items.mapM element
  | j => j.misfit "a sequence"

def asOptional {α : Type} (element : Json → Shaped α) : Json → Shaped (Option α)
  | .null => .ok none
  | j => some <$> element j

end ReachAudit.Json
