import ReachAudit.Url.Host

namespace ReachAudit

/-- What follows the authority of a URL. A rootless path is one text, for schemes that know no
    hierarchy. -/
inductive Url.Path where
  | rootless (text : String)
  | segments (names : List String)
  deriving DecidableEq, Repr

structure Url where
  scheme : String
  username : String := ""
  password : String := ""
  host : Option Url.Host := none
  /-- Left out if it is the one that the scheme has anyway. -/
  port : Option Nat := none
  path : Url.Path
  query : Option String := none
  fragment : Option String := none
  deriving DecidableEq, Repr

namespace Url

def defaultPort? (scheme : String) : Option Nat :=
  match scheme with
  | "http" => some 80
  | "ws" => some 80
  | "https" => some 443
  | "wss" => some 443
  | "ftp" => some 21
  | _ => none

def isSpecial (scheme : String) : Bool := (defaultPort? scheme).isSome || scheme == "file"

def effectivePort (u : Url) : Option Nat := u.port.or (defaultPort? u.scheme)

def host? (u : Url) : Option Host := u.host.filter (· ≠ .domain "")

def credentials (u : Url) : String :=
  if u.username = "" ∧ u.password = "" then ""
  else u.username ++ (if u.password = "" then "" else ":" ++ u.password) ++ "@"

def authority (u : Url) : String :=
  match u.host with
  | none => ""
  | some host => "//" ++ u.credentials ++ host.text ++ (u.port.map fun n => ":" ++ n.repr).getD ""

def pathText (u : Url) : String :=
  match u.path with
  | .rootless text => text
  | .segments names =>
    -- A path that starts with two slashes must not be taken for an authority.
    let guard := if u.host = none ∧ names.head? = some "" ∧ 1 < names.length then "/." else ""
    guard ++ String.join (names.map ("/" ++ ·))

def text (u : Url) : String :=
  u.scheme ++ ":" ++ u.authority ++ u.pathText ++ (u.query.map ("?" ++ ·)).getD "" ++
    (u.fragment.map ("#" ++ ·)).getD ""

end Url

end ReachAudit
