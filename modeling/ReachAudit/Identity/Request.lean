namespace ReachAudit

structure ClusterRequest where
  path : String
  query : Option String := none
  deriving DecidableEq, Repr

namespace ClusterRequest

def target (request : ClusterRequest) : String :=
  request.path ++ (request.query.map ("?" ++ ·)).getD ""

def isPathChar (c : Char) : Bool := ' ' < c && !(['#', '<', '>', '?', '\x60'].contains c)

def isQueryChar (c : Char) : Bool := ' ' < c && !(['"', '#', '<', '>'].contains c)

def greatestSize : Nat := UInt16.size - 2

/-- Reads the target of a request. Nothing in it is escaped; what follows a `#` is not sent. -/
def parse? (target : String) : Option ClusterRequest :=
  let (path, rest) := target.toList.span fun c => c ≠ '?' && c ≠ '#'
  let query := match rest with
    | '?' :: query => some (query.takeWhile (· ≠ '#'))
    | _ => none
  if target.utf8ByteSize ≤ greatestSize && path.all isPathChar &&
      query.all (·.all isQueryChar) then
    some { path := String.ofList path, query := query.map String.ofList }
  else none

def pod? (space name : String) : Option ClusterRequest :=
  if name = "" then none else parse? ("/api/v1/namespaces/" ++ space ++ "/pods/" ++ name)

def node? (name : String) : Option ClusterRequest :=
  if name = "" then none else parse? ("/api/v1/nodes/" ++ name)

end ClusterRequest

end ReachAudit
