import ReachAudit.Identity.Request
import ReachAudit.Node.Resource

namespace ReachAudit

structure PodResource where
  nodeName : Option String := none

structure ClusterReplies where
  pod? : ClusterRequest → Option PodResource
  node? : ClusterRequest → Option NodeResource

/-- The ways to ask the cluster. How a request is sent is left open. -/
structure ClusterClient (m : Type → Type) where
  pod? : ClusterRequest → m (Option PodResource)
  node? : ClusterRequest → m (Option NodeResource)

def ClusterReplies.noted (cluster : ClusterReplies) :
    ClusterClient (StateM (List ClusterRequest)) where
  pod? request := do
    modify (· ++ [request])
    return cluster.pod? request
  node? request := do
    modify (· ++ [request])
    return cluster.node? request

inductive IdentityError where
  | podUnavailable (space name : String)
  | unscheduled (space name : String)
  | nodeUnavailable (name : String)
  | missingUid (name : String)
  deriving DecidableEq, Repr

def IdentityError.message : IdentityError → String
  | .podUnavailable space name => "failed to get pod " ++ space ++ "/" ++ name
  | .unscheduled space name => "pod " ++ space ++ "/" ++ name ++ " is not scheduled to a node"
  | .nodeUnavailable name => "failed to get node " ++ name
  | .missingUid name => "node " ++ name ++ " has no UID"

/-- Finds the node that this process runs on by way of its own pod. What is found stays for the
    life of the process. -/
structure Identity where
  space : String
  podName : String
  known : Option NodeId := none

namespace Identity

variable {m : Type → Type} [Monad m]

/-- A fresh attempt. Where there is nothing to ask for, no request is sent. -/
def resolve (identity : Identity) (client : ClusterClient m) :
    m (Except IdentityError NodeId) := do
  let space := identity.space
  let podName := identity.podName
  match ← (ClusterRequest.pod? space podName).elim (pure none) client.pod? with
  | none => return .error (.podUnavailable space podName)
  | some pod =>
    match pod.nodeName with
    | none => return .error (.unscheduled space podName)
    | some nodeName =>
      match ← (ClusterRequest.node? nodeName).elim (pure none) client.node? with
      | none => return .error (.nodeUnavailable nodeName)
      | some node =>
        match node.id? with
        | none => return .error (.missingUid nodeName)
        | some id => return .ok id

/-- The current node's id. Only a complete success is remembered. -/
def request (identity : Identity) (client : ClusterClient m) :
    m (Except IdentityError NodeId × Identity) :=
  match identity.known with
  | some id => return (.ok id, identity)
  | none => do
    let result ← identity.resolve client
    return (result, { identity with known := result.toOption })

def current (identity : Identity) (cluster : ClusterReplies) :
    (Except IdentityError NodeId × List ClusterRequest) × Identity :=
  let ((result, identity), requests) := (identity.request cluster.noted).run []
  ((result, requests), identity)

end Identity

end ReachAudit
