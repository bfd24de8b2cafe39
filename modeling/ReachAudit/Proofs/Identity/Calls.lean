import Mathlib.Data.List.Basic
import ReachAudit.Identity

namespace ReachAudit

namespace ClusterReplies

variable (cluster : ClusterReplies)

end ClusterReplies

namespace Identity

variable {identity : Identity} {cluster : ClusterReplies} {space podName : String}
  {result : Except IdentityError NodeId} {requests : List ClusterRequest} {id : NodeId}

def calls (identity : Identity) :
    List ClusterReplies → List (Except IdentityError NodeId × List ClusterRequest)
  | [] => []
  | cluster :: later =>
    let next := identity.current cluster
    next.1 :: next.2.calls later

def after (identity : Identity) (moments : List ClusterReplies) : Identity :=
  moments.foldl (fun identity cluster => (identity.current cluster).2) identity

theorem calls_append (identity : Identity) (first second : List ClusterReplies) :
    identity.calls (first ++ second) =
      identity.calls first ++ (identity.after first).calls second := by
  induction first generalizing identity with
  | nil => rfl
  | cons cluster first ih =>
    rw [List.cons_append, calls, ih]
    rfl

def new (space podName : String) : Identity := { space, podName }

variable {before : List ClusterReplies}

def moved : List ClusterReplies := [
  { pod? := fun _ => none, node? := fun _ => none },
  { pod? := fun _ => some { nodeName := "n" }, node? := fun _ => some { uid := "" } },
  { pod? := fun _ => some { nodeName := "n" }, node? := fun _ => some { uid := "u" } },
  { pod? := fun _ => some { nodeName := "m" }, node? := fun _ => some { uid := "v" } }]

end Identity

end ReachAudit
