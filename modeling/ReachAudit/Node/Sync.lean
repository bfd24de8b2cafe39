import ReachAudit.Node.Resource

namespace ReachAudit.Node

variable {τ : Type}

inductive SyncError where
  | notListed
  deriving DecidableEq, Repr

def SyncError.message : SyncError → String
  | .notListed => "failed to list nodes"

abbrev Listing := Option (List NodeResource)

/-- A node of a listing, the time at which it is read, and the time at which it is recorded. -/
structure Sighting (τ : Type) where
  resource : NodeResource
  readAt : τ
  recordedAt : τ

def record (sightings : List (Sighting τ)) (index : NodeIndex τ) : NodeIndex τ :=
  sightings.foldl (fun index sighting =>
    match sighting.resource.toNode? sighting.readAt with
    | some (id, node) => index.apply sighting.recordedAt id node
    | none => index) index

/-- One sync: the number of distinct nodes listed, and the index after it. Nodes that are no longer
    listed stay, and a failed listing changes nothing. -/
def syncSighted (sightings? : Option (List (Sighting τ))) (index : NodeIndex τ) :
    Except SyncError Nat × NodeIndex τ :=
  match sightings? with
  | none => (.error .notListed, index)
  | some sightings =>
    (.ok (NameSet.ofList (sightings.filterMap (·.resource.id?))).size, record sightings index)

def sync (now : τ) (listing : Listing) (index : NodeIndex τ) : Except SyncError Nat × NodeIndex τ :=
  syncSighted (listing.map fun nodes => nodes.map fun resource => ⟨resource, now, now⟩) index

/-- The number of syncs of a job that starts one at time zero and then one per interval, and that
    is stopped between two of them. -/
def syncCount (interval total : Nat) : Nat := total / interval + 1

def nthListing (listings : List Listing) (i : Nat) : Listing :=
  (listings[i]?.or listings.getLast?).getD (some [])

def syncTimes (clock : Nat → τ) (listings : List Listing) (count : Nat) : NodeIndex τ :=
  (List.range count).foldl
    (fun index i => (sync (clock i) (nthListing listings i) index).2) ∅

end ReachAudit.Node
