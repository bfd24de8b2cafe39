import Mathlib.Data.Finset.Card
import Mathlib.Data.Finset.Dedup
import Mathlib.Data.List.Induction
import ReachAudit.Node.Sync
import ReachAudit.Proofs.Node.Labels

namespace ReachAudit

theorem NameSet.size_ofList (names : List String) :
    (NameSet.ofList names).size = names.toFinset.card := by
  have distinct : (NameSet.ofList names).toList.Nodup := by
    refine List.Pairwise.imp ?_ (NameSet.ofList names).rising
    rintro a b below rfl
    exact String.lt_irrefl a below
  have same : (NameSet.ofList names).toList.toFinset = names.toFinset := by
    ext name
    rw [List.mem_toFinset, List.mem_toFinset]
    exact NameSet.mem_ofList
  rw [NameSet.size, ← List.toFinset_card_of_nodup distinct, same]

def FirstOfType (type : String) (listed : List (String × String)) : Option String → Prop
  | some address => ∃ before after, listed = before ++ (type, address) :: after ∧
      ∀ entry ∈ before, entry.1 ≠ type
  | none => ∀ entry ∈ listed, entry.1 ≠ type

theorem NodeResource.address?_eq_iff {resource : NodeResource} {type : String}
    {address? : Option String} :
    resource.address? type = address? ↔ FirstOfType type resource.addresses address? := by
  cases address? with
  | none => simp [NodeResource.address?, FirstOfType]
  | some address =>
    rw [NodeResource.address?, Option.map_eq_some_iff]
    simp only [List.find?_eq_some_iff_append, FirstOfType]
    constructor
    · rintro ⟨⟨_, _⟩, ⟨own, before, after, same, others⟩, rfl⟩
      obtain rfl := of_decide_eq_true own
      exact ⟨before, after, same, by simpa using others⟩
    · rintro ⟨before, after, same, others⟩
      exact ⟨_, ⟨decide_eq_true rfl, before, after, same, by simpa using others⟩, rfl⟩

namespace Node

variable {τ : Type}

def Sighting.node (s : Sighting τ) : Node τ where
  name := s.resource.displayName
  roles := NameSet.ofList (NodeResource.roles s.resource.labels)
  address := {
    internalIp := s.resource.address? "InternalIP"
    externalIp := s.resource.address? "ExternalIP"
    hostname := s.resource.address? "Hostname" }
  createdAt := s.readAt
  updatedAt := s.readAt

theorem Sighting.toNode?_eq (s : Sighting τ) :
    s.resource.toNode? s.readAt = s.resource.id?.map fun id => (id, s.node) := rfl

theorem Sighting.id?_eq_some {s : Sighting τ} {id : NodeId} :
    s.resource.id? = some id ↔ s.resource.uid = some id ∧ id ≠ "" := by
  rw [NodeResource.id?, Option.filter_eq_some_iff]
  simp

def sightingsOf (id : NodeId) (seen : List (Sighting τ)) : List (Sighting τ) :=
  seen.filter fun s => s.resource.id? = some id

theorem mem_sightingsOf {id : NodeId} {seen : List (Sighting τ)} {s : Sighting τ} :
    s ∈ sightingsOf id seen ↔ s ∈ seen ∧ s.resource.uid = some id ∧ id ≠ "" := by
  rw [sightingsOf, List.mem_filter, decide_eq_true_eq, Sighting.id?_eq_some]

theorem sightingsOf_eq {id : NodeId} (named : id ≠ "") (seen : List (Sighting τ)) :
    sightingsOf id seen = seen.filter (·.resource.uid = some id) := by
  refine List.filter_congr fun s _ => ?_
  rw [decide_eq_decide, Sighting.id?_eq_some]
  exact and_iff_left named

/-- What is left of the sightings of one node: its creation is the time of the first, and all else
    is from the last. -/
def remembered (sightings : List (Sighting τ)) : Option (Node τ) :=
  match sightings.head?, sightings.getLast? with
  | some first, some last => some {
      last.node with
      createdAt := first.readAt
      updatedAt := if sightings.length = 1 then last.readAt else last.recordedAt }
  | _, _ => none

theorem remembered_concat (sightings : List (Sighting τ)) (s : Sighting τ) :
    remembered (sightings ++ [s]) =
      some (match remembered sightings with
        | some known => { s.node with createdAt := known.createdAt, updatedAt := s.recordedAt }
        | none => s.node) := by
  cases sightings with
  | nil => rfl
  | cons first rest =>
    have before : (first :: rest).getLast? =
        some ((first :: rest).getLast (List.cons_ne_nil _ _)) :=
      List.getLast?_eq_some_getLast (List.cons_ne_nil _ _)
    have begins : (first :: rest ++ [s]).head? = some first := rfl
    have ends : (first :: rest ++ [s]).getLast? = some s := List.getLast?_concat
    have several : (first :: rest ++ [s]).length ≠ 1 := by simp
    simp only [remembered, before, begins, ends, if_neg several, List.head?_cons]

theorem isSome_remembered {sightings : List (Sighting τ)} :
    (remembered sightings).isSome = true ↔ sightings ≠ [] := by
  cases sightings with
  | nil => simp [remembered]
  | cons first rest =>
    simp [remembered, List.getLast?_eq_some_getLast (List.cons_ne_nil first rest)]

theorem remembered_eq_some {sightings : List (Sighting τ)} {node : Node τ}
    (known : remembered sightings = some node) :
    ∃ first last, sightings.head? = some first ∧ sightings.getLast? = some last ∧
      node.createdAt = first.readAt ∧ node.name = last.node.name ∧
      node.roles = last.node.roles ∧ node.address = last.node.address := by
  rw [remembered] at known
  split at known
  · rename_i first last begins ends
    cases known
    exact ⟨first, last, begins, ends, rfl, rfl, rfl, rfl⟩
  · cases known

theorem get?_apply (now : τ) (id : NodeId) (node : Node τ) (index : NodeIndex τ) (other : NodeId) :
    (index.apply now id node).get? other =
      if id = other then
        some (match index.get? id with
          | some known => { node with createdAt := known.createdAt, updatedAt := now }
          | none => node)
      else index.get? other := by
  rw [NodeIndex.apply]
  cases found : index.get? id with
  | none => exact Table.get?_insert ..
  | some known => exact Table.get?_insert ..

theorem record_concat (sightings : List (Sighting τ)) (s : Sighting τ) (index : NodeIndex τ) :
    record (sightings ++ [s]) index =
      match s.resource.id? with
      | some id => (record sightings index).apply s.recordedAt id s.node
      | none => record sightings index := by
  rw [record, List.foldl_concat, ← record, Sighting.toNode?_eq]
  cases s.resource.id? <;> rfl

theorem record_append (first second : List (Sighting τ)) (index : NodeIndex τ) :
    record (first ++ second) index = record second (record first index) := List.foldl_append

theorem get?_record (seen : List (Sighting τ)) (id : NodeId) :
    (record seen ∅).get? id = remembered (sightingsOf id seen) := by
  induction seen using List.reverseRecOn with
  | nil => rfl
  | append_singleton seen s ih =>
    rw [record_concat, sightingsOf, List.filter_append, ← sightingsOf]
    cases own : s.resource.id? with
    | none => simpa [own] using ih
    | some other =>
      simp only [get?_apply]
      by_cases same : other = id
      · subst same
        simp [own, ih, remembered_concat]
      · simpa [own, same] using ih

theorem get?_record_of_unlisted {seen : List (Sighting τ)} {id : NodeId}
    (unlisted : ∀ s ∈ seen, s.resource.uid ≠ some id) (index : NodeIndex τ) :
    (record seen index).get? id = index.get? id := by
  induction seen using List.reverseRecOn with
  | nil => rfl
  | append_singleton seen s ih =>
    have before := ih fun s' member => unlisted s' (List.mem_append_left _ member)
    rw [record_concat]
    cases own : s.resource.id? with
    | none => exact before
    | some other =>
      have differ : other ≠ id := by
        rintro rfl
        exact unlisted s List.mem_concat_self (Sighting.id?_eq_some.mp own).1
      dsimp only
      rw [get?_apply, if_neg differ, before]

theorem record_filter (sightings : List (Sighting τ)) (index : NodeIndex τ) :
    record (sightings.filter (·.resource.id?.isSome)) index = record sightings index := by
  induction sightings using List.reverseRecOn with
  | nil => rfl
  | append_singleton sightings s ih =>
    rw [List.filter_append, record_append, ih, record_concat]
    cases own : s.resource.id? with
    | none =>
      rw [List.filter_singleton, own]
      rfl
    | some id =>
      rw [List.filter_singleton, own, Option.isSome_some, cond_true, ← record_append, record_concat,
        own]

theorem syncSighted_filter (sightings? : Option (List (Sighting τ))) (index : NodeIndex τ) :
    syncSighted (sightings?.map (·.filter (·.resource.id?.isSome))) index =
      syncSighted sightings? index := by
  cases sightings? with
  | none => rfl
  | some sightings =>
    have ids : (sightings.filter (·.resource.id?.isSome)).filterMap (·.resource.id?) =
        sightings.filterMap (·.resource.id?) := by
      rw [List.filterMap_filter]
      refine List.filterMap_congr fun s _ => ?_
      cases s.resource.id? <;> rfl
    simp only [Option.map_some, syncSighted, ids, record_filter]

def listedIds (sightings : List (Sighting τ)) : Finset NodeId :=
  (sightings.filterMap (·.resource.uid)).toFinset.erase ""

theorem reply_listed (sightings : List (Sighting τ)) (index : NodeIndex τ) :
    (syncSighted (some sightings) index).1 = .ok (listedIds sightings).card := by
  have same : (sightings.filterMap (·.resource.id?)).toFinset = listedIds sightings := by
    ext id
    simp only [listedIds, List.mem_toFinset, List.mem_filterMap, Finset.mem_erase,
      Sighting.id?_eq_some]
    constructor
    · rintro ⟨s, member, uid, named⟩
      exact ⟨named, s, member, uid⟩
    · rintro ⟨named, s, member, uid⟩
      exact ⟨s, member, uid, named⟩
  rw [syncSighted, NameSet.size_ofList, same]

def syncAll (listings : List (Option (List (Sighting τ)))) :
    List (Except SyncError Nat) × NodeIndex τ :=
  listings.foldl (fun (replies, index) listing =>
    let (reply, index) := syncSighted listing index
    (replies ++ [reply], index)) ([], ∅)

def seen (listings : List (Option (List (Sighting τ)))) : List (Sighting τ) :=
  listings.flatMap (·.getD [])

theorem syncAll_concat (listings : List (Option (List (Sighting τ))))
    (listing : Option (List (Sighting τ))) :
    syncAll (listings ++ [listing]) =
      ((syncAll listings).1 ++ [(syncSighted listing (syncAll listings).2).1],
        (syncSighted listing (syncAll listings).2).2) := by
  rw [syncAll, List.foldl_concat, ← syncAll]

theorem index_syncAll (listings : List (Option (List (Sighting τ)))) :
    (syncAll listings).2 = record (seen listings) ∅ := by
  induction listings using List.reverseRecOn with
  | nil => rfl
  | append_singleton listings listing ih =>
    rw [syncAll_concat, seen, List.flatMap_append, ← seen, record_append, ← ih]
    cases listing with
    | none => rfl
    | some sightings => simp [syncSighted]

theorem get?_syncAll (listings : List (Option (List (Sighting τ)))) (id : NodeId) :
    (syncAll listings).2.get? id = remembered (sightingsOf id (seen listings)) := by
  rw [← get?_record, ← index_syncAll]

theorem contains_syncAll_iff (listings : List (Option (List (Sighting τ)))) (id : NodeId) :
    (syncAll listings).2.contains id = true ↔
      id ≠ "" ∧ ∃ s ∈ seen listings, s.resource.uid = some id := by
  rw [Table.contains, get?_syncAll, isSome_remembered, ne_eq, List.eq_nil_iff_forall_not_mem]
  push Not
  simp only [mem_sightingsOf]
  constructor
  · rintro ⟨s, member, uid, named⟩
    exact ⟨named, s, member, uid⟩
  · rintro ⟨named, s, member, uid⟩
    exact ⟨s, member, uid, named⟩

theorem replies_syncAll (listings : List (Option (List (Sighting τ)))) :
    (syncAll listings).1 = listings.map fun
      | none => .error .notListed
      | some sightings => .ok (listedIds sightings).card := by
  induction listings using List.reverseRecOn with
  | nil => rfl
  | append_singleton listings listing ih =>
    rw [syncAll_concat, List.map_append, ih]
    cases listing with
    | none => rfl
    | some sightings => rw [reply_listed]; rfl

theorem syncAll_filter (listings : List (Option (List (Sighting τ)))) :
    syncAll (listings.map (·.map (·.filter (·.resource.id?.isSome)))) = syncAll listings := by
  induction listings using List.reverseRecOn with
  | nil => rfl
  | append_singleton listings listing ih =>
    rw [List.map_append, List.map_singleton, syncAll_concat, syncAll_concat, ih,
      syncSighted_filter]

/-- An index holds every node that was ever listed with an id, and no other. Its creation is the
    time at which it was first read, and all else is as it was listed last. A sync tells the number
    of distinct ids in its listing. One that fails leaves everything as it is, and nodes without an
    id are passed over. -/
theorem syncs_retain_every_node (listings : List (Option (List (Sighting τ)))) :
    let index := (syncAll listings).2
    (∀ id, index.contains id = true ↔
      id ≠ "" ∧ ∃ s ∈ seen listings, s.resource.uid = some id) ∧
      (∀ id node, index.get? id = some node → ∃ first last : Sighting τ,
        (seen listings).find? (·.resource.uid = some id) = some first ∧
          (seen listings).reverse.find? (·.resource.uid = some id) = some last ∧
          node.createdAt = first.readAt ∧
          node.name = (last.resource.name.or last.resource.generateName).getD "" ∧
          (∀ role, role ∈ node.roles ↔ role ≠ "" ∧
            last.resource.labels.contains ("node-role.kubernetes.io/" ++ role) = true) ∧
          FirstOfType "InternalIP" last.resource.addresses node.address.internalIp ∧
          FirstOfType "ExternalIP" last.resource.addresses node.address.externalIp ∧
          FirstOfType "Hostname" last.resource.addresses node.address.hostname) ∧
      ((syncAll listings).1 = listings.map fun
        | none => .error .notListed
        | some sightings => .ok (listedIds sightings).card) ∧
      (∀ before after, listings = before ++ none :: after →
        index = (syncAll (before ++ after)).2 ∧
          (syncAll (before ++ [none])).2 = (syncAll before).2) ∧
      syncAll (listings.map (·.map (·.filter (·.resource.uid.any (· ≠ ""))))) =
        syncAll listings := by
  intro index
  refine ⟨contains_syncAll_iff listings, ?_, replies_syncAll listings, ?_, ?_⟩
  · intro id node known
    rw [get?_syncAll] at known
    obtain ⟨first, last, begins, ends, created, name, roles, address⟩ := remembered_eq_some known
    have named : id ≠ "" := (mem_sightingsOf.mp (List.mem_of_mem_head? begins)).2.2
    rw [sightingsOf_eq named] at begins ends
    refine ⟨first, last, ?_, ?_, created, name, ?_, ?_⟩
    · rw [← List.head?_filter]
      exact begins
    · rw [← List.head?_filter, List.filter_reverse, List.head?_reverse]
      exact ends
    · intro role
      rw [roles]
      exact NameSet.mem_ofList.trans NodeResource.mem_roles_iff
    · rw [address]
      simp only [← NodeResource.address?_eq_iff]
      exact ⟨rfl, rfl, rfl⟩
  · intro before after split
    constructor
    · change (syncAll listings).2 = _
      rw [index_syncAll, index_syncAll, split]
      simp [seen]
    · rw [index_syncAll, index_syncAll]
      simp [seen]
  · have same (s : Sighting τ) : s.resource.uid.any (· ≠ "") = s.resource.id?.isSome := by
      rw [NodeResource.id?]
      cases s.resource.uid with
      | none => rfl
      | some uid => by_cases empty : uid = "" <;> simp [Option.filter, empty]
    simp only [same]
    exact syncAll_filter listings

/-- A node is listed twice at once under different names, beside one without an id, and then the
    cluster does not answer. -/
def listedTwice : List (Option (List (Sighting Nat))) := [
  some [⟨{ uid := "u", name := "a", addresses := [("InternalIP", "10.0.0.1")] }, 1, 2⟩,
    ⟨{ uid := "", name := "x" }, 3, 4⟩,
    ⟨{ uid := "u", generateName := "b"
       labels := .ofList [("node-role.kubernetes.io/db", "")]
       addresses := [("Hostname", "h"), ("InternalIP", "10.0.0.2"),
         ("InternalIP", "10.0.0.3")] }, 5, 6⟩], none]

theorem syncs_retain_every_node_repeated :
    ∃ node, (syncAll listedTwice).2.get? "u" = some node ∧
      node.createdAt = 1 ∧ node.name = "b" ∧ "db" ∈ node.roles ∧
      node.address = { internalIp := "10.0.0.2", hostname := "h" } ∧
      (syncAll listedTwice).1 = [.ok 1, .error .notListed] := by
  obtain ⟨held, described, replies, _⟩ := syncs_retain_every_node listedTwice
  have listed : ∃ s ∈ seen listedTwice, s.resource.uid = some "u" :=
    ⟨_, List.mem_cons_self, rfl⟩
  obtain ⟨node, known⟩ := Option.isSome_iff_exists.mp ((held "u").mpr ⟨by decide, listed⟩)
  obtain ⟨first, last, begins, ends, created, name, roles, internal, external, host⟩ :=
    described "u" node known
  cases begins
  cases ends
  have address : node.address = { internalIp := "10.0.0.2", hostname := "h" } := by
    rw [← NodeResource.address?_eq_iff] at internal external host
    calc node.address = ⟨node.address.internalIp, node.address.externalIp, node.address.hostname⟩ :=
          rfl
      _ = ⟨some "10.0.0.2", none, some "h"⟩ := by
        rw [← internal, ← external, ← host]
        rfl
  exact ⟨node, known, created, name, (roles "db").mpr ⟨by decide, by decide +kernel⟩, address,
    replies.trans (by decide +kernel)⟩

end Node

end ReachAudit
