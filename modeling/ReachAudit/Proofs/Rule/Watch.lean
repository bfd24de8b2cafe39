import Mathlib.Data.List.Induction
import ReachAudit.Proofs.Rule.Deliveries

namespace ReachAudit

open History (Key Row Store)

variable {τ : Type}

theorem RuleId.ofResource_eq_iff {space name s n : String} (spacePlain : '/' ∉ space.toList)
    (namePlain : '/' ∉ name.toList) :
    RuleId.ofResource s n = RuleId.ofResource space name ↔ (s, n) = (space, name) := by
  constructor
  · intro same
    have letters := congrArg String.toList same
    simp only [RuleId.ofResource, String.toList_append, List.append_assoc] at letters
    change s.toList ++ '/' :: n.toList = space.toList ++ '/' :: name.toList at letters
    rcases List.append_eq_append_iff.mp letters with ⟨c, longer, rest⟩ | ⟨c, longer, rest⟩
    all_goals cases c with
    | nil => simp_all [String.toList_inj]
    | cons x c =>
      obtain ⟨rfl, rest⟩ := List.cons.inj rest
      simp_all
  · intro same
    cases same
    rfl

inductive Arrival (τ : Type) where
  | apply (now : τ) (space : Option String) (name : String) (rule : Rule)
  | delete (space name : String)
  | write (key : Key) (row : Row τ)

namespace Arrival

def told? : Arrival τ → Option ((String × String) × Delivery τ)
  | .apply now (some space) name rule => some ((space, name), .applied now rule)
  | .delete space name => some ((space, name), .deleted)
  | _ => none

def deliveryFor (resource : String × String) (arrival : Arrival τ) : Option (Delivery τ) :=
  (arrival.told?.filter (·.1 = resource)).map Prod.snd

def deliveriesFor (resource : String × String) (arrivals : List (Arrival τ)) : List (Delivery τ) :=
  arrivals.filterMap (deliveryFor resource)

theorem deliveriesFor_concat (resource : String × String) (arrivals : List (Arrival τ))
    (arrival : Arrival τ) : deliveriesFor resource (arrivals ++ [arrival]) =
      deliveriesFor resource arrivals ++ (arrival.deliveryFor resource).toList := by
  rw [deliveriesFor, List.filterMap_append]
  cases told : arrival.deliveryFor resource <;> simp [told, deliveriesFor]

end Arrival

namespace RuleIndex

def receive (index : RuleIndex τ) : Arrival τ → Option (RuleIndex τ)
  | .apply now space name rule => index.applyResource now ⟨space, some name, rule⟩
  | .delete space name => some (index.delete (.ofResource space name))
  | .write key row => some { index with history := index.history.upsert key row }

def follow (index : RuleIndex τ) (arrivals : List (Arrival τ)) : Option (RuleIndex τ) :=
  arrivals.foldlM receive index

def new (hash : Key → Nat) (shards : Nat) : RuleIndex τ := { history := .new hash shards }

inductive Received (index : RuleIndex τ) (arrival : Arrival τ) : RuleIndex τ → Prop where
  | delivered (space name : String) (d : Delivery τ)
    (told : arrival.told? = some ((space, name), d)) :
    Received index arrival (index.deliver (.ofResource space name) d)
  | ignored (untold : arrival.told? = none) (unwritten : ∀ key row, arrival ≠ .write key row) :
    Received index arrival index
  | written (key : Key) (row : Row τ) (same : arrival = .write key row) :
    Received index arrival { index with history := index.history.upsert key row }

theorem received_receive (index : RuleIndex τ) (arrival : Arrival τ) :
    ∃ next, index.receive arrival = some next ∧ Received index arrival next := by
  cases arrival with
  | apply now space name rule =>
    cases space with
    | none => exact ⟨index, rfl, .ignored rfl (by simp)⟩
    | some space => exact ⟨_, rfl, .delivered space name (.applied now rule) rfl⟩
  | delete space name => exact ⟨_, rfl, .delivered space name .deleted rfl⟩
  | write key row => exact ⟨_, rfl, .written key row rfl⟩

variable {index next : RuleIndex τ} {arrival : Arrival τ}

theorem Received.of_deliveryFor {space name : String} {d : Delivery τ}
    (received : Received index arrival next)
    (told : arrival.deliveryFor (space, name) = some d) :
    next = index.deliver (.ofResource space name) d := by
  obtain ⟨⟨resource, d'⟩, filtered, rfl⟩ := Option.map_eq_some_iff.mp told
  obtain ⟨about, own⟩ := Option.filter_eq_some_iff.mp filtered
  obtain rfl : resource = (space, name) := of_decide_eq_true own
  cases received with
  | delivered s n d'' about' =>
    rw [about] at about'
    cases about'
    rfl
  | ignored untold unwritten =>
    rw [untold] at about
    cases about
  | written key row same =>
    rw [same] at about
    cases about

theorem Received.placed (received : Received index arrival next) (placed : index.history.Placed) :
    next.history.Placed := by
  cases received with
  | delivered space name d told => exact placed_deliver placed d
  | ignored untold unwritten => exact placed
  | written key row same => exact placed.upsert key row

structure Untouched (id : RuleId) (arrival : Arrival τ) (index next : RuleIndex τ) : Prop where
  entry : next.rules.get? id = index.rules.get? id
  generation : next.history.generation id = index.history.generation id
  rows : (∀ key row, arrival = .write key row → key.rule ≠ id) →
    next.history.byRule id = index.history.byRule id
  kept : ∀ key old, key.rule = id → index.history.get? key = some old →
    ∃ row, next.history.get? key = some row

theorem Received.untouched {space name : String} (received : Received index arrival next)
    (placed : index.history.Placed) (spacePlain : '/' ∉ space.toList)
    (namePlain : '/' ∉ name.toList) (other : arrival.deliveryFor (space, name) = none) :
    Untouched (.ofResource space name) arrival index next := by
  cases received with
  | delivered s n d told =>
    have apart : RuleId.ofResource s n ≠ RuleId.ofResource space name := by
      rw [ne_eq, RuleId.ofResource_eq_iff spacePlain namePlain]
      intro same
      simp [Arrival.deliveryFor, told, same, Option.filter] at other
    have rows := byRule_deliver placed (.ofResource s n) (.ofResource space name) d
    rw [if_neg fun both => apart both.1] at rows
    refine ⟨get?_deliver_of_ne d apart, ?_, fun _ => rows, ?_⟩
    · rw [generation_deliver, if_neg fun both => apart both.1]
      rfl
    · intro key old own stored
      have member := Store.mem_byRule.mpr ⟨placed.holds_iff.mpr stored, own⟩
      rw [← rows] at member
      exact ⟨old, (placed_deliver placed d).holds_iff.mp (Store.mem_byRule.mp member).1⟩
  | ignored untold unwritten =>
    exact ⟨rfl, rfl, fun _ => rfl, fun key old _ stored => ⟨old, stored⟩⟩
  | written key row same =>
    refine ⟨rfl, Store.generation_upsert .., fun other => ?_, fun k old _ stored => ?_⟩
    · exact Store.byRule_upsert row (other key row same)
    · obtain ⟨row', present, _⟩ := placed.keeps_upsert key row k old stored
      exact ⟨row', present⟩

theorem follow_concat (index : RuleIndex τ) (arrivals : List (Arrival τ)) (arrival : Arrival τ) :
    index.follow (arrivals ++ [arrival]) = (index.follow arrivals).bind (·.receive arrival) := by
  simp [follow, List.foldlM_append]

open Arrival in
theorem follow_agrees (hash : Key → Nat) (shards : Nat) (arrivals : List (Arrival τ))
    {space name : String} (spacePlain : '/' ∉ space.toList) (namePlain : '/' ∉ name.toList) :
    ∃ index, (new hash shards).follow arrivals = some index ∧ index.history.Placed ∧
      Delivery.Agree (deliveriesFor (space, name) arrivals)
        (index.rules.get? (.ofResource space name))
        (index.history.generation (.ofResource space name)) := by
  induction arrivals using List.reverseRecOn with
  | nil => exact ⟨_, rfl, .new hash shards, Delivery.agree_nil⟩
  | append_singleton earlier arrival ih =>
    obtain ⟨index, followed, placed, agree⟩ := ih
    obtain ⟨next, taken, received⟩ := index.received_receive arrival
    refine ⟨next, ?_, received.placed placed, ?_⟩
    · rw [follow_concat, followed, Option.bind_some, taken]
    rw [deliveriesFor_concat]
    cases told : arrival.deliveryFor (space, name) with
    | none =>
      have same := received.untouched placed spacePlain namePlain told
      rw [same.entry, same.generation]
      simpa using agree
    | some d =>
      obtain rfl := received.of_deliveryFor told
      exact agree_deliver agree d

open Arrival in
/-- The index follows the watch, rule by rule. It has a rule just while its resource was last
    applied, with the fields that came last. The rule was created with the first application since
    the resource was last deleted, and updated with the last one that brought something new. Its
    generation counts how often its history was discarded, when a held rule went or came in another
    shape: at these deliveries its rows go, and at no other arrival. What comes for another resource
    leaves the rule, its generation and its rows as they are. -/
theorem index_follows_watch (hash : Key → Nat) (shards : Nat) (arrivals : List (Arrival τ))
    (space name : String) (spacePlain : '/' ∉ space.toList) (namePlain : '/' ∉ name.toList) :
    let id := RuleId.ofResource space name
    let past := deliveriesFor (space, name) arrivals
    ∃ index, (new hash shards).follow arrivals = some index ∧
      Delivery.Agree past (index.rules.get? id) (index.history.generation id) ∧
      ∀ arrival, ∃ next, index.receive arrival = some next ∧
        (∀ d, arrival.deliveryFor (space, name) = some d →
          next.history.byRule id =
            if d.discards (Delivery.held past) then [] else index.history.byRule id) ∧
        (arrival.deliveryFor (space, name) = none → Untouched id arrival index next) := by
  intro id past
  obtain ⟨index, followed, placed, agree⟩ := follow_agrees hash shards arrivals spacePlain namePlain
  refine ⟨index, followed, agree, ?_⟩
  intro arrival
  obtain ⟨next, taken, received⟩ := index.received_receive arrival
  refine ⟨next, taken, ?_, received.untouched placed spacePlain namePlain⟩
  intro d told
  have held : index.ruleOf? id = Delivery.held past := agree.rule
  have rows := byRule_deliver placed id id d
  rw [received.of_deliveryFor told, rows, held]
  simp only [true_and]

def watched : Rule := { roles := ["db"], addresses := ["a"], ports := ["1"] }

def recreated : List (Arrival Nat) := [
  .apply 1 (some "ns") "r" watched, .apply 2 none "r" watched,
  .apply 3 (some "ns") "r" { watched with description := some "d" },
  .apply 4 (some "ns") "r" { watched with description := some "d" },
  .apply 5 (some "ns") "r" { watched with ports := ["2"] }, .delete "ns" "r", .delete "ns" "r",
  .apply 6 (some "ns") "r" watched]

theorem index_follows_watch_recreated :
    ∃ index, (new Key.checksum 2).follow recreated = some index ∧
      index.history.generation "ns/r" = 2 ∧ index.ruleOf? "ns/r" = some watched := by
  obtain ⟨index, followed, agree, _⟩ := index_follows_watch Key.checksum 2 recreated "ns" "r"
    (by decide) (by decide)
  exact ⟨index, followed, agree.count.trans (by decide +kernel), agree.rule⟩

end RuleIndex

end ReachAudit
