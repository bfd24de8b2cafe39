import Mathlib.Data.List.Induction
import Mathlib.Tactic.MkIffOfInductiveProp
import ReachAudit.Proofs.Json.Kinds
import ReachAudit.Proofs.Json.Members
import ReachAudit.Proofs.Rule.Deliveries
import ReachAudit.Rule.Resource

namespace ReachAudit

open Json (Kind IsBool IsString IsWord IsList)

namespace Rule

inductive Added (draft : Draft) : String → Json → Draft → Prop where
  | active (b : Bool) : Added draft "active" (Kind.bool.write b) { draft with active := some b }
  | roles (ss : List String) :
    Added draft "roles" (Kind.strings.write ss) { draft with roles := some ss }
  | addresses (ss : List String) :
    Added draft "destinationAddresses" (Kind.strings.write ss) { draft with addresses := some ss }
  | ports (ss : List String) :
    Added draft "destinationPorts" (Kind.strings.write ss) { draft with ports := some ss }
  | proxied (b : Bool) :
    Added draft "throughProxy" (Kind.bool.write b) { draft with proxied := some b }
  | description (s : Option String) :
    Added draft "description" (Kind.text?.write s) { draft with description := some s }
  | changeRequests (ns : List UInt32) :
    Added draft "changeRequests" (Kind.words.write ns) { draft with changeRequests := some ns }
  | projects (ss : List String) :
    Added draft "projects" (Kind.strings.write ss) { draft with projects := some ss }
  | passed {name : String} (value : Json) (unknown : name ∉ fieldNames) :
    Added draft name value draft

variable {draft next : Draft} {name : String} {value : Json} {rule : Rule}
  {members : List (String × Json)} {given given' : String → Option Json}

theorem reading_eq_ok_iff {α β : Type} (kind : Kind α) {set : α → β} {b : β} :
    (do return set (← kind.read value)) = (.ok b : Json.Shaped β) ↔
      ∃ a, value = kind.write a ∧ b = set a := by
  constructor
  · intro done
    cases read : kind.read value with
    | error e =>
      rw [read] at done
      cases done
    | ok a =>
      rw [read] at done
      cases done
      exact ⟨a, (kind.read_iff value a).mp read, rfl⟩
  · intro ⟨a, own, same⟩
    rw [own, same, kind.read_write]
    rfl

theorem addField_eq_ok_iff :
    draft.addField name value = .ok next ↔ Added draft name value next := by
  constructor
  · intro done
    unfold Draft.addField at done
    split at done
    case h_1 | h_5 =>
      obtain ⟨b, rfl, rfl⟩ := (reading_eq_ok_iff .bool).mp done
      constructor
    case h_2 | h_3 | h_4 | h_8 =>
      obtain ⟨ss, rfl, rfl⟩ := (reading_eq_ok_iff .strings).mp done
      constructor
    case h_6 =>
      obtain ⟨s, rfl, rfl⟩ := (reading_eq_ok_iff .text?).mp done
      constructor
    case h_7 =>
      obtain ⟨ns, rfl, rfl⟩ := (reading_eq_ok_iff .words).mp done
      constructor
    case h_9 =>
      cases done
      exact .passed value (by simp_all [fieldNames])
  · intro added
    cases added with
    | active b | proxied b => exact (reading_eq_ok_iff .bool).mpr ⟨b, rfl, rfl⟩
    | roles ss | addresses ss | ports ss | projects ss =>
      exact (reading_eq_ok_iff .strings).mpr ⟨ss, rfl, rfl⟩
    | description s => exact (reading_eq_ok_iff .text?).mpr ⟨s, rfl, rfl⟩
    | changeRequests ns => exact (reading_eq_ok_iff .words).mpr ⟨ns, rfl, rfl⟩
    | passed value unknown =>
      unfold Draft.addField
      split
      case h_9 => rfl
      all_goals exact absurd (by decide) unknown

def Draft.value? (draft : Draft) : String → Option Json
  | "active" => draft.active.map Kind.bool.write
  | "roles" => draft.roles.map Kind.strings.write
  | "destinationAddresses" => draft.addresses.map Kind.strings.write
  | "destinationPorts" => draft.ports.map Kind.strings.write
  | "throughProxy" => draft.proxied.map Kind.bool.write
  | "description" => draft.description.map Kind.text?.write
  | "changeRequests" => draft.changeRequests.map Kind.words.write
  | "projects" => draft.projects.map Kind.strings.write
  | _ => none

theorem Added.value? (added : Added draft name value next) {field : String}
    (known : field ∈ fieldNames) :
    next.value? field = if name = field then some value else draft.value? field := by
  cases added with
  | passed value unknown =>
    have differ : name ≠ field := fun same => unknown (same ▸ known)
    rw [if_neg differ]
  | _ =>
    unfold Draft.value?
    split <;> simp_all [fieldNames]

def Draft.ofMembers (members : List (String × Json)) : Json.Shaped Draft :=
  members.foldlM (fun draft m => draft.addField m.1 m.2) {}

theorem Draft.ofMembers_concat (members : List (String × Json)) (m : String × Json) :
    ofMembers (members ++ [m]) = (do addField (← ofMembers members) m.1 m.2) := by
  simp [ofMembers]

theorem value?_of_ofMembers (distinct : (members.map Prod.fst).Nodup)
    (read : Draft.ofMembers members = .ok draft) (known : name ∈ fieldNames) :
    draft.value? name = (Json.object members).member? name := by
  -- The member read last decides, and with distinct keys none before it has its key.
  induction members using List.reverseRecOn generalizing draft with
  | nil =>
    cases read
    unfold Draft.value?
    split <;> rfl
  | append_singleton members m ih =>
    rw [List.map_append, List.nodup_append] at distinct
    obtain ⟨earlier, _, apart⟩ := distinct
    rw [Draft.ofMembers_concat] at read
    cases before : Draft.ofMembers members with
    | error e =>
      rw [before] at read
      cases read
    | ok draft' =>
      rw [before] at read
      have added := addField_eq_ok_iff.mp read
      rw [added.value? known, ih earlier before, Json.member?_concat]
      split_ifs with own
      · have missing : (Json.object members).member? name = none := by
          apply Json.member?_eq_none
          intro member
          exact apart name member m.1 List.mem_cons_self own.symm
        rw [missing, Option.none_or]
      · rw [Option.or_none]

theorem Draft.exists_ofMembers (each : ∀ m ∈ members, ∀ draft, ∃ next, Added draft m.1 m.2 next) :
    ∃ draft, Draft.ofMembers members = .ok draft := by
  induction members using List.reverseRecOn with
  | nil => exact ⟨{}, rfl⟩
  | append_singleton members m ih =>
    obtain ⟨draft, read⟩ := ih fun m' member => each m' (List.mem_append_left _ member)
    obtain ⟨next, added⟩ := each m List.mem_concat_self draft
    apply Exists.intro next
    rw [Draft.ofMembers_concat, read]
    exact addField_eq_ok_iff.mpr added

/-- What is given for a field stands for its value. A field that is left out has its default, if it
    has one. -/
def Gives {α : Type} (kind : Kind α) (default : Option α) (value? : Option Json) (a : α) : Prop :=
  value? = some (kind.write a) ∨ value? = none ∧ default = some a

section Gives

variable {α : Type} {kind : Kind α} {default kept : Option α} {value? : Option Json} {a : α}

theorem gives_map_iff :
    Gives kind default (kept.map kind.write) a ↔ kept.or default = some a := by
  cases kept with
  | none => simp [Gives]
  | some b => simp [Gives, kind.write_eq_iff]

theorem Gives.eq_write (gives : Gives kind default (some value) a) : value = kind.write a := by
  rcases gives with same | ⟨missing, _⟩
  · exact Option.some.inj same
  · cases missing

theorem exists_gives_iff (kind : Kind α) :
    (∃ a, Gives kind none value? a) ↔ ∃ j, value? = some j ∧ kind.Fits j := by
  simp only [Gives, reduceCtorEq, and_false, or_false, kind.fits_iff]
  constructor
  · intro ⟨a, same⟩
    exact ⟨_, same, a, rfl⟩
  · intro ⟨j, given, a, same⟩
    exact ⟨a, same ▸ given⟩

theorem exists_gives_default_iff (kind : Kind α) (d : α) :
    (∃ a, Gives kind (some d) value? a) ↔ ∀ j, value? = some j → kind.Fits j := by
  cases value? with
  | none => simp [Gives]
  | some j => simp [Gives, kind.fits_iff]

end Gives

/-- The rule that an object declares by what it gives for each name. -/
@[mk_iff]
structure Declares (given : String → Option Json) (rule : Rule) : Prop where
  active : Gives .bool (some true) (given "active") rule.active
  roles : Gives .strings none (given "roles") rule.roles
  addresses : Gives .strings none (given "destinationAddresses") rule.addresses
  ports : Gives .strings (some []) (given "destinationPorts") rule.ports
  proxied : Gives .bool (some false) (given "throughProxy") rule.proxied
  description : Gives .text? (some none) (given "description") rule.description
  changeRequests : Gives .words (some []) (given "changeRequests") rule.changeRequests
  projects : Gives .strings (some []) (given "projects") rule.projects

/-- What is given for each name is of the kind that the field takes, and what has no default is
    given. -/
structure WellTyped (given : String → Option Json) : Prop where
  active : ∀ j, given "active" = some j → IsBool j
  roles : ∃ j, given "roles" = some j ∧ IsList IsString j
  addresses : ∃ j, given "destinationAddresses" = some j ∧ IsList IsString j
  ports : ∀ j, given "destinationPorts" = some j → IsList IsString j
  proxied : ∀ j, given "throughProxy" = some j → IsBool j
  description : ∀ j, given "description" = some j → j = .null ∨ IsString j
  changeRequests : ∀ j, given "changeRequests" = some j → IsList IsWord j
  projects : ∀ j, given "projects" = some j → IsList IsString j

theorem exists_declares_iff : (∃ rule, Declares given rule) ↔ WellTyped given := by
  constructor
  · intro ⟨rule, declares⟩
    exact {
      active := (exists_gives_default_iff .bool true).mp ⟨_, declares.active⟩
      roles := (exists_gives_iff .strings).mp ⟨_, declares.roles⟩
      addresses := (exists_gives_iff .strings).mp ⟨_, declares.addresses⟩
      ports := (exists_gives_default_iff .strings []).mp ⟨_, declares.ports⟩
      proxied := (exists_gives_default_iff .bool false).mp ⟨_, declares.proxied⟩
      description := (exists_gives_default_iff .text? none).mp ⟨_, declares.description⟩
      changeRequests := (exists_gives_default_iff .words []).mp ⟨_, declares.changeRequests⟩
      projects := (exists_gives_default_iff .strings []).mp ⟨_, declares.projects⟩ }
  · intro typed
    obtain ⟨active, hasActive⟩ := (exists_gives_default_iff .bool true).mpr typed.active
    obtain ⟨roles, hasRoles⟩ := (exists_gives_iff .strings).mpr typed.roles
    obtain ⟨addresses, hasAddresses⟩ := (exists_gives_iff .strings).mpr typed.addresses
    obtain ⟨ports, hasPorts⟩ := (exists_gives_default_iff .strings []).mpr typed.ports
    obtain ⟨proxied, hasProxied⟩ := (exists_gives_default_iff .bool false).mpr typed.proxied
    obtain ⟨text, hasText⟩ := (exists_gives_default_iff .text? none).mpr typed.description
    obtain ⟨requests, hasRequests⟩ :=
      (exists_gives_default_iff .words []).mpr typed.changeRequests
    obtain ⟨projects, hasProjects⟩ := (exists_gives_default_iff .strings []).mpr typed.projects
    exact ⟨⟨active, roles, addresses, ports, proxied, text, requests, projects⟩,
      ⟨hasActive, hasRoles, hasAddresses, hasPorts, hasProxied, hasText, hasRequests,
        hasProjects⟩⟩

theorem Declares.congr (same : ∀ name ∈ fieldNames, given name = given' name) :
    Declares given rule ↔ Declares given' rule := by
  have known (name : String) (own : fieldNames.contains name = true) : given name = given' name :=
    same name (List.contains_iff_mem.mp own)
  rw [declares_iff, declares_iff, known "active" rfl, known "roles" rfl,
    known "destinationAddresses" rfl, known "destinationPorts" rfl, known "throughProxy" rfl,
    known "description" rfl, known "changeRequests" rfl, known "projects" rfl]

theorem Declares.added (declares : Declares given rule) (known : given name = some value)
    (draft : Draft) : ∃ next, Added draft name value next := by
  by_cases unknown : name ∉ fieldNames
  · exact ⟨draft, .passed value unknown⟩
  · simp only [fieldNames, List.mem_cons, List.not_mem_nil, or_false, not_not] at unknown
    rcases unknown with rfl | rfl | rfl | rfl | rfl | rfl | rfl | rfl
    · exact (known ▸ declares.active).eq_write ▸ ⟨_, .active _⟩
    · exact (known ▸ declares.roles).eq_write ▸ ⟨_, .roles _⟩
    · exact (known ▸ declares.addresses).eq_write ▸ ⟨_, .addresses _⟩
    · exact (known ▸ declares.ports).eq_write ▸ ⟨_, .ports _⟩
    · exact (known ▸ declares.proxied).eq_write ▸ ⟨_, .proxied _⟩
    · exact (known ▸ declares.description).eq_write ▸ ⟨_, .description _⟩
    · exact (known ▸ declares.changeRequests).eq_write ▸ ⟨_, .changeRequests _⟩
    · exact (known ▸ declares.projects).eq_write ▸ ⟨_, .projects _⟩

def Draft.declared (draft : Draft) : Json.Shaped Rule :=
  { draft with description := some (draft.description.getD none) }.finish
    fun _ name => .error (.missing name)

theorem declared_eq_ok_iff : draft.declared = .ok rule ↔ Declares draft.value? rule := by
  rw [declares_iff]
  simp only [Draft.value?, gives_map_iff, Option.or_some, Option.or_none, Option.some.injEq]
  obtain ⟨active, roles, addresses, ports, proxied, description, changeRequests, projects⟩ := draft
  cases roles with
  | none => simp [Draft.declared, Draft.finish, bind, Except.bind]
  | some roles =>
    cases addresses with
    | none => simp [Draft.declared, Draft.finish, bind, Except.bind, pure, Except.pure]
    | some addresses =>
      cases rule
      simp [Draft.declared, Draft.finish, bind, Except.bind, pure, Except.pure]

theorem ofMembers_eq (members : List (String × Json)) :
    ofMembers members = (do (← Draft.ofMembers members).declared) := rfl

theorem ofMembers_eq_ok_iff (distinct : (members.map Prod.fst).Nodup) :
    ofMembers members = .ok rule ↔
      Declares (fun name => (Json.object members).member? name) rule := by
  rw [ofMembers_eq]
  constructor
  · intro done
    cases read : Draft.ofMembers members with
    | error e =>
      rw [read] at done
      cases done
    | ok draft =>
      rw [read] at done
      have declares := declared_eq_ok_iff.mp done
      exact (Declares.congr fun name known => value?_of_ofMembers distinct read known).mp declares
  · intro declares
    have each : ∀ m ∈ members, ∀ draft, ∃ next, Added draft m.1 m.2 next := by
      intro m member
      exact declares.added ((Json.member?_eq_some_iff distinct).mpr member)
    obtain ⟨draft, read⟩ := Draft.exists_ofMembers each
    rw [read]
    apply declared_eq_ok_iff.mpr
    exact (Declares.congr fun name known => value?_of_ofMembers distinct read known).mpr declares

theorem ofMembers_filter (members : List (String × Json)) :
    ofMembers (members.filter fun m => fieldNames.contains m.1) = ofMembers members := by
  have passed : (fun draft m => if fieldNames.contains m.1 then Draft.addField draft m.1 m.2
      else pure draft) = fun draft (m : String × Json) => draft.addField m.1 m.2 := by
    funext draft m
    split_ifs with known
    · rfl
    · have unknown : m.1 ∉ fieldNames := fun member => known (List.contains_iff_mem.mpr member)
      exact (addField_eq_ok_iff.mpr (.passed m.2 unknown)).symm
  rw [ofMembers_eq, ofMembers_eq, Draft.ofMembers, List.foldlM_filter, passed, Draft.ofMembers]

theorem ofMembers_perm {others : List (String × Json)} (same : others.Perm members)
    (distinct : (members.map Prod.fst).Nodup) :
    ofMembers others = .ok rule ↔ ofMembers members = .ok rule := by
  have distinct' : (others.map Prod.fst).Nodup := (same.map _).nodup_iff.mpr distinct
  rw [ofMembers_eq_ok_iff distinct', ofMembers_eq_ok_iff distinct]
  exact Declares.congr fun name _ => Json.member?_perm same distinct

theorem WellTyped.isStrings (typed : WellTyped given) {j : Json}
    (own : name ∈ ["roles", "destinationAddresses", "destinationPorts", "projects"])
    (known : given name = some j) : IsList IsString j := by
  simp only [List.mem_cons, List.not_mem_nil, or_false] at own
  rcases own with rfl | rfl | rfl | rfl
  · obtain ⟨j', same, list⟩ := typed.roles
    cases known.symm.trans same
    exact list
  · obtain ⟨j', same, list⟩ := typed.addresses
    cases known.symm.trans same
    exact list
  · exact typed.ports j known
  · exact typed.projects j known

theorem WellTyped.notNull (typed : WellTyped given) (own : name ∈ fieldNames)
    (other : name ≠ "description") : given name ≠ some .null := by
  intro null
  have notBool : ¬ IsBool .null := fun ⟨_, same⟩ => by cases same
  have notList (p : Json → Prop) : ¬ IsList p .null := fun ⟨_, same, _⟩ => by cases same
  simp only [fieldNames, List.mem_cons, List.not_mem_nil, or_false] at own
  rcases own with rfl | rfl | rfl | rfl | rfl | rfl | rfl | rfl
  · exact notBool (typed.active _ null)
  · exact notList _ (typed.isStrings (by decide) null)
  · exact notList _ (typed.isStrings (by decide) null)
  · exact notList _ (typed.isStrings (by decide) null)
  · exact notBool (typed.proxied _ null)
  · exact other rfl
  · exact notList _ (typed.changeRequests _ null)
  · exact notList _ (typed.isStrings (by decide) null)

/-- An object with distinct keys, in any order, is read as a rule just when it gives roles and
    addresses, and all that it gives for a field is of the kind that the field takes: nothing but a
    description is null, and every item of a list fits. The rule has the values as they were given,
    with the defaults for those left out, and this is what an index holds of the resource once it is
    applied. Members of other names do not matter. -/
theorem rule_read_by_its_fields {τ : Type} (members : List (String × Json))
    (distinct : (members.map Prod.fst).Nodup) :
    let given (name : String) := (Json.object members).member? name
    let Refused := ∃ misfit, ofJson (.object members) = .error misfit
    ((∃ rule, ofJson (.object members) = .ok rule) ↔ WellTyped given) ∧
      (∀ name ∈ fieldNames, name ≠ "description" → given name = some .null → Refused) ∧
      (∀ name items item, given name = some (.array items) → item ∈ items →
        name ∈ ["roles", "destinationAddresses", "destinationPorts", "projects"] ∧ ¬ IsString item ∨
          name = "changeRequests" ∧ ¬ IsWord item → Refused) ∧
      (∀ rule, ofJson (.object members) = .ok rule ↔ Declares given rule) ∧
      (∀ (index : RuleIndex τ) now space name rule, ofJson (.object members) = .ok rule →
        ∃ next, index.applyResource now ⟨some space, some name, rule⟩ = some next ∧
          next.ruleOf? (.ofResource space name) = some rule) ∧
      (∀ others : List (String × Json), others.Perm members → ∀ rule,
        ofJson (.object others) = .ok rule ↔ ofJson (.object members) = .ok rule) ∧
      (∀ rule, ofJson (.ofMembers members) = .ok rule ↔ ofJson (.object members) = .ok rule) ∧
      ofJson (.object (members.filter fun m => fieldNames.contains m.1)) =
        ofJson (.object members) := by
  intro given Refused
  have read (rule : Rule) : ofJson (.object members) = .ok rule ↔ Declares given rule :=
    ofMembers_eq_ok_iff distinct
  have accepted : (∃ rule, ofJson (.object members) = .ok rule) ↔ WellTyped given := by
    simp only [read]
    exact exists_declares_iff
  have refused (bad : ¬ WellTyped given) : Refused := by
    cases result : ofJson (.object members) with
    | error misfit => exact ⟨misfit, result⟩
    | ok rule => exact absurd (accepted.mp ⟨rule, result⟩) bad
  refine ⟨accepted, ?_, ?_, read, ?_, ?_, ?_, ofMembers_filter members⟩
  · intro name own other null
    exact refused fun typed => typed.notNull own other null
  · intro name items item known member bad
    apply refused
    intro typed
    rcases bad with ⟨own, bad⟩ | ⟨rfl, bad⟩
    · exact bad ((typed.isStrings own known).of_mem member)
    · exact bad ((typed.changeRequests _ known).of_mem member)
  · intro index now space name rule _
    exact ⟨_, rfl, RuleIndex.ruleOf?_apply now _ rule index⟩
  · intro others same rule
    exact ofMembers_perm same distinct
  · intro rule
    obtain ⟨sorted, same, perm⟩ := Json.exists_ofMembers distinct
    rw [same]
    exact ofMembers_perm perm distinct

def misspelt : List (String × Json) := [
  ("through_proxy", .bool true), ("roles", .ofStrings ["db", "web", "db"]),
  ("destination_ports", .null), ("description", .null),
  ("changeRequests", .array [.ofNat 4294967295, .ofNat 0]),
  ("destinationAddresses", .ofStrings ["10.1.2.3"])]

theorem rule_read_by_its_fields_misspelt :
    ofJson (.object misspelt) = .ok {
      roles := ["db", "web", "db"], addresses := ["10.1.2.3"], changeRequests := [4294967295, 0] } ∧
      ∃ misfit, ofJson (.object (("projects", .array [.string "a", .null]) :: misspelt)) =
        .error misfit := by
  obtain ⟨_, _, _, read, _⟩ := rule_read_by_its_fields (τ := Nat) misspelt (by decide)
  obtain ⟨_, _, refused, _⟩ := rule_read_by_its_fields (τ := Nat)
    (("projects", .array [.string "a", .null]) :: misspelt) (by decide)
  constructor
  · apply (read _).mpr
    exact ⟨.inr ⟨rfl, rfl⟩, .inl rfl, .inl rfl, .inr ⟨rfl, rfl⟩, .inr ⟨rfl, rfl⟩, .inl rfl,
      .inl rfl, .inr ⟨rfl, rfl⟩⟩
  · have notString : ¬ IsString .null := fun ⟨_, same⟩ => by cases same
    exact refused "projects" _ .null rfl (by simp) (.inl ⟨by decide, notString⟩)

end Rule

end ReachAudit
