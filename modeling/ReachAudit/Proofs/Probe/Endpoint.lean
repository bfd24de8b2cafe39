import ReachAudit.Probe.Proxied
import ReachAudit.Proofs.Address.Text

namespace ReachAudit.Url

inductive HostOf (u : Url) : Option String → Prop where
  | missing (unset : u.host = none) : HostOf u none
  | empty (unnamed : u.host = some (.domain "")) : HostOf u none
  | domain {name : String} (given : u.host = some (.domain name)) (named : name ≠ "") :
      HostOf u (some name)
  | ipv4 {address : Ipv4} (given : u.host = some (.ipv4 address)) :
      HostOf u (some (Ipv4.dotted address.bits.toNat))
  | ipv6 {address : Ipv6} {text : String} (given : u.host = some (.ipv6 address))
      (spelled : Ipv6.Spelled (address.groups.toList.map UInt16.toNat) text) :
      HostOf u (some ("[" ++ text ++ "]"))

/-- The port that a URL is served at: its own, or else the usual one of its scheme. -/
inductive PortOf (u : Url) : Option Nat → Prop where
  | given {port : Nat} (own : u.port = some port) : PortOf u (some port)
  | usual {port : Nat} (unset : u.port = none)
      (known : (u.scheme, port) ∈
        [("http", 80), ("ws", 80), ("https", 443), ("wss", 443), ("ftp", 21)]) :
      PortOf u (some port)
  | unknown (unset : u.port = none) (other : u.scheme ∉ ["http", "ws", "https", "wss", "ftp"]) :
      PortOf u none

/-- Both URLs name the same machine and the same port, or neither names one. -/
def SameServer (a b : Url) : Prop :=
  (∃ host, HostOf a host ∧ HostOf b host) ∧ ∃ port, PortOf a port ∧ PortOf b port

def Requestable (u : Url) : Prop :=
  (u.scheme = "http" ∨ u.scheme = "https") ∧
    ∃ host, HostOf u (some host) ∧ ∀ c ∈ host.toList, c ∉ ['"', '\x60', '\x7b', '\x7d']

variable {u a b : Url} {host? : Option String} {port? : Option Nat}

theorem host?_of_named {host : Host} (given : u.host = some host) (named : host ≠ .domain "") :
    u.host? = some host := by
  rw [Url.host?, given]
  exact Option.filter_some_pos (decide_eq_true named)

theorem host?_of_unnamed (unnamed : u.host = some (.domain "")) : u.host? = none := by
  rw [Url.host?, unnamed]
  rfl

theorem hostOf_iff : HostOf u host? ↔ u.host?.map Host.text = host? := by
  constructor
  · intro named
    cases named with
    | missing unset =>
      rw [Url.host?, unset]
      rfl
    | empty unnamed =>
      rw [host?_of_unnamed unnamed]
      rfl
    | domain given named =>
      rw [host?_of_named given (by simp [named])]
      rfl
    | ipv4 given =>
      rw [host?_of_named given (by simp), ← Ipv4.display_eq_dotted]
      rfl
    | ipv6 given spelled =>
      rw [host?_of_named given (by simp), spelled.unique (Ipv6.spelled_compressed _)]
      rfl
  · rintro rfl
    cases given : u.host with
    | none =>
      rw [Url.host?, given]
      exact .missing given
    | some host =>
      by_cases empty : host = .domain ""
      · subst empty
        rw [host?_of_unnamed given]
        exact .empty given
      · rw [host?_of_named given empty]
        cases host with
        | domain name => exact .domain given fun none => empty (congrArg Host.domain none)
        | ipv4 address =>
          rw [Option.map_some, Host.text, Ipv4.display_eq_dotted]
          exact .ipv4 given
        | ipv6 address => exact .ipv6 given (Ipv6.spelled_compressed address)

theorem portOf_iff : PortOf u port? ↔ u.effectivePort = port? := by
  constructor
  · intro served
    cases served with
    | given own => rw [effectivePort, own, Option.some_or]
    | usual unset known =>
      rw [effectivePort, unset, Option.none_or]
      simp only [List.mem_cons, Prod.mk.injEq, List.not_mem_nil, or_false] at known
      rcases known with
        ⟨scheme, rfl⟩ | ⟨scheme, rfl⟩ | ⟨scheme, rfl⟩ | ⟨scheme, rfl⟩ | ⟨scheme, rfl⟩
      all_goals
        rw [scheme]
        rfl
    | unknown unset other =>
      rw [effectivePort, unset, Option.none_or]
      unfold defaultPort?
      split <;> simp_all
  · rintro rfl
    cases own : u.port with
    | some port =>
      rw [effectivePort, own]
      exact .given own
    | none =>
      rw [effectivePort, own, Option.none_or]
      unfold defaultPort?
      split
      case h_6 => exact .unknown own (by simp_all)
      all_goals
        rename_i scheme
        exact .usual own (by simp [scheme])

theorem sameHost_iff : a.sameHost b = true ↔ SameServer a b := by
  rw [sameHost, Bool.and_eq_true, beq_iff_eq, beq_iff_eq, SameServer]
  simp only [hostOf_iff, portOf_iff, exists_eq_left', @eq_comm _ (b.host?.map _),
    @eq_comm _ b.effectivePort]

theorem isRequestable_iff : u.isRequestable = true ↔ Requestable u := by
  rw [isRequestable, Bool.and_eq_true, Bool.or_eq_true, beq_iff_eq, beq_iff_eq, Requestable]
  simp only [hostOf_iff]
  cases u.host? with
  | none => simp
  | some host => simp [isUnrequestable]

end ReachAudit.Url
