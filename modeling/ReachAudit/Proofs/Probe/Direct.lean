import Mathlib.Data.List.Basic
import ReachAudit.Probe.Direct

namespace ReachAudit

abbrev Dealings (α β : Type) := List (α × β)

/-- Asks a network that may answer by all that it was asked before. -/
def ask {α β : Type} (behave : Dealings α β → α → β) (request : α) : StateM (Dealings α β) β :=
  fun past => (behave past request, past ++ [(request, behave past request)])

structure Dial where
  protocol : Protocol
  target : String
  limit : Duration
  deriving DecidableEq, Repr

def dialled (behave : Dealings Dial Attempt → Dial → Attempt) (limit : Duration)
    (address specifier : String) : Outcome × Dealings Dial Attempt :=
  (dialDirect (fun protocol target limit => ask behave ⟨protocol, target, limit⟩) limit address
    specifier).run []

structure AtLastColon (text before after : List Char) : Prop where
  split : text = before ++ ':' :: after
  last : ':' ∉ after

inductive WithoutScheme : List Char → List Char → Prop where
  | http (rest : List Char) : WithoutScheme ("http://".toList ++ rest) rest
  | https (rest : List Char) : WithoutScheme ("https://".toList ++ rest) rest
  | bare {address : List Char} (http : ¬ "http://".toList <+: address)
      (https : ¬ "https://".toList <+: address) : WithoutScheme address address

variable {text before before' after after' address host host' : List Char} {port port' : Nat}

theorem eq_nil_of_colon_last {more : List Char} (last : ':' ∉ after)
    (same : ':' :: after = more ++ ':' :: after') : more = [] := by
  cases more with
  | nil => rfl
  | cons c more =>
    cases same
    exact absurd (List.mem_append_right more List.mem_cons_self) last

theorem AtLastColon.unique (first : AtLastColon text before after)
    (second : AtLastColon text before' after') : before = before' ∧ after = after' := by
  have same : before ++ ':' :: after = before' ++ ':' :: after' :=
    first.split.symm.trans second.split
  rcases List.append_eq_append_iff.mp same with ⟨more, rfl, rest⟩ | ⟨more, rfl, rest⟩
  · obtain rfl := eq_nil_of_colon_last first.last rest
    cases rest
    exact ⟨(List.append_nil before).symm, rfl⟩
  · obtain rfl := eq_nil_of_colon_last second.last rest
    cases rest
    exact ⟨List.append_nil before', rfl⟩

theorem isPrefixOf?_eq_none_iff {front : List Char} :
    front.isPrefixOf? text = none ↔ ¬ front <+: text := by
  rw [← Option.not_isSome_iff_eq_none, List.isSome_isPrefixOf?_eq_isPrefixOf,
    List.isPrefixOf_iff_prefix]

theorem withoutScheme_iff : WithoutScheme address host ↔ stripScheme address = host := by
  constructor
  · intro without
    cases without with
    | http => rfl
    | https => rfl
    | bare http https =>
      unfold stripScheme
      rw [isPrefixOf?_eq_none_iff.mpr https, isPrefixOf?_eq_none_iff.mpr http]
      rfl
  · rintro rfl
    unfold stripScheme
    cases secure : "https://".toList.isPrefixOf? address with
    | some rest =>
      rw [← List.isPrefixOf?_eq_some_iff_append_eq.mp secure]
      exact .https rest
    | none =>
      cases plain : "http://".toList.isPrefixOf? address with
      | some rest =>
        rw [← List.isPrefixOf?_eq_some_iff_append_eq.mp plain]
        exact .http rest
      | none => exact .bare (isPrefixOf?_eq_none_iff.mp plain) (isPrefixOf?_eq_none_iff.mp secure)

theorem colon_notMem_repr (n : Nat) : ':' ∉ n.repr.toList := by
  intro member
  rw [Nat.toList_repr] at member
  have digit := Nat.isDigit_of_mem_toDigits (by decide) (by decide) member
  revert digit
  decide

theorem atLastColon_joinHostPort (host : List Char) (port : Nat) :
    AtLastColon (joinHostPort host port) (bracketed host) port.repr.toList :=
  ⟨rfl, colon_notMem_repr port⟩

theorem eq_of_bracketed_eq (same : bracketed host = bracketed host') :
    host = host' ∨ host = '[' :: host' ++ [']'] ∨ host' = '[' :: host ++ [']'] := by
  unfold bracketed at same
  split at same
  · split at same
    · have inner := List.append_cancel_right same
      exact Or.inl (List.cons.inj inner).2
    · exact Or.inr (Or.inr same.symm)
  · split at same
    · exact Or.inr (Or.inl same)
    · exact Or.inl same

theorem eq_of_joinHostPort_eq (same : joinHostPort host port = joinHostPort host' port') :
    port = port' ∧ bracketed host = bracketed host' := by
  have second := atLastColon_joinHostPort host' port'
  rw [← same] at second
  obtain ⟨hosts, ports⟩ := (atLastColon_joinHostPort host port).unique second
  refine ⟨?_, hosts⟩
  rw [Nat.toList_repr, Nat.toList_repr] at ports
  rw [← @Nat.ofDigitChars_ten_toDigits port, ports, Nat.ofDigitChars_ten_toDigits]

theorem dialTarget_append {scheme address : String} (port : Port)
    (known : scheme = "http://" ∨ scheme = "https://")
    (http : ¬ "http://".toList <+: address.toList)
    (https : ¬ "https://".toList <+: address.toList) :
    dialTarget (scheme ++ address) port = dialTarget address port := by
  have stripped : stripScheme (scheme ++ address).toList = address.toList := by
    rw [String.toList_append]
    rcases known with rfl | rfl
    · exact withoutScheme_iff.mp (.http _)
    · exact withoutScheme_iff.mp (.https _)
  rw [dialTarget, dialTarget, stripped, withoutScheme_iff.mp (.bare http https)]

variable {behave : Dealings Dial Attempt → Dial → Attempt} {limit : Duration}
  {raw specifier : String}

theorem dialled_of_error {e : PortError} (refused : Port.parse specifier = .error e) :
    dialled behave limit raw specifier = (.error (.badPort e), []) := by
  rw [dialled, dialDirect, refused]
  rfl

theorem dialled_of_ok {port : Port} (read : Port.parse specifier = .ok port) :
    let dial : Dial := ⟨port.protocol, dialTarget raw port, limit⟩
    dialled behave limit raw specifier =
      ((behave [] dial).outcome port.protocol dial.target limit, [(dial, behave [] dial)]) := by
  rw [dialled, dialDirect, read]
  rfl

theorem Attempt.exists_message {attempt : Attempt} (failed : attempt ≠ .connected)
    (protocol : Protocol) (target : String) (limit : Duration) :
    ∃ reason, (attempt.outcome protocol target limit).message? =
      some ("dial " ++ (match protocol with | .tcp => "tcp" | .udp => "udp") ++ " " ++ target ++
        ": " ++ reason) := by
  cases attempt with
  | connected => exact absurd rfl failed
  | failed reason => exact ⟨reason, rfl⟩
  | timedOut => exact ⟨"i/o timeout after " ++ limit.text, congrArg some String.append_assoc⟩

theorem dialled_append {scheme : String} (known : scheme = "http://" ∨ scheme = "https://")
    (http : ¬ "http://".toList <+: raw.toList) (https : ¬ "https://".toList <+: raw.toList) :
    dialled behave limit (scheme ++ raw) specifier = dialled behave limit raw specifier := by
  cases read : Port.parse specifier with
  | error e => rw [dialled_of_error read, dialled_of_error read]
  | ok port => rw [dialled_of_ok read, dialled_of_ok read, dialTarget_append port known http https]

theorem probeDirect_eq_dialled (network : Network) :
    probeDirect network limit raw specifier =
      (dialled (fun _ dial => network.dial dial.protocol dial.target dial.limit) limit raw
        specifier).1 := by
  unfold probeDirect dialled dialDirect
  cases Port.parse specifier <;> rfl

/-- A direct probe of a malformed port dials nothing, and tells what is wrong with the port. Any
    other makes one attempt, whose target is the host without its scheme, in brackets if it needs
    them, and the port's number. A target tells the port, and the host but for one pair of brackets;
    a scheme put in front of an address changes nothing. -/
theorem direct_probe_dials_destination (behave : Dealings Dial Attempt → Dial → Attempt)
    (limit : Duration) (address specifier : String) :
    (match Port.parse specifier with
      | .error e =>
        dialled behave limit address specifier = (.error (.badPort e), []) ∧
          (Outcome.error (.badPort e)).message? = some e.message
      | .ok port => ∃ host target,
        WithoutScheme address.toList host ∧
          target.toList = joinHostPort host port.number ∧
          AtLastColon target.toList
            (if ':' ∈ host ∧ host.head? ≠ some '[' then '[' :: host ++ [']'] else host)
            port.number.repr.toList ∧
          let attempt := behave [] ⟨port.protocol, target, limit⟩
          let (outcome, made) := dialled behave limit address specifier
          made = [(⟨port.protocol, target, limit⟩, attempt)] ∧
            (attempt = .connected → outcome = .success) ∧
            (attempt ≠ .connected → ∃ reason, outcome.message? =
              some ("dial " ++ (match port.protocol with | .tcp => "tcp" | .udp => "udp") ++ " " ++
                target ++ ": " ++ reason))) ∧
      (∀ (host host' : List Char) (port port' : Nat),
        joinHostPort host port = joinHostPort host' port' →
        port = port' ∧
          (host = host' ∨ host = '[' :: host' ++ [']'] ∨ host' = '[' :: host ++ [']'])) ∧
      (∀ scheme : String, scheme = "http://" ∨ scheme = "https://" →
        ¬ "http://".toList <+: address.toList → ¬ "https://".toList <+: address.toList →
        dialled behave limit (scheme ++ address) specifier =
          dialled behave limit address specifier) ∧
      ∀ network : Network, probeDirect network limit address specifier =
        (dialled (fun _ dial => network.dial dial.protocol dial.target dial.limit) limit address
          specifier).1 := by
  refine ⟨?_, ?_, fun scheme known http https => dialled_append known http https,
    probeDirect_eq_dialled⟩
  · cases read : Port.parse specifier with
    | error e => exact ⟨dialled_of_error read, rfl⟩
    | ok port =>
      have letters : (dialTarget address port).toList =
          joinHostPort (stripScheme address.toList) port.number := String.toList_ofList
      refine ⟨stripScheme address.toList, dialTarget address port, withoutScheme_iff.mpr rfl,
        letters, ?_, ?_⟩
      · rw [letters]
        exact atLastColon_joinHostPort _ _
      · rw [dialled_of_ok read]
        refine ⟨rfl, ?_, fun failed => Attempt.exists_message failed _ _ _⟩
        intro connected
        rw [connected]
        rfl
  · intro host host' port port' same
    obtain ⟨ports, hosts⟩ := eq_of_joinHostPort_eq same
    exact ⟨ports, eq_of_bracketed_eq hosts⟩

end ReachAudit
