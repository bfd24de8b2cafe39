import Mathlib.Data.List.Basic
import Mathlib.Data.List.Chain
import ReachAudit.Probe.Proxied
import ReachAudit.Proofs.Probe.Direct
import ReachAudit.Proofs.Probe.Endpoint

namespace ReachAudit

def requested (behave : Url → Dealings Url Exchange → Url → Exchange) (proxy : Option Url)
    (address : String) : Outcome × Dealings Url Exchange :=
  let ((outcome, _), made) := (requestThrough (fun proxy => ask (behave proxy)) proxy address).run []
  (outcome, made)

def Reply.LeadsTo (reply : Reply) (url next : Url) : Prop :=
  reply.status ∈ [301, 302, 303, 307, 308] ∧
    ∃ location, reply.location = some location ∧ Url.parse? (some url) location = some next

/-- Why a client with some redirects left makes no request after one for a URL, and what it then
    delivers. -/
inductive Stops (left : Nat) (url : Url) : Exchange → Except RequestError FinalResponse → Prop where
  | undelivered : Stops left url .undelivered (.error .noResponse)
  | unanswered : Stops left url .unanswered (.error .noResponse)
  | final {reply} (last : ∀ next, ¬ reply.LeadsTo url next) :
      Stops left url (.answered reply) (.ok ⟨reply.status, url⟩)
  | exhausted {reply next} (onward : reply.LeadsTo url next) (spent : left = 0) :
      Stops left url (.answered reply) (.error .tooManyRedirects)
  | unusable {reply next} (onward : reply.LeadsTo url next) (some : left ≠ 0)
      (bad : ¬ next.Requestable) : Stops left url (.answered reply) (.error .builder)

/-- How a client follows redirects from a URL: the requests that it makes after those of the past,
    and what it delivers. -/
inductive Fetched (behave : Dealings Url Exchange → Url → Exchange) :
    (past : Dealings Url Exchange) → (left : Nat) → Url → (made : Dealings Url Exchange) →
      Except RequestError FinalResponse → Prop where
  | stopped {past left url exchange result} (answer : behave past url = exchange)
      (stops : Stops left url exchange result) :
      Fetched behave past left url [(url, exchange)] result
  | followed {past left url reply next made result} (answer : behave past url = .answered reply)
      (onward : reply.LeadsTo url next) (usable : next.Requestable)
      (rest : Fetched behave (past ++ [(url, .answered reply)]) left next made result) :
      Fetched behave past (left + 1) url ((url, .answered reply) :: made) result

variable {behave : Dealings Url Exchange → Url → Exchange} {past made : Dealings Url Exchange}
  {left : Nat} {url : Url} {result : Except RequestError FinalResponse}

theorem redirect?_eq_some_iff {reply : Reply} {next : Url} :
    reply.redirect? url = some next ↔ reply.LeadsTo url next := by
  rw [Reply.redirect?, Reply.LeadsTo, ← List.contains_iff_mem]
  split
  · rename_i sent
    rw [Option.bind_eq_some_iff]
    exact (and_iff_right sent).symm
  · rename_i final
    exact iff_of_false (Option.some_ne_none next ∘ Eq.symm) fun onward => final onward.1

theorem run_ask {α β : Type} (behave : Dealings α β → α → β) (request : α) (past : Dealings α β) :
    StateT.run (ask behave request) past =
      pure (behave past request, past ++ [(request, behave past request)]) := rfl

theorem fetched_followRedirects (behave : Dealings Url Exchange → Url → Exchange) (left : Nat)
    (url : Url) (past : Dealings Url Exchange) :
    ∃ made result requests, Fetched behave past left url made result ∧
      (followRedirects (ask behave) left url).run past =
        pure ((requests, result), past ++ made) := by
  unfold followRedirects
  rw [StateT.run_bind, run_ask, pure_bind]
  cases answer : behave past url with
  | undelivered => exact ⟨_, _, _, .stopped answer .undelivered, rfl⟩
  | unanswered => exact ⟨_, _, _, .stopped answer .unanswered, rfl⟩
  | answered reply =>
    dsimp only
    cases sent : reply.redirect? url with
    | none =>
      have last (next : Url) : ¬ reply.LeadsTo url next := by
        rw [← redirect?_eq_some_iff, sent]
        exact Option.some_ne_none next ∘ Eq.symm
      exact ⟨_, _, _, .stopped answer (.final last), rfl⟩
    | some next =>
      have onward := redirect?_eq_some_iff.mp sent
      cases left with
      | zero => exact ⟨_, _, _, .stopped answer (.exhausted onward rfl), rfl⟩
      | succ left =>
        dsimp only
        cases usable : next.isRequestable with
        | false =>
          have bad : ¬ next.Requestable := by
            rw [← Url.isRequestable_iff, usable]
            exact Bool.false_ne_true
          have stops := Stops.unusable onward (Nat.succ_ne_zero left) bad
          exact ⟨_, _, _, .stopped answer stops, rfl⟩
        | true =>
          obtain ⟨made, result, requests, rest, run⟩ :=
            fetched_followRedirects behave left next (past ++ [(url, .answered reply)])
          refine ⟨(url, .answered reply) :: made, result, url :: requests,
            .followed answer onward (Url.isRequestable_iff.mp usable) rest, ?_⟩
          rw [if_pos rfl, StateT.run_bind, run, pure_bind, List.append_assoc]
          rfl

namespace Fetched

variable (fetched : Fetched behave past left url made result)

include fetched

theorem exists_eq_cons : ∃ exchange rest, made = (url, exchange) :: rest := by
  cases fetched with
  | stopped answer stops => exact ⟨_, [], rfl⟩
  | followed answer onward usable rest => exact ⟨_, _, rfl⟩

theorem answers {before after : Dealings Url Exchange} {entry : Url × Exchange}
    (split : made = before ++ entry :: after) : entry.2 = behave (past ++ before) entry.1 := by
  induction fetched generalizing before with
  | stopped answer stops =>
    obtain ⟨rfl, same⟩ | ⟨earlier, rfl, rest⟩ := List.cons_eq_append_iff.mp split
    · cases same
      rw [List.append_nil, answer]
    · simp at rest
  | followed answer onward usable rest ih =>
    obtain ⟨rfl, same⟩ | ⟨earlier, rfl, rest⟩ := List.cons_eq_append_iff.mp split
    · cases same
      rw [List.append_nil, answer]
    · rw [ih rest, List.append_assoc]
      rfl

theorem isChain : made.IsChain fun a b =>
    b.1.Requestable ∧ ∃ reply, a.2 = .answered reply ∧ reply.LeadsTo a.1 b.1 := by
  induction fetched with
  | stopped answer stops => exact .singleton _
  | followed answer onward usable rest ih =>
    obtain ⟨exchange, others, rfl⟩ := rest.exists_eq_cons
    exact .cons_cons ⟨usable, _, rfl, onward⟩ ih

theorem stops : ∃ before last answer, made = before ++ [(last, answer)] ∧ before.length ≤ left ∧
    Stops (left - before.length) last answer result := by
  induction fetched with
  | stopped answer stops => exact ⟨[], _, _, rfl, Nat.zero_le _, stops⟩
  | followed answer onward usable rest ih =>
    obtain ⟨before, last, final, rfl, bound, stops⟩ := ih
    refine ⟨_ :: before, last, final, rfl, Nat.succ_le_succ bound, ?_⟩
    rwa [List.length_cons, Nat.add_sub_add_right]

end Fetched

/-- The requests by which a URL is fetched: each goes where the answer to the one before redirects
    to, every answer is the network's own, and the last one stops the client. -/
structure Browsed (behave : Dealings Url Exchange → Url → Exchange) (first : Url)
    (made : Dealings Url Exchange) (result : Except RequestError FinalResponse) : Prop where
  begins : made.head?.map Prod.fst = some first
  follows : made.IsChain fun a b =>
    b.1.Requestable ∧ ∃ reply, a.2 = .answered reply ∧ reply.LeadsTo a.1 b.1
  answers : ∀ before entry after, made = before ++ entry :: after →
    entry.2 = behave before entry.1
  ends : ∃ before last answer, made = before ++ [(last, answer)] ∧
    before.length ≤ 10 ∧ Stops (10 - before.length) last answer result

theorem Fetched.browsed (fetched : Fetched behave [] maxRedirects url made result) :
    Browsed behave url made result where
  begins := by
    obtain ⟨exchange, rest, rfl⟩ := fetched.exists_eq_cons
    rfl
  follows := fetched.isChain
  answers := fun _ _ _ split => fetched.answers split
  ends := fetched.stops

theorem run_followRedirects_memoryless (respond : Url → Exchange) (left : Nat) (url : Url)
    (past : Dealings Url Exchange) :
    ((followRedirects (ask fun _ => respond) left url).run past).1 =
      Id.run (followRedirects (fun url => pure (respond url)) left url) := by
  unfold followRedirects
  rw [StateT.run_bind, run_ask, pure_bind, pure_bind]
  cases respond url with
  | answered reply =>
    dsimp only
    cases reply.redirect? url with
    | none => rfl
    | some next =>
      cases left with
      | zero => rfl
      | succ left =>
        dsimp only
        split
        · have rest := run_followRedirects_memoryless respond left next
            (past ++ [(url, .answered reply)])
          exact congrArg (fun fetched => (url :: fetched.1, fetched.2)) rest
        · rfl
  | _ => rfl

theorem probeThrough_eq_requested (network : Network) (proxy : Option Url) (limit : Duration)
    (address : String) :
    (probeThrough network proxy limit address).1 =
      (requested (fun proxy _ url => network.exchange proxy url limit) proxy address).1 := by
  unfold probeThrough requested requestThrough
  cases proxy with
  | none => rfl
  | some proxy =>
    cases (Url.parse? none address).filter Url.isRequestable with
    | none => rfl
    | some url =>
      have same := run_followRedirects_memoryless (fun url => network.exchange proxy url limit)
        maxRedirects url.withoutCredentials []
      exact congrArg (fun fetched => outcomeThrough proxy fetched.2) same.symm

variable {address : String} {proxy : Url}

theorem requested_of_unusable (behave : Url → Dealings Url Exchange → Url → Exchange)
    (unusable : ∀ url, Url.parse? none address = some url → ¬ url.Requestable) :
    requested behave (some proxy) address = (.error (.request .builder), []) := by
  have none : (Url.parse? none address).filter Url.isRequestable = none := by
    rw [Option.filter_eq_none_iff]
    intro url read usable
    exact unusable url read (Url.isRequestable_iff.mp usable)
  unfold requested requestThrough
  rw [none]
  rfl

theorem requested_of_usable (behave : Url → Dealings Url Exchange → Url → Exchange)
    (read : Url.parse? none address = some url) (usable : url.Requestable) :
    ∃ made result, Fetched (behave proxy) [] maxRedirects url.withoutCredentials made result ∧
      requested behave (some proxy) address = (outcomeThrough proxy result, made) := by
  have found : (Url.parse? none address).filter Url.isRequestable = some url := by
    rw [read]
    exact Option.filter_some_pos (Url.isRequestable_iff.mpr usable)
  obtain ⟨made, result, requests, fetched, run⟩ :=
    fetched_followRedirects (behave proxy) maxRedirects url.withoutCredentials []
  refine ⟨made, result, fetched, ?_⟩
  unfold requested requestThrough
  rw [found]
  dsimp only
  rw [StateT.run_bind, run]
  rfl

theorem RequestError.message_ne (e : RequestError) :
    e.message ≠ ProbeError.proxyRejected.message := by
  cases e <;> decide

theorem outcomeThrough_ok (proxy : Url) (response : FinalResponse) :
    let refused := response.status = 403 ∧ response.responder.SameServer proxy
    (outcomeThrough proxy (.ok response) = .error .proxyRejected ↔ refused) ∧
      (outcomeThrough proxy (.ok response) = .success ↔ ¬ refused) := by
  dsimp only
  rw [outcomeThrough, FinalResponse.verdict, ← Url.sameHost_iff]
  by_cases refused : response.status = 403 ∧ response.responder.sameHost proxy = true
  · simp [refused]
  · simp only [refused, iff_false, not_false_iff, iff_true]
    exact ⟨nofun, rfl⟩

/-- A proxied probe ends after at most eleven requests. If its client delivers a response, the
    proxy is blamed just when the status is 403 and whoever sent it, after all redirects, has the
    host and the port of the proxy. Without a response the probe fails for another reason, and
    without a proxy nothing is requested. -/
theorem proxy_blamed_for_own_refusals (behave : Url → Dealings Url Exchange → Url → Exchange)
    (address : String) :
    requested behave none address = (.error .noProxy, []) ∧
      (∀ proxy url : Url, Url.parse? none address = some url → url.Requestable →
        let probe := requested behave (some proxy) address
        ∃ result,
          Browsed (behave proxy) { url with username := "", password := "" } probe.2 result ∧
            probe.2.length ≤ 11 ∧
            match result with
            | .ok response =>
              let refused := response.status = 403 ∧ response.responder.SameServer proxy
              (probe.1 = .error .proxyRejected ↔ refused) ∧ (probe.1 = .success ↔ ¬ refused)
            | .error e => probe.1 = .error (.request e)) ∧
      (∀ proxy : Url, (∀ url, Url.parse? none address = some url → ¬ url.Requestable) →
        requested behave (some proxy) address = (.error (.request .builder), [])) ∧
      ProbeError.proxyRejected.message = "Error 403 is returned from the proxy server." ∧
      (∀ e : RequestError, (ProbeError.request e).message ≠ ProbeError.proxyRejected.message) ∧
      ∀ (network : Network) (proxy : Option Url) (limit : Duration),
        (probeThrough network proxy limit address).1 =
          (requested (fun proxy _ url => network.exchange proxy url limit) proxy address).1 := by
  refine ⟨rfl, ?_, fun proxy => requested_of_unusable behave, rfl, RequestError.message_ne,
    fun network proxy limit => probeThrough_eq_requested network proxy limit address⟩
  intro proxy url read usable
  obtain ⟨made, result, fetched, same⟩ := requested_of_usable behave read usable
  rw [same]
  refine ⟨result, fetched.browsed, ?_, ?_⟩
  · obtain ⟨before, last, answer, rfl, bound, _⟩ := fetched.stops
    rw [List.length_append, List.length_singleton]
    exact Nat.succ_le_succ bound
  · cases result with
    | ok response => exact outcomeThrough_ok proxy response
    | error e => rfl

def sampleUrl (scheme name : String) : Url where
  scheme := scheme
  host := some (.domain name)
  path := .segments [""]

def sendsToProxy (_ : Url) (past : Dealings Url Exchange) (_ : Url) : Exchange :=
  if past = [] then .answered { status := 302, location := "https://p/" }
  else .answered { status := 403 }

/-- The page is at the usual port of its scheme. That is the port of a proxy of another scheme if
    it is given, and not its usual one. -/
theorem proxy_blamed_for_own_refusals_crossed :
    let at443 := { sampleUrl "http" "p" with port := some 443 }
    let made : Dealings Url Exchange := [
      (sampleUrl "http" "h", .answered { status := 302, location := "https://p/" }),
      (sampleUrl "https" "p", .answered { status := 403 })]
    requested sendsToProxy (some at443) "http://h/" = (.error .proxyRejected, made) ∧
      (∃ response, Browsed (sendsToProxy at443) (sampleUrl "http" "h") made (.ok response) ∧
        response.status = 403 ∧ response.responder.SameServer at443) ∧
      requested sendsToProxy (some (sampleUrl "http" "p")) "http://h/" = (.success, made) ∧
      requested sendsToProxy (some at443) "ftp://h/" = (.error (.request .builder), []) := by
  intro at443 made
  have read : Url.parse? none "http://h/" = some (sampleUrl "http" "h") := by decide +kernel
  have usable : (sampleUrl "http" "h").Requestable := Url.isRequestable_iff.mp (by decide +kernel)
  have blamed : requested sendsToProxy (some at443) "http://h/" =
      (.error .proxyRejected, made) := by decide +kernel
  obtain ⟨result, browsed, _, told⟩ :=
    (proxy_blamed_for_own_refusals sendsToProxy "http://h/").2.1 at443 _ read usable
  rw [blamed] at browsed told
  refine ⟨blamed, ?_, by decide +kernel, ?_⟩
  · cases result with
    | ok response => exact ⟨response, browsed, told.1.mp rfl⟩
    | error e => cases told
  · apply (proxy_blamed_for_own_refusals sendsToProxy "ftp://h/").2.2.1
    intro url read usable
    have other : Url.parse? none "ftp://h/" = some (sampleUrl "ftp" "h") := by decide +kernel
    cases other.symm.trans read
    exact absurd usable.1 (by decide)

end ReachAudit
