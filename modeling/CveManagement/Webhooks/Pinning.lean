import CveManagement.Webhooks.Deliveries
import CveManagement.Webhooks.Ssrf
import Mathlib

/-!
# The addresses that a delivery connects to

`_attempt_delivery` of `app/workers/webhook_worker.py` and `test_webhook` of
`app/api/routers/webhooks.py` have the guard check the URL of a webhook, drop the addresses that
it returns, and post to the URL: the client resolves the host once more. So a delivery puts two
queries to the resolver (`CveManagement.Dns`), which may answer them differently.

A connection is sure to go to a checked address when the host is the text of an address, and
otherwise only when the resolver is consistent (`CveManagement.Delivery.Pinned`).
-/

namespace CveManagement

/-- **The resolver**, as one delivery meets with it: what the first query and the next ones
return, and which addresses of an answer the client opens a connection to. -/
structure Dns where
  getaddrinfo : ℕ → String → AddrInfo
  /-- Of the addresses of an answer, those that are tried until one accepts. -/
  tried : List IpAddress → List IpAddress
  tried_subset : ∀ l, tried l ⊆ l
  /-- The text of an address is not looked up. -/
  literal : ∀ n host a, IpAddress.ofText host.toList = some a →
    ∃ addrs, getaddrinfo n host = .answers addrs ∧ addrs ≠ [] ∧
      ∀ addr ∈ addrs, IpAddress.ofText addr.toList = some a

namespace Dns

variable (dns : Dns)

/-- The addresses of an answer. -/
def addresses : AddrInfo → List IpAddress
  | .answers addrs => addrs.filterMap fun addr => IpAddress.ofText addr.toList
  | _ => []

/-- The addresses that a connection to a host is opened to. -/
def dial (host : String) : List IpAddress :=
  match IpAddress.ofText host.toList with
  | some a => [a]
  | none => dns.tried (addresses (dns.getaddrinfo 1 host))

/-- **The addresses that the guard checks and does not find blocked**, up to the first one that
it does. -/
def checked (host : String) : List IpAddress :=
  match dns.getaddrinfo 0 host with
  | .answers addrs =>
    addresses (.answers (addrs.takeWhile fun addr => !PyNet.refused addr))
  | _ => []

end Dns

/-- What an attempt depends on besides the resolver. -/
structure Delivery where
  net : PyNet
  allowlist : Allowlist
  /-- The exception of `resolve_secret`. -/
  secretUnreadable : Option String
  /-- The reason for which `OpsecAwareClient` refuses the body. -/
  opsecViolation : Option String

namespace Delivery

variable (d : Delivery) (dns : Dns)

/-- `assert_url_allowed` lets the URL pass. -/
def passes (url : String) : Bool :=
  match d.net.checkUrl (dns.getaddrinfo 0) url d.allowlist false with
  | .ok res => res.allowed
  | .error _ => false

/-- The addresses that `client.post` opens a connection to. -/
def post (url : String) : List IpAddress :=
  if d.opsecViolation.isSome then []
  else match d.net.urlparse url with
    | some (_, some host) => dns.dial host
    | _ => []

/-- What the worker and the endpoint have in common, from the guard on. -/
def guardedPost (url : String) : List IpAddress :=
  if !d.passes dns url then []
  else if d.secretUnreadable.isSome then []
  else d.post dns url

/-- **The connections of `_attempt_delivery`.** -/
def attemptConnects : Option WebhookTarget → List IpAddress
  | none => []
  | some target => if !target.enabled then [] else d.guardedPost dns target.url

/-- **The connections of `test_webhook`**, which reads the URL of its row. -/
def testConnects : Option String → List IpAddress
  | none => []
  | some url => d.guardedPost dns url

/-! ### The attempt of the worker -/

/-- What an attempt meets with, when the guard raises nothing but its own error. -/
def attemptEnv (target : Option WebhookTarget) (response : PostOutcome) : AttemptEnv where
  target := target
  ssrfBlocked url :=
    match d.net.checkUrl (dns.getaddrinfo 0) url d.allowlist false with
    | .ok res => if res.allowed then none else some (res.reason.getD "ssrf_blocked")
    | .error _ => some "ssrf_blocked"
  secretUnreadable := d.secretUnreadable
  post := d.opsecViolation.elim response .opsecViolation

/-- **Connections belong to a POST**: an attempt that opens one sends the body, if the client
has any answer to show. -/
theorem post_mem_attemptDelivery {target : Option WebhookTarget} {response : PostOutcome}
    (hresponse : ∀ reason, response ≠ .opsecViolation reason)
    (h : d.attemptConnects dns target ≠ []) :
    .post ∈ attemptDelivery (d.attemptEnv dns target response) := by
  rcases target with _ | target
  · exact absurd rfl h
  rcases he : target.enabled with _ | _
  · simp [attemptConnects, he] at h
  rcases hs : d.secretUnreadable with _ | secret
  swap
  · simp [attemptConnects, guardedPost, hs, he] at h
  rcases ho : d.opsecViolation with _ | reason
  swap
  · simp [attemptConnects, guardedPost, post, ho, he, hs] at h
  have hpass : (d.attemptEnv dns (some target) response).ssrfBlocked target.url = none := by
    have hp : d.passes dns target.url = true := by
      by_contra hno
      simp [attemptConnects, guardedPost, hno, he] at h
    unfold passes at hp
    rcases hc : d.net.checkUrl (dns.getaddrinfo 0) target.url d.allowlist false with e | res
    · simp [hc] at hp
    · simpa [attemptEnv, hc] using hp
  have hsecret : (d.attemptEnv dns (some target) response).secretUnreadable = none := hs
  have hpost : (d.attemptEnv dns (some target) response).post = response := by
    simp [attemptEnv, ho]
  have htarget : (d.attemptEnv dns (some target) response).target = some target := rfl
  rw [attemptDelivery, htarget]
  simp only [he, hpass, hsecret, hpost]
  rcases response with reason | e | ⟨code, text⟩
  · exact absurd rfl (hresponse reason)
  · simp
  · simp only [Bool.not_true, Bool.false_eq_true, if_false]
    split_ifs <;> simp

/-! ### Two queries, two answers -/

/-- The scheme of a URL. -/
def scheme (url : String) : String := ((d.net.urlparse url).map Prod.fst).getD ""

/-- The host of a URL. -/
def host (url : String) : String := ((d.net.urlparse url).bind Prod.snd).getD ""

/-- **Nothing is sent, whatever the resolver answers**: the guard refuses the URL for what it
says, the secret is unreadable, or the client refuses the body. -/
def Unsent (url : String) : Prop :=
  ¬d.net.Dispatchable false (d.scheme url) (d.host url) ∨ d.secretUnreadable.isSome = true ∨
    d.opsecViolation.isSome = true

end Delivery

namespace Dns

variable (dns : Dns)

/-- The first query fails, or brings an answer that the guard refuses. -/
def Refuses (host : String) : Prop :=
  match dns.getaddrinfo 0 host with
  | .answers addrs => ∃ addr ∈ addrs, PyNet.refused addr = true
  | _ => True

/-- The addresses that the client tries of the second answer were in the first one. -/
def Consistent (host : String) : Prop :=
  ∀ a ∈ dns.tried (addresses (dns.getaddrinfo 1 host)), a ∈ addresses (dns.getaddrinfo 0 host)

/-- Where the guard refuses no answer, it has checked them all. -/
theorem checked_of_not_refuses {host : String} (h : ¬dns.Refuses host) :
    dns.checked host = addresses (dns.getaddrinfo 0 host) := by
  unfold Refuses at h
  unfold checked
  rcases hq : dns.getaddrinfo 0 host with addrs | e | _
  · rw [hq] at h
    have hall : ∀ addr ∈ addrs, (!PyNet.refused addr) = true := by simpa using h
    simp only [List.takeWhile_eq_self_iff.mpr hall]
  · simp [hq] at h
  · simp [hq] at h

/-- **An address is its own answer**: the client dials what the guard has checked. -/
theorem dial_literal {host : String} {a : IpAddress}
    (ha : IpAddress.ofText host.toList = some a) :
    dns.dial host = [a] ∧ a ∈ addresses (dns.getaddrinfo 0 host) := by
  refine ⟨by simp [dial, ha], ?_⟩
  obtain ⟨addrs, hq, hne, hall⟩ := dns.literal 0 host a ha
  obtain ⟨addr, haddr⟩ := List.exists_mem_of_ne_nil addrs hne
  rw [hq]
  exact List.mem_filterMap.mpr ⟨addr, haddr, hall addr haddr⟩

end Dns

namespace Delivery

variable {d : Delivery}

/-- **From the guard on, a delivery** sends nothing, or dials the host after the guard has
checked all that the first query has brought. -/
theorem guardedPost_cases (dns : Dns) {url : String}
    (hallow : d.net.lower (d.host url) ∉ d.net.allow d.allowlist) :
    ((d.Unsent url ∨ dns.Refuses (d.host url)) ∧ d.guardedPost dns url = []) ∨
      ¬d.Unsent url ∧ ¬dns.Refuses (d.host url) ∧
        d.guardedPost dns url = dns.dial (d.host url) := by
  rcases hurl : d.net.urlparse url with _ | ⟨scheme, hostname⟩
  · refine Or.inl ⟨Or.inl (Or.inl fun h => ?_), by simp [guardedPost, passes, PyNet.checkUrl, hurl]⟩
    exact h.2.2.1 (by simp [host, hurl])
  have hhost : d.host url = hostname.getD "" := by simp [host, hurl]
  have hscheme : d.scheme url = scheme := by simp [Delivery.scheme, hurl]
  rw [hhost] at hallow
  rcases PyNet.checkUrl_cases (dns.getaddrinfo 0) false hurl hallow with
    ⟨hno, reason, heq⟩ | ⟨hyes, heq⟩
  · refine Or.inl ⟨Or.inl (Or.inl ?_), by simp [guardedPost, passes, heq]⟩
    rwa [hhost, hscheme]
  obtain ⟨name, rfl⟩ : ∃ name, hostname = some name := by
    rcases hostname with _ | name
    · exact absurd rfl hyes.2.2.1
    · exact ⟨name, rfl⟩
  rw [Option.getD_some] at hhost hallow hyes heq
  rw [hhost]
  -- the guard passes exactly when the first query brings answers that it does not refuse
  have hpass : d.passes dns url = true ↔ ¬dns.Refuses name := by
    unfold passes Dns.Refuses
    rw [heq]
    rcases dns.getaddrinfo 0 name with addrs | e | _
    · rcases PyNet.checkAddresses_cases d.net [] addrs with
        ⟨hno, href⟩ | ⟨hall, listed, -, hlisted⟩
      · simpa [hno] using href
      · simpa [hlisted] using hall
    · simp
    · simp
  by_cases hu : d.Unsent url
  · refine Or.inl ⟨Or.inl hu, ?_⟩
    rcases hu with hu | hu | hu
    · exact absurd (by rwa [hhost, hscheme]) hu
    · simp [guardedPost, hu]
    · simp [guardedPost, post, hu]
  by_cases hr : dns.Refuses name
  · refine Or.inl ⟨Or.inr hr, ?_⟩
    have hno : ¬d.passes dns url = true := fun h => hpass.mp h hr
    simp [guardedPost, hno]
  · refine Or.inr ⟨hu, hr, ?_⟩
    simp only [Unsent, not_or] at hu
    simp [guardedPost, post, hpass.mpr hr, hu.2.1, hu.2.2, hurl]

/-- Every address that a connection is opened to has been checked. -/
def Pinned (d : Delivery) (dns : Dns) (url : String) (connects : List IpAddress) : Prop :=
  ∀ a ∈ connects, a ∈ dns.checked (d.host url)

/-- **One delivery connects to checked addresses only** when it sends nothing, when its host is
an address, or when the second answer brings nothing new. -/
theorem pinned_guardedPost_iff (dns : Dns) {url : String}
    (hallow : d.net.lower (d.host url) ∉ d.net.allow d.allowlist) :
    d.Pinned dns url (d.guardedPost dns url) ↔
      d.Unsent url ∨ (IpAddress.ofText (d.host url).toList).isSome = true ∨
        dns.Refuses (d.host url) ∨ dns.Consistent (d.host url) := by
  rcases guardedPost_cases dns hallow with ⟨hnone, heq⟩ | ⟨hu, hr, heq⟩
  · rw [heq]
    exact iff_of_true (by simp [Pinned]) (hnone.imp_right fun h => Or.inr (Or.inl h))
  rw [heq, Pinned, dns.checked_of_not_refuses hr, or_iff_right hu, or_iff_right hr]
  rcases ha : IpAddress.ofText (d.host url).toList with _ | a
  · rw [Dns.dial, ha]
    simp [Dns.Consistent]
  · obtain ⟨hdial, hmem⟩ := dns.dial_literal ha
    rw [hdial]
    exact iff_of_true (by simpa using hmem) (by simp)

/-! ### A resolver that changes its answer -/

/-- **The rebinding resolver**: a public address for the first query, the metadata service of a
cloud for the next ones. -/
def rebinding : Dns where
  getaddrinfo n host :=
    if (IpAddress.ofText host.toList).isSome then .answers [host]
    else .answers [if n = 0 then "93.184.216.34" else "169.254.169.254"]
  tried l := l
  tried_subset l := List.Subset.refl l
  literal n host a ha := ⟨[host], by simp [ha], by simp, by simpa using ha⟩

/-- Under this resolver, a delivery to a name connects to an address that was not checked. -/
theorem rebinding_spec {host : String} (h : IpAddress.ofText host.toList = none) :
    ¬rebinding.Refuses host ∧ ¬rebinding.Consistent host := by
  have hquery : ∀ n, rebinding.getaddrinfo n host =
      .answers [if n = 0 then "93.184.216.34" else "169.254.169.254"] := fun n => by
    simp [rebinding, h]
  have hfirst : PyNet.refused "93.184.216.34" = false := by decide
  have hmetadata : Dns.addresses (.answers ["169.254.169.254"]) = [.v4 0xa9fea9fe#32] := by decide
  have hpublic : Dns.addresses (.answers ["93.184.216.34"]) = [.v4 0x5db8d822#32] := by decide
  constructor
  · rw [Dns.Refuses, hquery]
    simp [hfirst]
  · intro hc
    have hmem := hc (.v4 0xa9fea9fe#32) (by
      rw [hquery 1, if_neg one_ne_zero, hmetadata]
      exact List.mem_singleton_self _)
    rw [hquery 0, if_pos rfl, hpublic] at hmem
    exact absurd hmem (by decide)

/-- **A URL is safe under every resolver** exactly when nothing is ever sent to it, or its host
is an address. -/
theorem forall_pinned_guardedPost_iff {url : String}
    (hallow : d.net.lower (d.host url) ∉ d.net.allow d.allowlist) :
    (∀ dns, d.Pinned dns url (d.guardedPost dns url)) ↔
      d.Unsent url ∨ (IpAddress.ofText (d.host url).toList).isSome = true := by
  constructor
  · intro h
    by_cases ha : (IpAddress.ofText (d.host url).toList).isSome = true
    · exact Or.inr ha
    obtain ⟨hr, hc⟩ := rebinding_spec (by simpa using ha)
    rcases (pinned_guardedPost_iff rebinding hallow).mp (h rebinding) with hu | ha' | hr' | hc'
    · exact Or.inl hu
    · exact absurd ha' ha
    · exact absurd hr' hr
    · exact absurd hc' hc
  · intro h dns
    exact (pinned_guardedPost_iff dns hallow).mpr (h.imp_right Or.inl)

/-- **The worker and the endpoint connect to checked addresses only**, in one delivery and under
every resolver. -/
theorem connects_pinned_iff (d : Delivery) (url : String) (enabled : Bool)
    (hallow : d.net.lower (d.host url) ∉ d.net.allow d.allowlist) :
    (∀ dns, d.Pinned dns url (d.attemptConnects dns (some ⟨url, enabled⟩)) ↔
      enabled = false ∨ d.Unsent url ∨ (IpAddress.ofText (d.host url).toList).isSome = true ∨
        dns.Refuses (d.host url) ∨ dns.Consistent (d.host url)) ∧
    (∀ dns, d.Pinned dns url (d.testConnects dns (some url)) ↔
      d.Unsent url ∨ (IpAddress.ofText (d.host url).toList).isSome = true ∨
        dns.Refuses (d.host url) ∨ dns.Consistent (d.host url)) ∧
    ((∀ dns, d.Pinned dns url (d.attemptConnects dns (some ⟨url, enabled⟩))) ↔
      enabled = false ∨ d.Unsent url ∨
        (IpAddress.ofText (d.host url).toList).isSome = true) ∧
    ((∀ dns, d.Pinned dns url (d.testConnects dns (some url))) ↔
      d.Unsent url ∨ (IpAddress.ofText (d.host url).toList).isSome = true) := by
  refine ⟨fun dns => ?_, fun dns => pinned_guardedPost_iff dns hallow, ?_,
    forall_pinned_guardedPost_iff hallow⟩
  · rcases enabled with _ | _
    · simp [Pinned, attemptConnects]
    · simpa [attemptConnects] using pinned_guardedPost_iff dns hallow
  · rcases enabled with _ | _
    · simp [Pinned, attemptConnects]
    · simpa [attemptConnects] using forall_pinned_guardedPost_iff hallow

/-- A delivery to `https://example.com/hook`. -/
def sample : Delivery := ⟨PyNet.sample, .text "", none, none⟩

/-- A resolver that gives every name the same public address, at every query. -/
def steady : Dns where
  getaddrinfo _ host :=
    if (IpAddress.ofText host.toList).isSome then .answers [host] else .answers ["93.184.216.34"]
  tried l := l
  tried_subset l := List.Subset.refl l
  literal n host a ha := ⟨[host], by simp [ha], by simp, by simpa using ha⟩

/-- It keeps the worker to the address that was checked. -/
theorem connects_pinned_steady :
    sample.Pinned steady "https://example.com/hook"
      (sample.attemptConnects steady (some ⟨"https://example.com/hook", true⟩)) := by
  have hconsistent : steady.Consistent (sample.host "https://example.com/hook") :=
    fun _ ha => ha
  exact ((connects_pinned_iff sample "https://example.com/hook" true (by decide)).1 steady).mpr
    (.inr (.inr (.inr (.inr hconsistent))))

/-- **The worker and the endpoint post to the metadata service of a cloud.** -/
theorem not_pinned_rebinding :
    ¬sample.Pinned rebinding "https://example.com/hook"
        (sample.attemptConnects rebinding (some ⟨"https://example.com/hook", true⟩)) ∧
      ¬sample.Pinned rebinding "https://example.com/hook"
        (sample.testConnects rebinding (some "https://example.com/hook")) := by
  have hworker : sample.attemptConnects rebinding (some ⟨"https://example.com/hook", true⟩) =
      [.v4 0xa9fea9fe#32] := by decide
  have htest : sample.testConnects rebinding (some "https://example.com/hook") =
      [.v4 0xa9fea9fe#32] := by decide
  have hchecked : rebinding.checked (sample.host "https://example.com/hook") =
      [.v4 0x5db8d822#32] := by decide
  simp only [Pinned, hworker, htest, hchecked]
  decide

end Delivery

end CveManagement
