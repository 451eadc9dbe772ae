import CveManagement.Webhooks.IpAddress
import Mathlib

/-!
# The SSRF guard

`app/core/ssrf.py`. `check_url` resolves the host of a webhook URL and refuses it when an answer
lies in a listed network. The loop over the answers ends at the first one that is refused, so it
allows a URL exactly when it refuses none of them (`CveManagement.checkAddresses_cases`).

An IPv4-mapped IPv6 address lies in none of the listed networks
(`CveManagement.isPrivate_of_ipv4Mapped`), whatever IPv4 address it maps.
-/

namespace CveManagement

/-! ### The block list -/

/-- `_PRIVATE_IPV4_NETS`. -/
def privateIpv4Nets : List (IpNetwork 32) :=
  [⟨0x00000000#32, 8⟩, ⟨0x0a000000#32, 8⟩, ⟨0x64400000#32, 10⟩, ⟨0x7f000000#32, 8⟩,
    ⟨0xa9fe0000#32, 16⟩, ⟨0xac100000#32, 12⟩, ⟨0xc0000000#32, 24⟩, ⟨0xc0a80000#32, 16⟩,
    ⟨0xc6120000#32, 15⟩, ⟨0xe0000000#32, 4⟩, ⟨0xf0000000#32, 4⟩]

/-- `_PRIVATE_IPV6_NETS`. -/
def privateIpv6Nets : List (IpNetwork 128) :=
  [⟨1#128, 128⟩, ⟨0xfc#128 <<< 120, 7⟩, ⟨0xfe80#128 <<< 112, 10⟩, ⟨0xff#128 <<< 120, 8⟩,
    ⟨0#128, 128⟩]

/-- `_is_private`. -/
def isPrivate : IpAddress → Bool
  | .v4 ip => privateIpv4Nets.any fun net => net.contains ip
  | .v6 ip _ => privateIpv6Nets.any fun net => net.contains ip

/-- **No listed network holds an IPv4-mapped address.** -/
theorem isPrivate_of_ipv4Mapped {ip : BitVec 128} (h : ip >>> 32 = 0xffff#128)
    (scopeId : Option Text) : isPrivate (.v6 ip scopeId) = false := by
  have hlow : ip.getLsbD 32 = true := IpAddress.getLsbD_of_ipv4Mapped h 0
  have hhigh : ip.getLsbD 127 = false := IpAddress.getLsbD_of_ipv4Mapped h 95
  by_contra hp
  obtain ⟨net, hnet, hmem⟩ := List.any_eq_true.mp (Bool.not_eq_false _ ▸ hp :
    isPrivate (.v6 ip scopeId) = true)
  have hbits : ∀ i, net.netmask.getLsbD i = true →
      ip.getLsbD i = net.networkAddress.getLsbD i := fun i =>
    IpNetwork.getLsbD_of_contains hmem
  -- the two networks of one address have bit 32 clear, the three others have bit 127 set
  simp only [privateIpv6Nets, List.mem_cons, List.not_mem_nil, or_false] at hnet
  rcases hnet with rfl | rfl | rfl | rfl | rfl
  · exact absurd (hlow.symm.trans (hbits 32 (by decide))) (by decide)
  · exact absurd (hhigh.symm.trans (hbits 127 (by decide))) (by decide)
  · exact absurd (hhigh.symm.trans (hbits 127 (by decide))) (by decide)
  · exact absurd (hhigh.symm.trans (hbits 127 (by decide))) (by decide)
  · exact absurd (hlow.symm.trans (hbits 32 (by decide))) (by decide)

/-- **A destination that the networks do not list**, of an address that they do not list:
anything but an IPv4-mapped address of a listed one. -/
theorem isPrivate_destination (a : IpAddress) :
    isPrivate a.destination = true ↔ isPrivate a = true ∨
      ∃ ip scopeId mapped, a = .v6 ip scopeId ∧ IpAddress.ipv4Mapped ip = some mapped ∧
        isPrivate (.v4 mapped) = true := by
  cases a with
  | v4 ip => simp [IpAddress.destination]
  | v6 ip scopeId =>
    rcases hm : IpAddress.ipv4Mapped ip with _ | mapped
    · simp [IpAddress.destination, hm]
    · have hmap : ip >>> 32 = 0xffff#128 := by
        rw [IpAddress.ipv4Mapped] at hm
        split_ifs at hm with h
        exact h
      simp [IpAddress.destination, hm, isPrivate_of_ipv4Mapped hmap]

/-! ### `check_url` -/

/-- An `SsrfCheckResult`. -/
structure SsrfCheckResult where
  allowed : Bool
  reason : Option String
  resolvedIps : List String

/-- What `socket.getaddrinfo` does: `info[4][0]` of its answers, an `OSError`, or the
`UnicodeError` of a name that IDNA cannot encode. -/
inductive AddrInfo
  | answers (addrs : List String)
  | osError (error : String)
  | unicodeError

/-- The argument `allowlist`. -/
inductive Allowlist
  | none
  | text (raw : String)
  | hosts (names : List String)

/-- **The functions of the standard library** that the guard calls. -/
structure PyNet where
  py : PyText
  /-- The scheme and the host name of `urlparse`; `none` is a `ValueError`. -/
  urlparse : String → Option (String × Option String)
  /-- `str` of an address. -/
  str : IpAddress → String

namespace PyNet

variable (net : PyNet)

/-- `lower`. -/
def lower (s : String) : String := String.ofList (net.py.lower s.toList)

/-- `_allowlist_set`. -/
def allowlistSet (raw : String) : List String :=
  ((raw.toList.splitOn ',').map net.py.strip).filterMap fun part =>
    if part = [] then none else some (String.ofList (net.py.lower part))

/-- `allow`, in `check_url`. -/
def allow : Allowlist → List String
  | .none => []
  | .text raw => net.allowlistSet raw
  | .hosts names => names.map net.lower

/-- The loop of `check_url` over the answers. -/
def checkAddresses : List String → List String → SsrfCheckResult
  | ips, [] => ⟨true, none, ips⟩
  | ips, addr :: rest =>
    match IpAddress.ofText addr.toList with
    | none => ⟨false, some ("invalid_ip:" ++ addr), ips⟩
    | some ip =>
      if isPrivate ip then ⟨false, some ("private_ip:" ++ addr), ips⟩
      else checkAddresses (ips ++ [net.str ip]) rest

/-- **`check_url`.** -/
def checkUrl (getaddrinfo : String → AddrInfo) (url : String) (allowlist : Allowlist)
    (requireHttps : Bool) : Except PyError SsrfCheckResult :=
  match net.urlparse url with
  | none => .error .valueError
  | some (scheme, hostname) =>
    if scheme ≠ "http" ∧ scheme ≠ "https" then
      .ok ⟨false, some ("scheme_not_allowed:" ++ scheme), []⟩
    else if requireHttps ∧ scheme ≠ "https" then .ok ⟨false, some "https_required", []⟩
    else
      let host := hostname.getD ""
      if host = "" then .ok ⟨false, some "missing_hostname", []⟩
      else if net.lower host ∈ net.allow allowlist then
        match getaddrinfo host with
        -- a set, whose order is not specified
        | .answers addrs => .ok ⟨true, none, addrs.dedup⟩
        | .osError _ => .ok ⟨false, some "dns_resolution_failed", []⟩
        | .unicodeError => .error .valueError
      else if net.lower host = "localhost" ∨ net.lower host = "ip6-localhost" then
        .ok ⟨false, some "loopback_hostname", []⟩
      else
        match getaddrinfo host with
        | .answers addrs => .ok (net.checkAddresses [] addrs)
        | .osError e => .ok ⟨false, some ("dns_resolution_failed:" ++ e), []⟩
        | .unicodeError => .error .valueError

/-! ### What the guard allows -/

/-- The text is no address, or the address of a listed network. -/
def refused (addr : String) : Bool := (IpAddress.ofText addr.toList).all isPrivate

/-- The text is an IPv4-mapped address of a listed IPv4 network. -/
def hidden (addr : String) : Bool :=
  match IpAddress.ofText addr.toList with
  | some (.v6 ip _) => (IpAddress.ipv4Mapped ip).any fun mapped => isPrivate (.v4 mapped)
  | _ => false

/-- The text is an address of a blocked destination. -/
def blocked (addr : String) : Bool :=
  (IpAddress.ofText addr.toList).any fun a => isPrivate a.destination

/-- `resolved_ips` lists the answers, one by one. -/
def Lists (ips addrs : List String) : Prop :=
  List.Forall₂ (fun ip addr => ∃ a, IpAddress.ofText addr.toList = some a ∧ ip = net.str a)
    ips addrs

variable {net}

theorem refused_eq_false_iff {addr : String} :
    refused addr = false ↔ ∃ a, IpAddress.ofText addr.toList = some a ∧ isPrivate a = false := by
  unfold refused
  rcases IpAddress.ofText addr.toList with _ | a <;> simp

/-- **What the guard lets through and still is blocked**, of the answers that it does not refuse:
the IPv4-mapped ones. -/
theorem blocked_iff_hidden {addr : String} (h : refused addr = false) :
    blocked addr = hidden addr := by
  obtain ⟨a, ha, hp⟩ := refused_eq_false_iff.mp h
  rw [Bool.eq_iff_iff, blocked, hidden, ha, Option.any_some, isPrivate_destination, hp]
  cases a with
  | v4 ip => simp
  | v6 ip scopeId => simp [Option.any_eq_true]

/-- **The loop over the answers**: it ends at the first answer that is refused, or lists all. -/
theorem checkAddresses_cases (net : PyNet) (ips addrs : List String) :
    ((net.checkAddresses ips addrs).allowed = false ∧ ∃ addr ∈ addrs, refused addr = true) ∨
      (∀ addr ∈ addrs, refused addr = false) ∧ ∃ listed, net.Lists listed addrs ∧
        net.checkAddresses ips addrs = ⟨true, none, ips ++ listed⟩ := by
  induction addrs generalizing ips with
  | nil => exact Or.inr ⟨by simp, [], .nil, by simp [checkAddresses]⟩
  | cons addr rest ih =>
    rcases ha : IpAddress.ofText addr.toList with _ | a
    · exact Or.inl ⟨by simp [checkAddresses, ha], addr, by simp, by simp [refused, ha]⟩
    by_cases hp : isPrivate a = true
    · exact Or.inl ⟨by simp [checkAddresses, ha, hp], addr, by simp, by simp [refused, ha, hp]⟩
    have hpass : refused addr = false := refused_eq_false_iff.mpr ⟨a, ha, by simpa using hp⟩
    have hstep : net.checkAddresses ips (addr :: rest) =
        net.checkAddresses (ips ++ [net.str a]) rest := by
      simp [checkAddresses, ha, hp]
    rw [hstep]
    rcases ih (ips ++ [net.str a]) with ⟨hno, b, hb, href⟩ | ⟨hall, listed, hlists, heq⟩
    · exact Or.inl ⟨hno, b, List.mem_cons_of_mem _ hb, href⟩
    · refine Or.inr ⟨by simpa [hpass] using hall, net.str a :: listed, ?_, by simp [heq]⟩
      exact .cons ⟨a, ha, rfl⟩ hlists

/-- The URL passes what the guard asks of it before it resolves the host. -/
def Dispatchable (net : PyNet) (requireHttps : Bool) (scheme host : String) : Prop :=
  (scheme = "http" ∨ scheme = "https") ∧ (requireHttps = true → scheme = "https") ∧ host ≠ "" ∧
    net.lower host ≠ "localhost" ∧ net.lower host ≠ "ip6-localhost"

/-- **The guard on a host that is not on the allowlist**: it decides by the URL alone, or by the
answers. -/
theorem checkUrl_cases (getaddrinfo : String → AddrInfo) {url : String} {allowlist : Allowlist}
    (requireHttps : Bool) {scheme : String} {hostname : Option String}
    (hurl : net.urlparse url = some (scheme, hostname))
    (hallow : net.lower (hostname.getD "") ∉ net.allow allowlist) :
    (¬net.Dispatchable requireHttps scheme (hostname.getD "") ∧
      ∃ reason, net.checkUrl getaddrinfo url allowlist requireHttps =
        .ok ⟨false, some reason, []⟩) ∨
    net.Dispatchable requireHttps scheme (hostname.getD "") ∧
      net.checkUrl getaddrinfo url allowlist requireHttps =
        match getaddrinfo (hostname.getD "") with
        | .answers addrs => .ok (net.checkAddresses [] addrs)
        | .osError e => .ok ⟨false, some ("dns_resolution_failed:" ++ e), []⟩
        | .unicodeError => .error .valueError := by
  rw [checkUrl, hurl]
  dsimp only
  split_ifs with hscheme hhttps hhost hlocal
  · exact Or.inl ⟨fun h => by rcases h.1 with h | h <;> simp [h] at hscheme, _, rfl⟩
  · exact Or.inl ⟨fun h => hhttps.2 (h.2.1 hhttps.1), _, rfl⟩
  · exact Or.inl ⟨fun h => h.2.2.1 hhost, _, rfl⟩
  · refine Or.inl ⟨fun h => ?_, _, rfl⟩
    exact hlocal.elim h.2.2.2.1 h.2.2.2.2
  · refine Or.inr ⟨⟨by tauto, fun hr => ?_, hhost, by tauto, by tauto⟩, rfl⟩
    by_contra hs
    exact hhttps ⟨hr, hs⟩

/-! ### Completeness -/

/-- **A result is complete** for the answers: it allows the URL only if none of them is an address
of a blocked destination, and then it lists them all. -/
def Complete (net : PyNet) (result : Except PyError SsrfCheckResult) (addrs : List String) :
    Prop :=
  ∀ res, result = .ok res → res.allowed = true →
    (∀ addr ∈ addrs, blocked addr = false) ∧ net.Lists res.resolvedIps addrs

/-- The loop is complete when it refuses an answer anyway, or when none of them hides the address
of a listed network. -/
theorem complete_checkAddresses_iff (addrs : List String) :
    net.Complete (.ok (net.checkAddresses [] addrs)) addrs ↔
      (∃ addr ∈ addrs, refused addr = true) ∨ ∀ addr ∈ addrs, hidden addr = false := by
  rcases checkAddresses_cases net [] addrs with ⟨hno, href⟩ | ⟨hall, listed, hl, heq⟩
  · refine ⟨fun _ => Or.inl href, fun _ res hres hallowed => ?_⟩
    rw [← Except.ok.inj hres, hno] at hallowed
    exact absurd hallowed (by simp)
  have hnone : ¬∃ addr ∈ addrs, refused addr = true := by
    rintro ⟨addr, haddr, href⟩
    rw [hall addr haddr] at href
    exact absurd href (by simp)
  rw [or_iff_right hnone, heq]
  constructor
  · intro h addr haddr
    rw [← blocked_iff_hidden (hall addr haddr)]
    exact (h _ rfl rfl).1 addr haddr
  · intro h res hres _
    rw [← Except.ok.inj hres]
    refine ⟨fun addr haddr => ?_, hl⟩
    rw [blocked_iff_hidden (hall addr haddr)]
    exact h addr haddr

/-- **The guard is complete exactly when** the URL or an answer is refused anyway, or no answer is
the IPv4-mapped address of a listed network. -/
theorem complete_checkUrl_iff (net : PyNet) (getaddrinfo : String → AddrInfo) {url : String}
    {allowlist : Allowlist} (requireHttps : Bool) {scheme : String} {hostname : Option String}
    {addrs : List String} (hurl : net.urlparse url = some (scheme, hostname))
    (hallow : net.lower (hostname.getD "") ∉ net.allow allowlist)
    (haddrs : getaddrinfo (hostname.getD "") = .answers addrs) :
    net.Complete (net.checkUrl getaddrinfo url allowlist requireHttps) addrs ↔
      ¬net.Dispatchable requireHttps scheme (hostname.getD "") ∨
        (∃ addr ∈ addrs, refused addr = true) ∨ ∀ addr ∈ addrs, hidden addr = false := by
  rcases checkUrl_cases getaddrinfo requireHttps hurl hallow with ⟨hno, reason, heq⟩ | ⟨hyes, heq⟩
  · refine ⟨fun _ => Or.inl hno, fun _ res hres hallowed => ?_⟩
    rw [heq] at hres
    rw [← Except.ok.inj hres] at hallowed
    exact absurd hallowed (by simp)
  · rw [or_iff_right (not_not_intro hyes), heq, haddrs]
    exact complete_checkAddresses_iff addrs

/-- The decimal form of an IPv4 address. -/
def dotted (ip : BitVec 32) : String :=
  let n := ip.toNat
  toString (n / 16777216) ++ "." ++ toString (n / 65536 % 256) ++ "." ++
    toString (n / 256 % 256) ++ "." ++ toString (n % 256)

/-- A library that knows `https://example.com/hook` and the addresses of the examples. -/
def sample : PyNet where
  py := PyText.ascii
  urlparse url :=
    if url = "https://example.com/hook" then some ("https", some "example.com") else none
  str
    | .v4 ip => dotted ip
    | .v6 ip _ => if ip = 0xffffa9fea9fe#128 then "::ffff:a9fe:a9fe" else "::"

theorem complete_checkUrl_iff_example :
    sample.Complete
        (sample.checkUrl (fun _ => .answers ["93.184.216.34"]) "https://example.com/hook"
          (.text "") false) ["93.184.216.34"] ↔
      ¬sample.Dispatchable false "https" "example.com" ∨
        (∃ addr ∈ ["93.184.216.34"], refused addr = true) ∨
          ∀ addr ∈ ["93.184.216.34"], hidden addr = false := by
  have hurl : sample.urlparse "https://example.com/hook" = some ("https", some "example.com") :=
    rfl
  have hallow : sample.lower "example.com" ∉ sample.allow (.text "") := by decide
  exact complete_checkUrl_iff sample _ false hurl hallow rfl

/-- **The metadata service of a cloud**, under its IPv4-mapped address. -/
theorem not_complete_metadata :
    ¬sample.Complete
        (sample.checkUrl (fun _ => .answers ["::ffff:169.254.169.254"])
          "https://example.com/hook" (.text "") false)
        ["::ffff:169.254.169.254"] := by
  intro h
  obtain ⟨hnone, -⟩ := h ⟨true, none, ["::ffff:a9fe:a9fe"]⟩ rfl rfl
  exact absurd (hnone "::ffff:169.254.169.254" (by simp)) (by decide)

end PyNet

end CveManagement
