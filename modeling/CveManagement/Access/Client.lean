import CveManagement.Access.Sessions

/-!
# The client among its answers

`frontend/src/lib/api.js` and `frontend/src/lib/auth.js`: a request carries the token that is stored
when it is sent. The first `401` to a request makes it wait for a refresh of the tokens – the one
that is in flight, if there is one – and then it is sent once more; if the refresh fails, the stored
tokens are removed and the browser goes to the login page. Requests and answers come in any order
here, and other tabs write to the storage (`CveManagement.ApiClient.step`).

A refresh settles its promise, and every request that waits for it goes on before another answer is
handled: each of them sets `inFlightRefresh` to `null`. No promise gets lost by that
(`CveManagement.ApiClient.Kept`): one refresh at most is in flight, a request waits only while the
refresh is in flight that it waits for, and each request is sent twice at most
(`CveManagement.ApiClient.collapse`).
-/

namespace CveManagement

variable {Token ω : Type}

/-! ### The client -/

/-- What is in the storage. -/
structure ClientSession (Token : Type) where
  accessToken : Option Token
  refreshToken : Option Token
  deriving DecidableEq

/-- `setSession`, of the two tokens of an answer that may be missing. -/
def ClientSession.set (s : ClientSession Token) (access refresh : Option Token) :
    ClientSession Token :=
  ⟨access.or s.accessToken, refresh.or s.refreshToken⟩

/-- `clearSession`. -/
def ClientSession.clear : ClientSession Token := ⟨none, none⟩

/-- Where a request is. -/
inductive ApiRequest (Token : Type)
  | idle
  /-- Sent, with a token if there was one; `retried` is `config._retried`. -/
  | sent (token : Option Token) (retried : Bool)
  /-- Before the promise of a refresh is settled. -/
  | waiting (promise : ℕ)
  /-- Answered, or given up. -/
  | settled (ok : Bool)

/-- **A tab.** A promise is known by its number; `sends` counts how often a request was sent, which
the code does not keep. -/
structure ApiClient (Token ω : Type) where
  session : ClientSession Token
  inFlightRefresh : Option ℕ
  /-- The refresh calls that are not answered, with the tokens that they present. -/
  posts : List (ℕ × Token)
  /-- The number of the next promise. -/
  next : ℕ
  requests : ω → ApiRequest Token
  sends : ω → ℕ
  redirected : Bool

/-- What happens next. -/
inductive ApiEvent (Token ω : Type)
  /-- A component asks for a route. -/
  | request (id : ω)
  /-- The answer to a request; `auth` tells whether its path is that of a login or a refresh. -/
  | answer (id : ω) (status : ℕ) (auth : Bool)
  /-- The answer to a refresh call: the two tokens, or a failure. -/
  | refreshed (promise : ℕ) (answer : Option (Token × Token))
  /-- The login form, or another tab. -/
  | stored (session : ClientSession Token)
  | logout

namespace ApiClient

open Trajectory

variable [DecidableEq ω] (s : ApiClient Token ω)

/-- Send a request, or send it once more. -/
def send (id : ω) (retried : Bool) : ApiClient Token ω :=
  { s with
    requests := Function.update s.requests id (.sent s.session.accessToken retried)
    sends := Function.update s.sends id (s.sends id + 1) }

/-- Go to the login page without tokens. -/
def bounce : ApiClient Token ω := { s with session := .clear, redirected := true }

/-- A request comes to its end. -/
def settle (id : ω) (ok : Bool) : ApiClient Token ω :=
  { s with requests := Function.update s.requests id (.settled ok) }

/-- A request waits for a promise. -/
def await (id : ω) (promise : ℕ) : ApiClient Token ω :=
  { s with requests := Function.update s.requests id (.waiting promise) }

/-- `inFlightRefresh ?? refreshTokens()`: the promise that is there, or that of a call that presents
the stored token. Without one, `refreshTokens` throws. -/
def refreshTokens : Option (ℕ × ApiClient Token ω) :=
  match s.inFlightRefresh, s.session.refreshToken with
  | some promise, _ => some (promise, s)
  | none, some token => some (s.next,
      { s with
        inFlightRefresh := some s.next
        posts := (s.next, token) :: s.posts
        next := s.next + 1 })
  | none, none => none

/-- **The interceptor of the responses.** -/
def answer (id : ω) (status : ℕ) (auth : Bool) : ApiClient Token ω :=
  match s.requests id with
  | .sent _ retried =>
    if 200 ≤ status ∧ status < 300 then s.settle id true
    else if status ≠ 401 ∨ retried = true ∨ auth = true then s.settle id false
    else match s.refreshTokens with
      | some (promise, s') => s'.await id promise
      | none => { s.bounce.settle id false with inFlightRefresh := none }
  | _ => s

/-- A promise is settled: whoever waits for it goes on, among them who has begun the refresh. -/
def wake (promise : ℕ) (f : ApiRequest Token) (sent : ℕ) : ApiClient Token ω :=
  let waits : ω → Bool := fun id => match s.requests id with
    | .waiting p => p == promise
    | _ => false
  { s with
    requests := fun id => if waits id then f else s.requests id
    sends := fun id => if waits id then s.sends id + sent else s.sends id
    inFlightRefresh := none }

/-- **The answer to a refresh call.** -/
def refreshed (promise : ℕ) (answer : Option (Token × Token)) : ApiClient Token ω :=
  if promise ∈ s.posts.map Prod.fst then
    let left := { s with posts := s.posts.filter fun post => post.1 != promise }
    match answer with
    | some (access, refresh) =>
      let stored := { left with session := left.session.set (some access) (some refresh) }
      stored.wake promise (.sent stored.session.accessToken true) 1
    | none => left.bounce.wake promise (.settled false) 0
  else s

/-- **One event.** -/
def step (s : ApiClient Token ω) : ApiEvent Token ω → ApiClient Token ω
  | .request id =>
    match s.requests id with
    | .idle => s.send id false
    | _ => s
  | .answer id status auth => s.answer id status auth
  | .refreshed promise answer => s.refreshed promise answer
  | .stored session => { s with session := session }
  | .logout => s.bounce

/-- A page that was loaded, with what the storage holds. -/
def start (session : ClientSession Token) : ApiClient Token ω :=
  ⟨session, none, [], 0, fun _ => .idle, fun _ => 0, false⟩

/-! ### What is kept -/

/-- How often a request has been sent, by where it is. -/
def SentAs : ApiRequest Token → ℕ → Prop
  | .idle, n => n = 0
  | .sent _ retried, n => n = if retried then 2 else 1
  | .waiting _, n => n = 1
  | .settled _, n => n ≤ 2

/-- **What every event keeps.** -/
structure Kept (s : ApiClient Token ω) : Prop where
  posts : s.posts.map Prod.fst = s.inFlightRefresh.toList
  waiting : ∀ id p, s.requests id = .waiting p → s.inFlightRefresh = some p
  begun : ∀ p, s.inFlightRefresh = some p → ∃ id, s.requests id = .waiting p
  sends : ∀ id, SentAs (s.requests id) (s.sends id)

omit [DecidableEq ω] in
theorem kept_start (session : ClientSession Token) :
    Kept (start session : ApiClient Token ω) where
  posts := rfl
  waiting id p h := by cases h
  begun p h := by cases h
  sends _ := rfl

section Step

variable {s}

omit [DecidableEq ω] in
theorem SentAs.le_two {r : ApiRequest Token} {n : ℕ} (h : SentAs r n) : n ≤ 2 := by
  cases r with
  | idle => exact h.le.trans (Nat.zero_le 2)
  | sent token retried =>
    cases retried with
    | false => exact h.le.trans (by decide)
    | true => exact h.le
  | waiting p => exact h.le.trans (by decide)
  | settled ok => exact h

omit [DecidableEq ω] in
/-- The storage and the page matter to none of it. -/
theorem Kept.congr {s' : ApiClient Token ω} (h : Kept s) (hp : s'.posts = s.posts)
    (hi : s'.inFlightRefresh = s.inFlightRefresh) (hr : s'.requests = s.requests)
    (hs : s'.sends = s.sends) : Kept s' where
  posts := by rw [hp, hi, h.posts]
  waiting := by rw [hr, hi]; exact h.waiting
  begun := by rw [hr, hi]; exact h.begun
  sends := by rw [hr, hs]; exact h.sends

/-- A request that does not wait moves to where it does not wait either. -/
theorem Kept.move {s' : ApiClient Token ω} (h : Kept s) {id : ω} {r : ApiRequest Token} {n : ℕ}
    (hbefore : ∀ p, s.requests id ≠ .waiting p) (hafter : ∀ p, r ≠ .waiting p)
    (hsent : SentAs r n) (hp : s'.posts = s.posts) (hi : s'.inFlightRefresh = s.inFlightRefresh)
    (hr : s'.requests = Function.update s.requests id r)
    (hs : s'.sends = Function.update s.sends id n) : Kept s' where
  posts := by rw [hp, hi, h.posts]
  waiting other p hother := by
    rw [hr] at hother
    rw [hi]
    by_cases hid : other = id
    · rw [hid, Function.update_self] at hother
      exact absurd hother (hafter p)
    · rw [Function.update_of_ne hid] at hother
      exact h.waiting other p hother
  begun p hpromise := by
    rw [hi] at hpromise
    obtain ⟨other, hother⟩ := h.begun p hpromise
    refine ⟨other, ?_⟩
    rw [hr, Function.update_of_ne]
    · exact hother
    · rintro rfl
      exact hbefore p hother
  sends other := by
    rw [hr, hs]
    by_cases hid : other = id
    · rw [hid, Function.update_self, Function.update_self]
      exact hsent
    · rw [Function.update_of_ne hid, Function.update_of_ne hid]
      exact h.sends other

theorem Kept.settle (h : Kept s) {id : ω} {token : Option Token} {retried : Bool}
    (hid : s.requests id = .sent token retried) (ok : Bool) : Kept (s.settle id ok) :=
  h.move (r := .settled ok) (n := s.sends id) (fun p hp => by rw [hid] at hp; cases hp)
    (fun p hp => by cases hp) (h.sends id).le_two rfl rfl rfl (Function.update_eq_self ..).symm

omit [DecidableEq ω] in
/-- **What `refreshTokens` does**: it finds the refresh that is in flight, or begins one. -/
theorem refreshTokens_cases {promise : ℕ} {s' : ApiClient Token ω}
    (h : s.refreshTokens = some (promise, s')) :
    s'.requests = s.requests ∧ s'.sends = s.sends ∧ s'.inFlightRefresh = some promise ∧
      (s.inFlightRefresh = some promise ∧ s'.posts = s.posts ∨
        s.inFlightRefresh = none ∧ ∃ token, s'.posts = (promise, token) :: s.posts) := by
  unfold refreshTokens at h
  split at h
  next p hp =>
    obtain ⟨rfl, rfl⟩ := Prod.mk.inj (Option.some.inj h)
    exact ⟨rfl, rfl, hp, .inl ⟨hp, rfl⟩⟩
  next token hp htoken =>
    obtain ⟨rfl, rfl⟩ := Prod.mk.inj (Option.some.inj h)
    exact ⟨rfl, rfl, rfl, .inr ⟨hp, token, rfl⟩⟩
  · cases h

omit [DecidableEq ω] in
/-- It throws only if no refresh is in flight. -/
theorem inFlightRefresh_of_refreshTokens (h : s.refreshTokens = none) :
    s.inFlightRefresh = none := by
  unfold refreshTokens at h
  split at h
  · cases h
  · cases h
  next hp _ => exact hp

/-- **A request that begins to wait** waits for the refresh that is in flight. -/
theorem Kept.await (h : Kept s) {id : ω} {token : Option Token}
    (hid : s.requests id = .sent token false) {promise : ℕ} {s' : ApiClient Token ω}
    (hrefresh : s.refreshTokens = some (promise, s')) : Kept (s'.await id promise) := by
  obtain ⟨hr, hs, hi, hcases⟩ := refreshTokens_cases hrefresh
  have hsends := h.sends id
  rw [hid] at hsends
  refine ⟨?_, fun other p hother => ?_, fun p hpromise => ?_, fun other => ?_⟩
  · have hposts := h.posts
    change s'.posts.map Prod.fst = s'.inFlightRefresh.toList
    rw [hi]
    rcases hcases with ⟨hflight, hp⟩ | ⟨hnone, token, hp⟩
    · rw [hp, hposts, hflight]
    · rw [hp, List.map_cons, hposts, hnone]
      rfl
  · change Function.update s'.requests id _ other = _ at hother
    by_cases hother' : other = id
    · rw [hother', Function.update_self] at hother
      rw [← ApiRequest.waiting.inj hother]
      exact hi
    · -- whoever waited before waits for the same one
      rw [Function.update_of_ne hother', hr] at hother
      have hflight : s.inFlightRefresh = some p := h.waiting other p hother
      rcases hcases with ⟨hsame, -⟩ | ⟨hnone, -⟩
      · exact hi.trans (hsame.symm.trans hflight)
      · rw [hnone] at hflight
        cases hflight
  · refine ⟨id, ?_⟩
    change Function.update s'.requests id _ id = _
    rw [Function.update_self, ← Option.some.inj (hi.symm.trans hpromise)]
  · change SentAs (Function.update s'.requests id _ other) (s'.sends other)
    by_cases hother' : other = id
    · rw [hother', Function.update_self, hs]
      exact hsends
    · rw [Function.update_of_ne hother', hr, hs]
      exact h.sends other

theorem Kept.answer (h : Kept s) (id : ω) (status : ℕ) (auth : Bool) :
    Kept (s.answer id status auth) := by
  unfold ApiClient.answer
  split
  next token retried hid =>
    split_ifs with hok hfinal
    · exact h.settle hid true
    · exact h.settle hid false
    · obtain ⟨-, hretried, -⟩ : status = 401 ∧ retried = false ∧ auth = false := by
        simpa [not_or] using hfinal
      rw [hretried] at hid
      split
      next promise s' hrefresh => exact h.await hid hrefresh
      next hrefresh =>
        have hnone : s.inFlightRefresh = none := inFlightRefresh_of_refreshTokens hrefresh
        have hbounce : Kept s.bounce := h.congr rfl rfl rfl rfl
        refine (Kept.settle (s := s.bounce) hbounce hid false).congr rfl ?_ rfl rfl
        exact hnone.symm
  · exact h

omit [DecidableEq ω] in
/-- **No one waits any more** when a refresh is answered. -/
theorem Kept.wake (h : Kept s) {promise : ℕ} {posts : List (ℕ × Token)}
    (hposts : posts = s.posts.filter fun post => post.1 != promise)
    (hpromise : s.inFlightRefresh = some promise) (session : ClientSession Token)
    (redirected : Bool) {f : ApiRequest Token} {sent : ℕ} (hf : ∀ p, f ≠ .waiting p)
    (hsent : SentAs f (1 + sent)) :
    Kept (wake { s with posts := posts, session := session, redirected := redirected } promise
      f sent) := by
  have hwaiting : ∀ id p, s.requests id = .waiting p → p = promise := by
    intro id p hp
    exact Option.some.inj ((h.waiting id p hp).symm.trans hpromise)
  have hleft : posts = [] := by
    rw [hposts, List.filter_eq_nil_iff]
    intro post hpost
    have hmem : post.1 ∈ s.posts.map Prod.fst := List.mem_map_of_mem hpost
    rw [h.posts, hpromise, Option.toList_some, List.mem_singleton] at hmem
    simp [hmem]
  refine ⟨?_, fun id p hp => ?_, fun p hp => (by cases hp), fun id => ?_⟩
  · change posts.map Prod.fst = []
    rw [hleft]
    rfl
  · exfalso
    simp only [ApiClient.wake] at hp
    cases hid : s.requests id with
    | waiting q => simp [hid, hwaiting id q hid, hf] at hp
    | idle => simp [hid] at hp
    | sent token retried => simp [hid] at hp
    | settled ok => simp [hid] at hp
  · have hs := h.sends id
    simp only [ApiClient.wake]
    cases hid : s.requests id with
    | waiting q =>
      rw [hid] at hs
      rw [hwaiting id q hid]
      simp only [beq_self_eq_true, if_true]
      rwa [show s.sends id = 1 from hs]
    | idle => simpa [hid] using hs
    | sent token retried => simpa [hid] using hs
    | settled ok => simpa [hid] using hs

omit [DecidableEq ω] in
theorem Kept.refreshed (h : Kept s) (promise : ℕ) (answer : Option (Token × Token)) :
    Kept (s.refreshed promise answer) := by
  unfold ApiClient.refreshed
  split_ifs with hpost
  · have hpromise : s.inFlightRefresh = some promise := by
      rw [h.posts] at hpost
      simpa using hpost
    cases answer with
    | none => exact h.wake rfl hpromise .clear true (fun p hp => by cases hp) (Nat.le_succ 1)
    | some tokens =>
      obtain ⟨access, refresh⟩ := tokens
      exact h.wake rfl hpromise _ s.redirected (fun p hp => by cases hp) rfl
  · exact h

/-- **Every event keeps it.** -/
theorem kept_step (h : Kept s) (e : ApiEvent Token ω) : Kept (step s e) := by
  cases e with
  | request id =>
    rw [step]
    split
    next hid =>
      have hsends := h.sends id
      rw [hid] at hsends
      refine h.move (fun p hp => by rw [hid] at hp; cases hp) (fun p hp => by cases hp) ?_ rfl rfl
        rfl rfl
      rw [show s.sends id = 0 from hsends]
      rfl
    · exact h
  | answer id status auth => exact h.answer id status auth
  | refreshed promise answer => exact h.refreshed promise answer
  | stored session => exact h.congr rfl rfl rfl rfl
  | logout => exact h.congr rfl rfl rfl rfl

end Step

/-- **Concurrent refusals collapse into one refresh**, in every run: at most one refresh call is in
flight, whoever waits waits for it, and no request is sent more than twice. -/
theorem collapse (session : ClientSession Token) (l : List (ApiEvent Token ω)) :
    Throughout step (fun s => s.posts.length ≤ 1 ∧
      (∀ id p, s.requests id = .waiting p → ∃ token, s.posts = [(p, token)]) ∧
      ∀ id, s.sends id ≤ 2) (start session) l := by
  refine (throughout_of_step (I := Kept) (fun s e h => kept_step h e) (kept_start session) l).mono
    fun s h => ⟨?_, fun id p hp => ?_, fun id => (h.sends id).le_two⟩
  · rw [← s.posts.length_map Prod.fst, h.posts]
    cases s.inFlightRefresh with
    | none => exact Nat.zero_le 1
    | some p => exact le_rfl
  · have hposts := h.posts
    rw [h.waiting id p hp, Option.toList_some, List.map_eq_singleton_iff] at hposts
    obtain ⟨⟨q, token⟩, hpost, rfl⟩ := hposts
    exact ⟨token, hpost⟩

/-! ### A burst of refusals -/

section Burst

variable {s} {ids : List ω}

/-- A refusal while a refresh is in flight. -/
theorem answer_of_inFlight {id : ω} {token : Option Token} {p : ℕ}
    (hid : s.requests id = .sent token false) (hp : s.inFlightRefresh = some p) :
    s.answer id 401 false = s.await id p := by
  simp [ApiClient.answer, refreshTokens, hid, hp]

/-- Refusals while a refresh is in flight: everyone waits. -/
theorem run_refusals {p : ℕ} (hp : s.inFlightRefresh = some p) (hnodup : ids.Nodup)
    (hids : ∀ id ∈ ids, ∃ token, s.requests id = .sent token false) :
    run step s (ids.map fun id => .answer id 401 false) =
      { s with requests := fun id => if id ∈ ids then .waiting p else s.requests id } := by
  induction ids generalizing s with
  | nil => simp
  | cons id ids ih =>
    obtain ⟨hnotin, hnodup⟩ := List.nodup_cons.mp hnodup
    obtain ⟨⟨token, hid⟩, hids⟩ := List.forall_mem_cons.mp hids
    have hstep : step s (.answer id 401 false) = s.await id p := answer_of_inFlight hid hp
    have hrest : ∀ other ∈ ids, ∃ token, (s.await id p).requests other = .sent token false := by
      intro other hother
      obtain ⟨token, hsent⟩ := hids other hother
      have hne : other ≠ id := fun h => hnotin (h ▸ hother)
      exact ⟨token, (Function.update_of_ne hne ..).trans hsent⟩
    rw [List.map_cons, run_cons, hstep, ih (s := s.await id p) hp hnodup hrest]
    simp only [await, ApiClient.mk.injEq, true_and, and_true]
    funext other
    by_cases hother : other = id
    · rw [hother, if_neg hnotin, if_pos List.mem_cons_self, Function.update_self]
    · rw [Function.update_of_ne hother]
      simp [hother]

/-- **A burst of refusals**: however many requests are refused, and in whichever order, one call is
made, and its answer lets each of them be sent once more, with the new token. -/
theorem burst_of_refusals (hnone : s.inFlightRefresh = none) (hposts : s.posts = [])
    {refresh : Token} (hrefresh : s.session.refreshToken = some refresh) (hne : ids ≠ [])
    (hnodup : ids.Nodup)
    (hids : ∀ id ∈ ids, ∃ token, s.requests id = .sent token false)
    (hwaiting : ∀ id p, s.requests id ≠ .waiting p) (access' refresh' : Token) :
    (run step s (ids.map fun id => .answer id 401 false)).posts = [(s.next, refresh)] ∧
      run step s (ids.map (fun id => .answer id 401 false) ++
          [.refreshed s.next (some (access', refresh'))]) =
        { s with
          session := ⟨some access', some refresh'⟩
          next := s.next + 1
          requests := fun id =>
            if id ∈ ids then .sent (some access') true else s.requests id
          sends := fun id => if id ∈ ids then s.sends id + 1 else s.sends id } := by
  obtain ⟨id, rest, rfl⟩ := List.exists_cons_of_ne_nil hne
  obtain ⟨hnotin, hnodup⟩ := List.nodup_cons.mp hnodup
  obtain ⟨⟨token, hid⟩, hids⟩ := List.forall_mem_cons.mp hids
  -- the first one begins the refresh
  let begun : ApiClient Token ω := { s with
    inFlightRefresh := some s.next
    posts := [(s.next, refresh)]
    next := s.next + 1
    requests := Function.update s.requests id (.waiting s.next) }
  have hfirst : step s (.answer id 401 false) = begun := by
    simp [step, ApiClient.answer, refreshTokens, hid, hnone, hrefresh, hposts, await, begun]
  have hrest : ∀ other ∈ rest, ∃ token, begun.requests other = .sent token false := by
    intro other hother
    obtain ⟨token, hsent⟩ := hids other hother
    have hne : other ≠ id := fun h => hnotin (h ▸ hother)
    exact ⟨token, (Function.update_of_ne hne ..).trans hsent⟩
  have hrun : run step s ((id :: rest).map fun id => .answer id 401 false) =
      { begun with requests := fun other =>
          if other ∈ rest then .waiting s.next else begun.requests other } := by
    rw [List.map_cons, run_cons, hfirst, run_refusals rfl hnodup hrest]
  have hrequests : ∀ other, (if other ∈ rest then ApiRequest.waiting s.next
      else begun.requests other) =
        if other ∈ id :: rest then .waiting s.next else s.requests other := by
    intro other
    by_cases hother : other = id
    · rw [hother, if_neg hnotin, if_pos List.mem_cons_self]
      exact Function.update_self ..
    · have : begun.requests other = s.requests other := Function.update_of_ne hother ..
      simp [hother, this]
  refine ⟨by rw [hrun], ?_⟩
  rw [run_append, hrun]
  simp only [hrequests, run_cons, run_nil, step, refreshed, begun, List.map_cons, List.map_nil,
    List.mem_singleton, if_true, wake, ClientSession.set]
  simp only [List.filter_cons, bne_self_eq_false, Bool.false_eq_true, if_false, List.filter_nil,
    ApiClient.mk.injEq, true_and, and_true]
  refine ⟨rfl, hnone.symm, hposts.symm, ?_, ?_⟩
  · funext other
    by_cases hother : other ∈ id :: rest
    · simp [hother]
    · simp only [hother, if_false]
      cases hcase : s.requests other <;> simp
      exact absurd hcase (hwaiting _ _)
  · funext other
    by_cases hother : other ∈ id :: rest
    · simp [hother]
    · simp only [hother, if_false]
      cases hcase : s.requests other <;> simp
      exact absurd hcase (hwaiting _ _)

/-- Two requests that were sent with an old token. -/
def twoSent : ApiClient String Bool where
  session := ⟨some "old", some "renewal"⟩
  inFlightRefresh := none
  posts := []
  next := 0
  requests _ := .sent (some "old") false
  sends _ := 1
  redirected := false

/-- Both are refused, and one call is made. -/
theorem burst_of_two_refusals :
    (run step twoSent ([true, false].map fun id => .answer id 401 false)).posts =
      [(0, "renewal")] :=
  (burst_of_refusals (s := twoSent) rfl rfl rfl (List.cons_ne_nil _ _) (by decide)
    (fun _ _ => ⟨_, rfl⟩) (fun _ _ h => by cases h) "new" "newer").1

end Burst

end ApiClient

end CveManagement
