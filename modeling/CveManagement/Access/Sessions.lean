import CveManagement.Access.Users
import CveManagement.Library.Trajectory

/-!
# Logins, refreshes and what becomes of the tokens

`app/api/routers/auth.py`: `login` reads a row of `users`, checks the password, records the login
and mints two tokens; `refresh` decodes a token, reads a row and mints two more. Nothing is kept of
a token that was handed out, so the handlers of any number of requests, the statements of an
administrator on `users` and the passing of time come in any order here
(`CveManagement.AuthWorld.step`), and a row may change between the query that finds it and the
tokens that are minted from it.

The world remembers what the code does not: how each token came about (`CveManagement.Session`). The
tokens that are presented are those that were handed out, or such as no one can decode
(`CveManagement.AuthWorld.Unforged`): who does not have `jwt_secret` cannot make others.

* A route accepts exactly the access tokens that were handed out and have not expired, for the user
  and the role that the row had when it was read (`CveManagement.AuthWorld.authorize_iff`).
* So what becomes of the row takes effect within the lifetime of an access token, after the last
  handler that read the row before has come to its end (`CveManagement.AuthWorld.revoked`).
* Every token goes back to a login with the password of its user, through refreshes of tokens that
  had not expired and that found the user active (`CveManagement.AuthWorld.sessions_valid`).
-/

namespace CveManagement

open Timeline

/-! ### Where tokens come from -/

/-- The row that a handler has read, and when. -/
abbrev RowRead := Timeline.Copy UserRow Instant

/-- **How a pair of tokens came about.** -/
inductive Session
  /-- Not by the code. -/
  | stranger
  /-- By a login with a password. -/
  | login (password : Text) (read : RowRead)
  /-- By a refresh: where the token that was presented came from, when it was minted and when it was
  presented. -/
  | refresh (parent : Session) (mintedAt presentedAt : Instant) (read : RowRead)

/-- The row that a session is for. -/
def Session.read : Session → Option RowRead
  | .stranger => none
  | .login _ read => some read
  | .refresh _ _ _ read => some read

/-- A token that was handed out. -/
structure Minted (Token : Type) where
  token : Token
  type : TokenType
  read : RowRead
  mintedAt : Instant
  session : Session

/-- What `login` and `refresh` leave in the audit log. -/
structure AuthAudit where
  action : String
  targetType : String
  targetId : String
  actorEmail : String
  actorRole : String
  deriving DecidableEq

/-- The row of a login that succeeds. -/
def loginAudit (r : UserRow) : AuthAudit :=
  ⟨"auth.login", "user", toString r.id, r.email, r.role.text⟩

/-- The row of a login that fails. -/
def loginFailedAudit (email : String) : AuthAudit :=
  ⟨"auth.login_failed", "user", email, email, "anonymous"⟩

/-- `TokenPair`. -/
structure TokenPair (Token : Type) where
  accessToken : Token
  refreshToken : Token
  tokenType : String
  expiresIn : ℤ

/-! ### The handlers among each other -/

/-- Where a request to one of the two endpoints is. -/
inductive AuthCall (Token : Type)
  | idle
  /-- A login whose password is right, before its transaction. -/
  | recording (password : Text) (read : RowRead)
  /-- A refresh whose token is decoded, before its query. -/
  | fetching (parent : Session) (mintedAt presentedAt : Instant) (sub : ℤ)
  /-- Before `create_access_token`. -/
  | minting (session : Session) (read : RowRead)
  /-- Before `create_refresh_token`. -/
  | mintingRefresh (session : Session) (access : Minted Token)
  | returned (result : Except ApiError (TokenPair Token))

/-- **The users, the requests of the two endpoints and the tokens that were handed out.** -/
structure AuthWorld (Token ω : Type) where
  users : Timeline Users Instant
  issued : List (Minted Token)
  calls : ω → AuthCall Token
  audit : List AuthAudit

/-- What the handlers are given. -/
structure AuthEnv (Token : Type) where
  jwt : Jwt Token
  bcrypt : Bcrypt
  py : PyText
  cfg : TokenSettings

/-- What happens next. -/
inductive AuthEvent (Token ω : Type)
  | tick (elapsed : ℕ)
  /-- A statement of an administrator, and what it makes of the table. -/
  | edit (users : Users)
  /-- The body of a login arrives; `audited` tells what becomes of the audit row if it fails. -/
  | login (caller : ω) (email : String) (password : Text) (audited : Bool)
  /-- The body of a refresh arrives. -/
  | refresh (caller : ω) (token : Token)
  /-- The next command of a handler; `committed` tells what becomes of its transaction. -/
  | resume (caller : ω) (committed : Bool)

namespace AuthWorld

open Trajectory

section Steps

variable {Token ω : Type} [DecidableEq Token] [DecidableEq ω] (env : AuthEnv Token)
  (w : AuthWorld Token ω)

/-- `email.lower()`. -/
def lowerEmail (email : String) : String := String.ofList (env.py.lower email.toList)

/-- The call of one request moves on. -/
def moveTo (caller : ω) (c : AuthCall Token) : AuthWorld Token ω :=
  { w with calls := Function.update w.calls caller c }

/-- `login`, to the check of the password. -/
def login (caller : ω) (email : String) (password : Text) (audited : Bool) : AuthWorld Token ω :=
  match w.users.current.byEmail (lowerEmail env email) with
  | some r =>
    if r.isActive && verifyPassword env.bcrypt password r.passwordHash then
      w.moveTo caller (.recording password ⟨r, w.users.now⟩)
    else refuse w
  | none => refuse w
where
  /-- The generic answer, with an audit row if that can be written. -/
  refuse (w : AuthWorld Token ω) : AuthWorld Token ω :=
    { w.moveTo caller (.returned (.error (.http 401 "Invalid email or password"))) with
      audit := if audited then loginFailedAudit (lowerEmail env email) :: w.audit else w.audit }

/-- Where a token comes from, and when it was minted. -/
def origin (token : Token) : Session × Instant :=
  match w.issued.find? fun i => i.token = token with
  | none => (.stranger, w.users.now)
  | some i => (i.session, i.mintedAt)

/-- `refresh`, to the decoding of the token. -/
def refresh (caller : ω) (token : Token) : AuthWorld Token ω :=
  match decodeToken env.jwt env.py env.cfg w.users.now token .refresh with
  | .error .expired => w.moveTo caller (.returned (.error (.http 401 "Refresh token expired")))
  | .error .invalid => w.moveTo caller (.returned (.error (.http 401 "Invalid refresh token")))
  | .error .raised => w.moveTo caller (.returned (.error serverError))
  | .ok payload =>
    let (parent, mintedAt) := w.origin token
    w.moveTo caller (.fetching parent mintedAt w.users.now payload.sub)

/-- A token that is minted now. -/
def mint (type : TokenType) (session : Session) (read : RowRead) : Minted Token :=
  ⟨env.jwt.encode (type.claims env.cfg w.users.now read.value) env.cfg.jwtSecret
    env.cfg.jwtAlgorithm, type, read, w.users.now, session⟩

/-- The answer to a request, from its two tokens. -/
def tokenPair (access refresh : Minted Token) : TokenPair Token :=
  ⟨access.token, refresh.token, "bearer", env.cfg.accessTokenTtlMinutes * 60⟩

/-- **The next command of a handler.** -/
def resume (caller : ω) (committed : Bool) : AuthWorld Token ω :=
  match w.calls caller with
  | .recording password read =>
    if committed then
      { w.moveTo caller (.minting (.login password read) read) with
        users := w.users.commit (w.users.current.recordLogin w.users.now read.value.id)
        audit := loginAudit read.value :: w.audit }
    else w.moveTo caller (.returned (.error serverError))
  | .fetching parent mintedAt presentedAt sub =>
    match w.users.current.byId sub with
    | some r =>
      if r.isActive then
        w.moveTo caller
          (.minting (.refresh parent mintedAt presentedAt ⟨r, w.users.now⟩) ⟨r, w.users.now⟩)
      else w.moveTo caller (.returned (.error (.http 401 "User no longer active")))
    | none => w.moveTo caller (.returned (.error (.http 401 "User no longer active")))
  | .minting session read =>
    w.moveTo caller (.mintingRefresh session (w.mint env .access session read))
  | .mintingRefresh session access =>
    let refresh := w.mint env .refresh session access.read
    { w.moveTo caller (.returned (.ok (tokenPair env access refresh))) with
      issued := access :: refresh :: w.issued }
  | .idle | .returned _ => w

/-- **One event.** A body arrives once for each request. -/
def step (w : AuthWorld Token ω) : AuthEvent Token ω → AuthWorld Token ω
  | .tick elapsed => { w with users := w.users.advance (w.users.now + elapsed) }
  | .edit users => { w with users := w.users.commit users }
  | .login caller email password audited =>
    match w.calls caller with
    | .idle => w.login env caller email password audited
    | _ => w
  | .refresh caller token =>
    match w.calls caller with
    | .idle => w.refresh env caller token
    | _ => w
  | .resume caller committed => w.resume env caller committed

/-- Nothing has been asked for. -/
def start (now : Instant) (users : Users) : AuthWorld Token ω :=
  ⟨Timeline.start now users, [], fun _ => .idle, []⟩

/-- A token that no one can decode with the secret. -/
def Undecodable (token : Token) : Prop :=
  ∀ now, ∃ e, env.jwt.decode now token env.cfg.jwtSecret env.cfg.jwtAlgorithm = .error e

/-- A token that was handed out, or that does not decode. -/
def Presentable (token : Token) : Prop :=
  (∃ i ∈ w.issued, i.token = token) ∨ Undecodable env token

/-- **No forgeries**: the secret stays secret. -/
def Unforged (w : AuthWorld Token ω) : AuthEvent Token ω → Prop
  | .refresh _ token => w.Presentable env token
  | _ => True

end Steps

end AuthWorld

/-! ### What a session goes back to -/

variable {Token ω : Type}

/-- The row was there, and the user active. -/
def Users.ShowsActive (t : Users) (r : UserRow) : Prop := r ∈ t.rows ∧ r.isActive = true

/-- **A valid session**: a login with the password of an active user, which is in the audit log, or
the refresh of a valid session of the same user, with a token that had not expired, that found the
user active. -/
def Session.Valid (env : AuthEnv Token) (l : Timeline Users Instant) (audit : List AuthAudit) :
    Session → Prop
  | .stranger => False
  | .login password read =>
    read.Genuine Users.ShowsActive l ∧
      verifyPassword env.bcrypt password read.value.passwordHash = true ∧
      loginAudit read.value ∈ audit
  | .refresh parent mintedAt presentedAt read =>
    parent.Valid env l audit ∧ read.Genuine Users.ShowsActive l ∧
      (∃ before, parent.read = some before ∧ before.readAt ≤ mintedAt ∧
        before.value.id = read.value.id) ∧
      mintedAt ≤ presentedAt ∧ presentedAt < env.cfg.expiry .refresh mintedAt ∧
      presentedAt ≤ read.readAt

/-- **What is behind a token.** -/
structure Minted.Sound (env : AuthEnv Token) (l : Timeline Users Instant) (audit : List AuthAudit)
    (i : Minted Token) : Prop where
  token_eq : i.token = env.jwt.encode (i.type.claims env.cfg i.mintedAt i.read.value)
    env.cfg.jwtSecret env.cfg.jwtAlgorithm
  session : i.session.Valid env l audit
  read : i.session.read = some i.read
  readAt_le : i.read.readAt ≤ i.mintedAt
  mintedAt_le : i.mintedAt ≤ l.now

/-- **What is behind a request.** -/
def AuthCall.Sound (env : AuthEnv Token) (l : Timeline Users Instant) (audit : List AuthAudit) :
    AuthCall Token → Prop
  | .idle => True
  | .recording password read => read.Genuine Users.ShowsActive l ∧
      verifyPassword env.bcrypt password read.value.passwordHash = true
  | .fetching parent mintedAt presentedAt sub => parent.Valid env l audit ∧
      (∃ before, parent.read = some before ∧ before.readAt ≤ mintedAt ∧
        (before.value.id : ℤ) = sub) ∧
      mintedAt ≤ presentedAt ∧ presentedAt < env.cfg.expiry .refresh mintedAt ∧
      presentedAt ≤ l.now
  | .minting session read => session.Valid env l audit ∧ session.read = some read
  | .mintingRefresh session access => access.Sound env l audit ∧ access.session = session ∧
      access.type = .access
  | .returned _ => True

section Mono

variable {env : AuthEnv Token} {l l' : Timeline Users Instant} {audit audit' : List AuthAudit}

/-- What is behind a session stays there. -/
theorem Session.Valid.mono (hl : ∀ t a, l.HeldAt t a → l'.HeldAt t a) (ha : audit ⊆ audit') :
    ∀ {session : Session}, session.Valid env l audit → session.Valid env l' audit'
  | .stranger, h => h
  | .login _ _, ⟨hread, hverify, haudit⟩ => ⟨hread.mono hl, hverify, ha haudit⟩
  | .refresh _ _ _ _, ⟨hparent, hread, h⟩ => ⟨hparent.mono hl ha, hread.mono hl, h⟩

theorem Session.Valid.genuine {session : Session} {read : RowRead}
    (h : session.Valid env l audit) (hread : session.read = some read) :
    read.Genuine Users.ShowsActive l := by
  cases session with
  | stranger => exact h.elim
  | login password r =>
    obtain rfl := Option.some.inj hread
    exact h.1
  | refresh parent mintedAt presentedAt r =>
    obtain rfl := Option.some.inj hread
    exact h.2.1

theorem Minted.Sound.mono {i : Minted Token} (h : i.Sound env l audit)
    (hl : ∀ t a, l.HeldAt t a → l'.HeldAt t a) (hnow : l.now ≤ l'.now) (ha : audit ⊆ audit') :
    i.Sound env l' audit' where
  token_eq := h.token_eq
  session := h.session.mono hl ha
  read := h.read
  readAt_le := h.readAt_le
  mintedAt_le := h.mintedAt_le.trans hnow

theorem AuthCall.Sound.mono {c : AuthCall Token} (h : c.Sound env l audit)
    (hl : ∀ t a, l.HeldAt t a → l'.HeldAt t a) (hnow : l.now ≤ l'.now) (ha : audit ⊆ audit') :
    c.Sound env l' audit' := by
  cases c with
  | idle => trivial
  | recording password read => exact ⟨h.1.mono hl, h.2⟩
  | fetching parent mintedAt presentedAt sub =>
    obtain ⟨hparent, hbefore, hminted, hexp, hpresented⟩ := h
    exact ⟨hparent.mono hl ha, hbefore, hminted, hexp, hpresented.trans hnow⟩
  | minting session read => exact ⟨h.1.mono hl ha, h.2⟩
  | mintingRefresh session access => exact ⟨h.1.mono hl hnow ha, h.2⟩
  | returned result => trivial

theorem Minted.Sound.genuine {i : Minted Token} (h : i.Sound env l audit) :
    i.read.Genuine Users.ShowsActive l := h.session.genuine h.read

/-- The id of a row that was read fits its column. -/
theorem Minted.Sound.id_lt {i : Minted Token} (h : i.Sound env l audit) :
    i.read.value.id < 2 ^ 63 := by
  obtain ⟨t, -, hmem, -⟩ := h.genuine
  exact t.id_lt _ hmem

/-- **What the code makes of a token that it handed out.** -/
theorem Minted.Sound.decodeToken_eq_ok {i : Minted Token} (h : i.Sound env l audit)
    (hjwt : env.jwt.Documented) {expected : TokenType} {p : TokenPayload}
    (hp : decodeToken env.jwt env.py env.cfg l.now i.token expected = .ok p) :
    i.type = expected ∧ l.now < env.cfg.expiry i.type i.mintedAt ∧ p.sub = i.read.value.id := by
  obtain ⟨q, hsub, -, hdecode⟩ :=
    decodeToken_minted env.py env.cfg i.type expected i.mintedAt hjwt h.id_lt h.mintedAt_le
  rw [h.token_eq, hdecode] at hp
  split_ifs at hp with hexp htype
  obtain rfl := Except.ok.inj hp
  exact ⟨htype, not_le.mp hexp, hsub⟩

end Mono

namespace AuthWorld

variable {env : AuthEnv Token} {w : AuthWorld Token ω}

/-- **What is behind the tokens and the requests.** -/
structure Sound (env : AuthEnv Token) (w : AuthWorld Token ω) : Prop where
  issued : ∀ i ∈ w.issued, i.Sound env w.users w.audit
  calls : ∀ caller, (w.calls caller).Sound env w.users w.audit

theorem sound_start (now : Instant) (users : Users) :
    Sound env (start now users : AuthWorld Token ω) where
  issued _ h := absurd h List.not_mem_nil
  calls _ := trivial

/-- Time passes, the table changes, and rows are added to the audit log. -/
theorem Sound.grow (h : Sound env w) {l : Timeline Users Instant} {audit : List AuthAudit}
    (hl : ∀ t a, w.users.HeldAt t a → l.HeldAt t a) (hnow : w.users.now ≤ l.now)
    (ha : w.audit ⊆ audit) : Sound env { w with users := l, audit := audit } where
  issued i hi := (h.issued i hi).mono hl hnow ha
  calls caller := (h.calls caller).mono hl hnow ha

variable [DecidableEq ω]

/-- A request moves on. -/
theorem Sound.moveTo (h : Sound env w) (caller : ω) {c : AuthCall Token}
    (hc : c.Sound env w.users w.audit) : Sound env (w.moveTo caller c) where
  issued := h.issued
  calls other := by
    change (Function.update w.calls caller c other).Sound env w.users w.audit
    by_cases hother : other = caller
    · rw [hother, Function.update_self]
      exact hc
    · rw [Function.update_of_ne hother]
      exact h.calls other

theorem sound_refuse (h : Sound env w) (caller : ω) (email : String) (audited : Bool) :
    Sound env (login.refuse env caller email audited w) := by
  rw [login.refuse]
  refine Sound.grow (h.moveTo caller (c := .returned _) trivial)
    (fun _ _ => id) le_rfl ?_
  split
  · exact List.subset_cons_self ..
  · exact List.Subset.refl _

theorem sound_login (h : Sound env w) (caller : ω) (email : String) (password : Text)
    (audited : Bool) : Sound env (w.login env caller email password audited) := by
  rw [login]
  split
  next r hr =>
    split_ifs with hverify
    · rw [Bool.and_eq_true] at hverify
      exact h.moveTo _ ⟨Copy.genuine_now ⟨(Users.mem_of_byEmail hr).1, hverify.1⟩, hverify.2⟩
    · exact sound_refuse h caller email audited
  · exact sound_refuse h caller email audited

variable [DecidableEq Token]

omit [DecidableEq ω] in
/-- A token that was handed out is found with what is behind it. -/
theorem origin_of_mem {token : Token} (h : ∃ i ∈ w.issued, i.token = token) :
    ∃ i ∈ w.issued, i.token = token ∧ w.origin token = (i.session, i.mintedAt) := by
  obtain ⟨j, hj, htoken⟩ := h
  have hsome : (w.issued.find? fun i => i.token = token).isSome :=
    List.find?_isSome.mpr ⟨j, hj, decide_eq_true htoken⟩
  obtain ⟨i, hi⟩ := Option.isSome_iff_exists.mp hsome
  have hfound := List.find?_some hi
  exact ⟨i, List.mem_of_find?_eq_some hi, of_decide_eq_true hfound, by rw [origin, hi]⟩

theorem sound_refresh (hjwt : env.jwt.Documented) (h : Sound env w) (caller : ω) {token : Token}
    (hpresent : w.Presentable env token) : Sound env (w.refresh env caller token) := by
  rw [refresh]
  split
  · exact h.moveTo _ trivial
  · exact h.moveTo _ trivial
  · exact h.moveTo _ trivial
  next p hp =>
    rcases hpresent with hissued | hundecodable
    · obtain ⟨i, hi, rfl, horigin⟩ := origin_of_mem hissued
      have hsound := h.issued i hi
      obtain ⟨htype, hexp, hsub⟩ := hsound.decodeToken_eq_ok hjwt hp
      rw [horigin]
      rw [htype] at hexp
      exact h.moveTo _ ⟨hsound.session, ⟨i.read, hsound.read, hsound.readAt_le, hsub.symm⟩,
        hsound.mintedAt_le, hexp, le_rfl⟩
    · -- no one can decode it
      obtain ⟨e, he⟩ := hundecodable w.users.now
      rw [decodeToken, he] at hp
      cases hp

omit [DecidableEq Token] [DecidableEq ω] in
/-- A token that is minted for a valid session. -/
theorem sound_mint (type : TokenType) {session : Session} {read : RowRead}
    (hvalid : session.Valid env w.users w.audit) (hread : session.read = some read) :
    (w.mint env type session read).Sound env w.users w.audit where
  token_eq := rfl
  session := hvalid
  read := hread
  readAt_le := (hvalid.genuine hread).readAt_le
  mintedAt_le := le_rfl

omit [DecidableEq Token] in
theorem sound_resume (h : Sound env w) (caller : ω) (committed : Bool) :
    Sound env (w.resume env caller committed) := by
  have hcall := h.calls caller
  rw [resume]
  split
  next password read heq =>
    rw [heq] at hcall
    split_ifs
    · -- the audit row of the login is there when its tokens are minted
      have hl : ∀ t a, w.users.HeldAt t a →
          (w.users.commit (w.users.current.recordLogin w.users.now read.value.id)).HeldAt t a :=
        fun t a ha => ha.commit _
      refine Sound.moveTo (w := { w with
        users := w.users.commit (w.users.current.recordLogin w.users.now read.value.id)
        audit := loginAudit read.value :: w.audit })
        (h.grow hl le_rfl (List.subset_cons_self ..)) _ ⟨?_, rfl⟩
      exact ⟨hcall.1.mono hl, hcall.2, List.mem_cons_self⟩
    · exact h.moveTo _ trivial
  next parent mintedAt presentedAt sub heq =>
    rw [heq] at hcall
    obtain ⟨hparent, ⟨before, hbefore, hle, hid⟩, hminted, hexp, hpresented⟩ := hcall
    split
    next r hr =>
      obtain ⟨hmem, hsub⟩ := Users.mem_of_byId hr
      split_ifs with hactive
      · have hsame : before.value.id = r.id := by
          rw [← hsub] at hid
          exact_mod_cast hid
        exact h.moveTo _ ⟨⟨hparent, Copy.genuine_now ⟨hmem, hactive⟩, ⟨before, hbefore, hle, hsame⟩,
          hminted, hexp, hpresented⟩, rfl⟩
      · exact h.moveTo _ trivial
    · exact h.moveTo _ trivial
  next session read heq =>
    rw [heq] at hcall
    exact h.moveTo _ ⟨sound_mint .access hcall.1 hcall.2, rfl, rfl⟩
  next session access heq =>
    rw [heq] at hcall
    obtain ⟨haccess, rfl, -⟩ := hcall
    refine ⟨?_, (h.moveTo caller (c := .returned _) trivial).calls⟩
    intro i hi
    rcases List.mem_cons.mp hi with rfl | hi
    · exact haccess
    rcases List.mem_cons.mp hi with rfl | hi
    · exact sound_mint .refresh haccess.session haccess.read
    · exact h.issued i hi
  · exact h
  · exact h

/-- **No event puts anything unfounded into the world**, if it presents no forgery. -/
theorem sound_step (hjwt : env.jwt.Documented) (h : Sound env w) {e : AuthEvent Token ω}
    (he : Unforged env w e) : Sound env (step env w e) := by
  cases e with
  | tick elapsed =>
    exact h.grow (fun _ _ ha => ha.advance _) (le_max_left ..) (List.Subset.refl _)
  | edit users => exact h.grow (fun _ _ ha => ha.commit _) le_rfl (List.Subset.refl _)
  | login caller email password audited =>
    rw [step]
    split
    · exact sound_login h caller email password audited
    · exact h
  | refresh caller token =>
    rw [step]
    split
    · exact sound_refresh hjwt h caller he
    · exact h
  | resume caller committed => exact sound_resume h caller committed

open Trajectory

/-- **What is behind the tokens, in every state that is reached.** -/
theorem sound_run (hjwt : env.jwt.Documented) {now : Instant} {users : Users}
    {l : List (AuthEvent Token ω)}
    (hl : AllSteps (step env) (Unforged env) (start now users) l) :
    Sound env (run (step env) (start now users) l) := by
  have hstep : ∀ (w : AuthWorld Token ω) e, Sound env w → Unforged env w e →
      Sound env (step env w e) := fun _ _ h he => sound_step hjwt h he
  exact (throughout_of_allSteps (I := Sound env) hstep (sound_start now users) hl).last

end AuthWorld

/-! ### What the tokens are good for -/

/-- The default settings, and libraries that hide nothing. -/
def AuthEnv.shown : AuthEnv (Claims × Text × Text) :=
  ⟨.shown, .plain, .ascii, ⟨"dev-secret".toList, "HS256".toList, 60, 7⟩⟩

/-- A row of an analyst. -/
def UserRow.alice : UserRow := ⟨1, "alice@example.com", "hunter2".toList, .analyst, true, none⟩

/-- A row of a user who is no longer active. -/
def UserRow.formerAlice : UserRow :=
  ⟨1, "alice@example.com", "hunter2".toList, .analyst, false, none⟩

theorem UserRow.id_alice_lt : UserRow.alice.id < 2 ^ 63 := by decide

theorem UserRow.id_formerAlice_lt : UserRow.formerAlice.id < 2 ^ 63 := by decide

/-- A table with one row. -/
def Users.single (r : UserRow) (h : r.id < 2 ^ 63) : Users where
  rows := [r]
  nodup_id := List.nodup_singleton _
  nodup_email := List.nodup_singleton _
  id_lt _ hq := List.mem_singleton.mp hq ▸ h

/-- The table of an analyst. -/
def Users.ofAlice : Users := .single .alice UserRow.id_alice_lt

/-- The table of a former analyst. -/
def Users.ofFormerAlice : Users := .single .formerAlice UserRow.id_formerAlice_lt

namespace AuthWorld

/-- The commands of a login. -/
def aliceLogin : List (AuthEvent (Claims × Text × Text) Unit) :=
  [.login () "Alice@example.com" "hunter2".toList true, .resume () true, .resume () true,
    .resume () true]

/-- The token for access that the login is answered with. -/
def aliceToken : Claims × Text × Text :=
  (accessClaims AuthEnv.shown.cfg 0 1 "alice@example.com" "analyst", "dev-secret".toList,
    "HS256".toList)

section Results

open Trajectory

variable [DecidableEq Token] [DecidableEq ω] {env : AuthEnv Token} {w : AuthWorld Token ω}
  {now : Instant} {users : Users} {l : List (AuthEvent Token ω)} {scheme : Text}
  {token : Token} {allowed : List String} {u : AuthUser}

omit [DecidableEq Token] [DecidableEq ω] in
/-- What no one can decode passes nowhere. -/
theorem authorize_of_undecodable (h : Undecodable env token) :
    authorize env.jwt env.py env.cfg now (some ⟨scheme, token⟩) allowed ≠ .ok u := by
  intro hok
  obtain ⟨user, huser, -⟩ := bind_eq_ok_iff.mp hok
  obtain ⟨e, he⟩ := h now
  rw [getCurrentUser, decodeToken, he] at huser
  by_cases hscheme : env.py.lower scheme = "bearer".toList
  · rw [if_neg (not_not.mpr hscheme)] at huser
    cases e <;> cases huser
  · rw [if_pos hscheme] at huser
    cases huser

omit [DecidableEq Token] [DecidableEq ω] in
/-- What a route makes of a token, where everything is founded. -/
theorem Sound.authorize_ok_iff (hjwt : env.jwt.Documented) (h : Sound env w)
    (hpresent : w.Presentable env token) :
    authorize env.jwt env.py env.cfg w.users.now (some ⟨scheme, token⟩) allowed = .ok u ↔
      ∃ i ∈ w.issued, i.token = token ∧ env.py.lower scheme = "bearer".toList ∧
        i.type = .access ∧ w.users.now < env.cfg.expiry .access i.mintedAt ∧
        u = i.read.value.authUser ∧
        (i.read.value.role = .admin ∨ i.read.value.role.text ∈ allowed) := by
  have hminted : ∀ i ∈ w.issued, i.token = token →
      (authorize env.jwt env.py env.cfg w.users.now (some ⟨scheme, token⟩) allowed = .ok u ↔
        env.py.lower scheme = "bearer".toList ∧ i.type = .access ∧
        w.users.now < env.cfg.expiry .access i.mintedAt ∧ u = i.read.value.authUser ∧
        (i.read.value.role = .admin ∨ i.read.value.role.text ∈ allowed)) := by
    rintro i hi rfl
    have hsound := h.issued i hi
    have hiff := authorize_minted env.py env.cfg i.type i.mintedAt hjwt hsound.id_lt
      hsound.mintedAt_le scheme allowed u
    rw [← hsound.token_eq] at hiff
    rw [hiff]
    refine and_congr_right fun _ => and_congr_right fun htype => ?_
    rw [htype]
  constructor
  · intro hok
    rcases hpresent with ⟨i, hi, htoken⟩ | hundecodable
    · exact ⟨i, hi, htoken, (hminted i hi htoken).mp hok⟩
    · exact absurd hok (authorize_of_undecodable hundecodable)
  · rintro ⟨i, hi, htoken, h⟩
    exact (hminted i hi htoken).mpr h

/-- **What a route accepts**, in every state that is reached: the access tokens that were handed out
and have not expired, for the user and the role of a row that was active when it was read, and
whatever the table says by now. -/
theorem authorize_iff (hjwt : env.jwt.Documented)
    (hl : AllSteps (step env) (Unforged env) (start now users) l)
    (hpresent : (run (step env) (start now users) l).Presentable env token) :
    authorize env.jwt env.py env.cfg (run (step env) (start now users) l).users.now
        (some ⟨scheme, token⟩) allowed = .ok u ↔
      ∃ i ∈ (run (step env) (start now users) l).issued, i.token = token ∧
        env.py.lower scheme = "bearer".toList ∧ i.type = .access ∧
        (run (step env) (start now users) l).users.now < env.cfg.expiry .access i.mintedAt ∧
        u = i.read.value.authUser ∧
        (i.read.value.role = .admin ∨ i.read.value.role.text ∈ allowed) ∧
        i.read.Genuine Users.ShowsActive (run (step env) (start now users) l).users ∧
        i.read.readAt ≤ i.mintedAt := by
  have hsound := sound_run hjwt hl
  rw [hsound.authorize_ok_iff hjwt hpresent]
  constructor
  · rintro ⟨i, hi, htoken, hscheme, htype, hexp, hu, hgate⟩
    exact ⟨i, hi, htoken, hscheme, htype, hexp, hu, hgate, (hsound.issued i hi).genuine,
      (hsound.issued i hi).readAt_le⟩
  · rintro ⟨i, hi, htoken, hscheme, htype, hexp, hu, hgate, -, -⟩
    exact ⟨i, hi, htoken, hscheme, htype, hexp, hu, hgate⟩

/-- The token of a login passes. -/
theorem authorize_alice : authorize .shown .ascii AuthEnv.shown.cfg 0
    (some ⟨"Bearer".toList, aliceToken⟩) ["analyst"] =
      .ok ⟨1, "alice@example.com", "analyst"⟩ := by
  have hl : AllSteps (step .shown) (Unforged .shown) (start 0 .ofAlice) aliceLogin :=
    ⟨trivial, trivial, trivial, trivial, trivial⟩
  have hpresent : (run (step .shown) (start 0 .ofAlice) aliceLogin).Presentable .shown
      aliceToken := .inl ⟨_, List.mem_cons_self, rfl⟩
  refine (authorize_iff Jwt.documented_shown hl hpresent).mpr
    ⟨_, List.mem_cons_self, rfl, rfl, rfl, by decide, rfl, .inr (by decide), ?_, le_rfl⟩
  exact ⟨.ofAlice, .inr ⟨_, List.mem_cons_self, rfl, le_rfl, le_rfl⟩, List.mem_cons_self, rfl⟩

/-- **What becomes of a user takes effect in bounded time**: where after some point in time no
active row of a user has a role that a route admits, the route refuses the user from a lifetime of
an access token later on, if no handler takes longer than `delay` from its query to its first
token. -/
theorem revoked (hjwt : env.jwt.Documented)
    (hl : AllSteps (step env) (Unforged env) (start now users) l)
    (hpresent : (run (step env) (start now users) l).Presentable env token)
    {id : ℕ} {since delay : Instant}
    (hafter : (run (step env) (start now users) l).users.After since fun t =>
      ∀ r ∈ t.rows, r.id = id → r.isActive = true → r.role ≠ .admin ∧ r.role.text ∉ allowed)
    (hdelay : ∀ i ∈ (run (step env) (start now users) l).issued,
      i.mintedAt ≤ i.read.readAt + delay)
    (hok : authorize env.jwt env.py env.cfg (run (step env) (start now users) l).users.now
        (some ⟨scheme, token⟩) allowed = .ok u) (hid : u.id = id) :
    (run (step env) (start now users) l).users.now < since + (delay + env.cfg.accessTtl) := by
  have hsound := sound_run hjwt hl
  obtain ⟨i, hi, -, -, -, hexp, rfl, hgate⟩ := (hsound.authorize_ok_iff hjwt hpresent).mp hok
  have hshown : (run (step env) (start now users) l).users.After since fun t =>
      ∀ r, t.ShowsActive r → r.id = id → r.role ≠ .admin ∧ r.role.text ∉ allowed := by
    intro t users ht hheld r hr hrid
    exact hafter t users ht hheld r hr.1 hrid hr.2
  refine hshown.lt_of_genuine (hsound.issued i hi).genuine (fun h => ?_) ?_
  · obtain ⟨hadmin, hmem⟩ := h hid
    exact hgate.elim hadmin hmem
  · calc (run (step env) (start now users) l).users.now
        < env.cfg.expiry .access i.mintedAt := hexp
      _ ≤ i.mintedAt + env.cfg.accessTtl := (env.cfg.expiry_bounds .access i.mintedAt).1
      _ ≤ i.read.readAt + delay + env.cfg.accessTtl :=
          add_le_add_left (hdelay i hi) env.cfg.accessTtl
      _ = i.read.readAt + (delay + env.cfg.accessTtl) := add_assoc ..

/-- The commands of a login, and ten minutes after the user was deactivated. -/
def formerAlice : List (AuthEvent (Claims × Text × Text) Unit) :=
  aliceLogin ++ [.edit .ofFormerAlice, .tick 600000000]

/-- Ten minutes after the user was deactivated the token still passes. -/
theorem revoked_alice : (600000000 : Instant) < 0 + (0 + AuthEnv.shown.cfg.accessTtl) := by
  have hl : AllSteps (step .shown) (Unforged .shown) (start 0 .ofAlice) formerAlice :=
    ⟨trivial, trivial, trivial, trivial, trivial, trivial, trivial⟩
  have hpresent : (run (step .shown) (start 0 .ofAlice) formerAlice).Presentable .shown
      aliceToken := .inl ⟨_, List.mem_cons_self, rfl⟩
  have hafter : (run (step .shown) (start 0 .ofAlice) formerAlice).users.After 0 fun t =>
      ∀ r ∈ t.rows, r.id = 1 → r.isActive = true → r.role ≠ .admin ∧
        r.role.text ∉ ["analyst"] := by
    have hformer : ∀ r ∈ Users.ofFormerAlice.rows, r.id = 1 → r.isActive = true →
        r.role ≠ .admin ∧ r.role.text ∉ ["analyst"] := by
      intro r hr _ hactive
      obtain rfl := List.mem_singleton.mp hr
      cases hactive
    exact (after_commit hformer).advance hformer _
  have hdelay : ∀ i ∈ (run (step .shown) (start 0 .ofAlice) formerAlice).issued,
      i.mintedAt ≤ i.read.readAt + 0 := by
    intro i hi
    rcases List.mem_cons.mp hi with rfl | hi
    · exact le_rfl
    · obtain rfl := List.mem_singleton.mp hi
      exact le_rfl
  have hok : authorize .shown .ascii AuthEnv.shown.cfg
      (run (step .shown) (start 0 .ofAlice) formerAlice).users.now
      (some ⟨"Bearer".toList, aliceToken⟩) ["analyst"] =
        .ok ⟨1, "alice@example.com", "analyst"⟩ := rfl
  exact revoked Jwt.documented_shown hl hpresent hafter hdelay hok rfl

/-- **Every token goes back to a login** with the password of its user, by refreshes in time. -/
theorem sessions_valid (hjwt : env.jwt.Documented)
    (hl : AllSteps (step env) (Unforged env) (start now users) l) :
    ∀ i ∈ (run (step env) (start now users) l).issued,
      i.session.read = some i.read ∧
        i.session.Valid env (run (step env) (start now users) l).users
          (run (step env) (start now users) l).audit :=
  fun i hi => ⟨((sound_run hjwt hl).issued i hi).read, ((sound_run hjwt hl).issued i hi).session⟩

/-- The commands of a login, and those of a refresh of its tokens in another request. -/
def aliceRefresh : List (AuthEvent (Claims × Text × Text) Bool) :=
  [.login true "Alice@example.com" "hunter2".toList true, .resume true true, .resume true true,
    .resume true true,
    .refresh false (refreshClaims AuthEnv.shown.cfg 0 1, "dev-secret".toList, "HS256".toList),
    .resume false true, .resume false true, .resume false true]

/-- The session of a token that a refresh was answered with. -/
theorem session_valid_alice :
    (Session.refresh (.login "hunter2".toList ⟨.alice, 0⟩) 0 0
      ⟨⟨1, "alice@example.com", "hunter2".toList, .analyst, true, some 0⟩, 0⟩).Valid .shown
        (run (step .shown) (start 0 .ofAlice) aliceRefresh).users
        (run (step .shown) (start 0 .ofAlice) aliceRefresh).audit := by
  have hl : AllSteps (step .shown) (Unforged .shown) (start 0 .ofAlice) aliceRefresh :=
    ⟨trivial, trivial, trivial, trivial, .inl ⟨_, List.mem_cons_of_mem _ List.mem_cons_self, rfl⟩,
      trivial, trivial, trivial, trivial⟩
  exact (sessions_valid Jwt.documented_shown hl _ List.mem_cons_self).2

/-! ### What a refresh picks up -/

/-- The commands of a refresh that nothing comes between. -/
def refreshCommands (caller : ω) (token : Token) : List (AuthEvent Token ω) :=
  [.refresh caller token, .resume caller true, .resume caller true, .resume caller true]

omit [DecidableEq Token] in
@[simp] theorem calls_moveTo {caller : ω} {c : AuthCall Token} :
    (w.moveTo caller c).calls caller = c := Function.update_self ..

/-- Minting for a request, with nothing in between. -/
theorem run_minting {caller : ω} {session : Session} {read : RowRead} :
    (run (step env) (w.moveTo caller (.minting session read))
        [.resume caller true, .resume caller true]).calls caller =
      .returned (.ok (tokenPair env (w.mint env .access session read)
        (w.mint env .refresh session read))) := by
  have hfirst : (w.moveTo caller (.minting session read)).resume env caller true =
      (w.moveTo caller (.minting session read)).moveTo caller
        (.mintingRefresh session (w.mint env .access session read)) := by
    rw [resume, calls_moveTo]
    rfl
  rw [run_cons, run_cons, run_nil, step, step, hfirst, resume, calls_moveTo]
  exact calls_moveTo

/-- A request that is answered stays so. -/
theorem run_returned {caller : ω} {result : Except ApiError (TokenPair Token)} :
    (run (step env) (w.moveTo caller (.returned result))
        [.resume caller true, .resume caller true]).calls caller = .returned result := by
  have hsame : (w.moveTo caller (.returned result)).resume env caller true =
      w.moveTo caller (.returned result) := by
    rw [resume, calls_moveTo]
  rw [run_cons, run_cons, run_nil, step, step, hsame, hsame, calls_moveTo]

/-- **A refresh picks up what the table says**: a token for refreshes that was handed out and has
not expired is answered with tokens for what the row of its user says now, if the user is active,
and with 401 otherwise. -/
theorem refresh_current (hjwt : env.jwt.Documented)
    (hl : AllSteps (step env) (Unforged env) (start now users) l) {caller : ω}
    (hidle : (run (step env) (start now users) l).calls caller = .idle) {i : Minted Token}
    (hi : i ∈ (run (step env) (start now users) l).issued) (htype : i.type = .refresh)
    (hexp : (run (step env) (start now users) l).users.now <
      env.cfg.expiry .refresh i.mintedAt) :
    (∀ r, (run (step env) (start now users) l).users.current.byId i.read.value.id = some r →
      r.isActive = true → ∃ pair,
        (run (step env) (run (step env) (start now users) l)
          (refreshCommands caller i.token)).calls caller = .returned (.ok pair) ∧
        ∀ scheme allowed u,
          authorize env.jwt env.py env.cfg (run (step env) (start now users) l).users.now
              (some ⟨scheme, pair.accessToken⟩) allowed = .ok u ↔
            env.py.lower scheme = "bearer".toList ∧
              (run (step env) (start now users) l).users.now < env.cfg.expiry .access
                (run (step env) (start now users) l).users.now ∧
              u = r.authUser ∧ (r.role = .admin ∨ r.role.text ∈ allowed)) ∧
    ((∀ r, (run (step env) (start now users) l).users.current.byId i.read.value.id = some r →
      r.isActive = false) →
        (run (step env) (run (step env) (start now users) l)
          (refreshCommands caller i.token)).calls caller =
            .returned (.error (.http 401 "User no longer active"))) := by
  have hsound := sound_run hjwt hl
  generalize run (step env) (start now users) l = w at *
  -- the token decodes, and what is read of it is the id of its user
  obtain ⟨p, hsub, -, hdecode⟩ := decodeToken_minted env.py env.cfg i.type .refresh i.mintedAt
    hjwt (hsound.issued i hi).id_lt (hsound.issued i hi).mintedAt_le
  rw [← (hsound.issued i hi).token_eq, htype, if_neg (not_le.mpr hexp), if_pos rfl] at hdecode
  obtain ⟨parent, mintedAt, hfetch⟩ : ∃ parent mintedAt, step env w (.refresh caller i.token) =
      w.moveTo caller (.fetching parent mintedAt w.users.now i.read.value.id) := by
    refine ⟨(w.origin i.token).1, (w.origin i.token).2, ?_⟩
    rw [step, hidle]
    simp only [refresh, hdecode, hsub]
  rw [refreshCommands, run_cons, hfetch, run_cons, step, resume, calls_moveTo]
  constructor
  · intro r hr hactive
    have hr' : (w.moveTo caller
        (.fetching parent mintedAt w.users.now i.read.value.id)).users.current.byId
          i.read.value.id = some r := hr
    simp only [hr', hactive, if_true]
    refine ⟨_, run_minting, fun scheme allowed u => ?_⟩
    have hid : r.id < 2 ^ 63 := w.users.current.id_lt r (Users.mem_of_byId hr).1
    have hiff := authorize_minted env.py env.cfg .access w.users.now hjwt hid le_rfl scheme
      allowed u
    rw [eq_self_iff_true, true_and] at hiff
    exact hiff
  · intro hnone
    cases hr : w.users.current.byId i.read.value.id with
    | none =>
      have hr' : (w.moveTo caller
          (.fetching parent mintedAt w.users.now i.read.value.id)).users.current.byId
            i.read.value.id = none := hr
      simp only [hr']
      exact run_returned
    | some r =>
      have hr' : (w.moveTo caller
          (.fetching parent mintedAt w.users.now i.read.value.id)).users.current.byId
            i.read.value.id = some r := hr
      simp only [hr', hnone r hr, Bool.false_eq_true, if_false]
      exact run_returned

/-- The answer to the first refresh after the user was deactivated. -/
theorem refresh_alice :
    (run (step .shown) (run (step .shown) (start 0 .ofAlice)
        [.login true "Alice@example.com" "hunter2".toList true, .resume true true,
          .resume true true, .resume true true, .edit .ofFormerAlice])
      (refreshCommands false
        (refreshClaims AuthEnv.shown.cfg 0 1, "dev-secret".toList, "HS256".toList))).calls false =
          .returned (.error (.http 401 "User no longer active")) := by
  have hl : AllSteps (step .shown) (Unforged .shown) (start 0 .ofAlice)
      [.login true "Alice@example.com" "hunter2".toList true, .resume true true,
        .resume true true, .resume true true, .edit .ofFormerAlice] :=
    ⟨trivial, trivial, trivial, trivial, trivial, trivial⟩
  refine (refresh_current Jwt.documented_shown hl rfl
    (List.mem_cons_of_mem _ List.mem_cons_self) rfl (by decide)).2 fun r hr => ?_
  obtain rfl := List.mem_singleton.mp (Users.mem_of_byId hr).1
  rfl

end Results

end AuthWorld

end CveManagement
