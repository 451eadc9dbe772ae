import CveManagement.Access.Tokens
import CveManagement.Library.Timeline
import CveManagement.Sync.Jobs

/-!
# Users, and the tokens that are minted for them

The table `users` of migration 0009, the two queries of `app/api/routers/auth.py`, and what a token
that was minted for a row is good for.

Whether a token passes depends on the claims in it and on the clock, and on nothing that the table
says by then (`CveManagement.authorize_minted`).
-/

namespace CveManagement

/-! ### The table -/

/-- The values of `users.role`. -/
inductive Role
  | admin
  | analyst
  | viewer
  deriving DecidableEq, Repr

/-- The text a role is stored as. -/
def Role.text : Role → String
  | .admin => "admin"
  | .analyst => "analyst"
  | .viewer => "viewer"

/-- A row of `users`. -/
structure UserRow where
  id : ℕ
  email : String
  passwordHash : Text
  role : Role
  isActive : Bool
  lastLoginAt : Option Instant
  deriving DecidableEq

/-- What a token says of the user. -/
def UserRow.authUser (r : UserRow) : AuthUser := ⟨r.id, r.email, r.role.text⟩

/-- **The table `users`**: a primary key of type `BIGINT`, and a unique email. -/
structure Users where
  rows : List UserRow
  nodup_id : (rows.map UserRow.id).Nodup
  nodup_email : (rows.map UserRow.email).Nodup
  id_lt : ∀ r ∈ rows, r.id < 2 ^ 63

namespace Users

/-- The table as the migration creates it. -/
def empty : Users := ⟨[], List.nodup_nil, List.nodup_nil, fun _ h => absurd h List.not_mem_nil⟩

variable (t : Users)

/-- The query of `login`. -/
def byEmail (email : String) : Option UserRow := t.rows.find? fun r => r.email == email

/-- The query of `refresh`. -/
def byId (id : ℤ) : Option UserRow := t.rows.find? fun r => (r.id : ℤ) == id

/-- `UPDATE users SET last_login_at = NOW()`. -/
def recordLogin (now : Instant) (id : ℕ) : Users where
  rows := t.rows.map fun r => if r.id = id then { r with lastLoginAt := some now } else r
  nodup_id := by
    rw [List.map_map]
    convert t.nodup_id using 2
    funext r
    dsimp only [Function.comp_apply]
    split_ifs <;> rfl
  nodup_email := by
    rw [List.map_map]
    convert t.nodup_email using 2
    funext r
    dsimp only [Function.comp_apply]
    split_ifs <;> rfl
  id_lt := by
    intro r hr
    obtain ⟨q, hq, rfl⟩ := List.mem_map.mp hr
    have := t.id_lt q hq
    split_ifs <;> exact this

variable {t} {r : UserRow}

theorem mem_of_byEmail {email : String} (h : t.byEmail email = some r) :
    r ∈ t.rows ∧ r.email = email :=
  ⟨List.mem_of_find?_eq_some h, by simpa using List.find?_some h⟩

theorem mem_of_byId {id : ℤ} (h : t.byId id = some r) : r ∈ t.rows ∧ (r.id : ℤ) = id :=
  ⟨List.mem_of_find?_eq_some h, by simpa using List.find?_some h⟩

end Users

/-! ### Minting for a row -/

/-- The claims that are minted for a row. -/
def TokenType.claims (type : TokenType) (cfg : TokenSettings) (mintedAt : Instant) (r : UserRow) :
    Claims :=
  match type with
  | .access => accessClaims cfg mintedAt r.id r.email r.role.text
  | .refresh => refreshClaims cfg mintedAt r.id

/-- The point in time from which a token is refused. -/
def TokenSettings.expiry (cfg : TokenSettings) (type : TokenType) (mintedAt : Instant) : Instant :=
  (mintedAt + cfg.ttl type).timestamp * 1000000

/-- **A token is good for its lifetime**, less what is rounded to the second. -/
theorem TokenSettings.expiry_bounds (cfg : TokenSettings) (type : TokenType) (mintedAt : Instant) :
    cfg.expiry type mintedAt ≤ mintedAt + cfg.ttl type ∧
      mintedAt + cfg.ttl type < cfg.expiry type mintedAt + 1000000 :=
  Instant.timestamp_bounds _

section Minted

variable {Token : Type} {jwt : Jwt Token} {py : PyText} {cfg : TokenSettings} {r : UserRow}
  {type expected : TokenType} {mintedAt now : Instant}

theorem validate_claims (hclock : mintedAt ≤ now) :
    (type.claims cfg mintedAt r).validate now =
      if cfg.expiry type mintedAt ≤ now then .error .expiredSignature
      else .ok (type.claims cfg mintedAt r) := by
  have hiat : ¬now < mintedAt.timestamp * 1000000 :=
    not_lt.mpr ((Instant.timestamp_bounds mintedAt).1.trans hclock)
  cases type with
  | access =>
    simp only [Claims.validate, TokenType.claims, accessClaims, Option.any_some, hiat,
      decide_false, Bool.false_eq_true, if_false, decide_eq_true_eq]
    rfl
  | refresh =>
    simp only [Claims.validate, TokenType.claims, refreshClaims, Option.any_some, hiat,
      decide_false, Bool.false_eq_true, if_false, decide_eq_true_eq]
    rfl

theorem type_claims : (type.claims cfg mintedAt r).type = some type.text := by
  cases type <;> rfl

variable (py cfg type mintedAt) in
/-- What `decode_token` reads in the claims for a row: who it is, and in a token for access what
the row said. -/
theorem payload_claims (hid : r.id < 2 ^ 63) : ∃ p,
    (type.claims cfg mintedAt r).payload py = .ok p ∧ p.sub = r.id ∧
      (type = .access → p.email = r.email ∧ p.role = r.role.text) := by
  have hint := py.int_toDigits hid
  cases type with
  | access =>
    refine ⟨⟨r.id, r.email, r.role.text, TokenType.access.text,
      (mintedAt + cfg.accessTtl).timestamp, mintedAt.timestamp⟩, ?_, rfl, fun _ => ⟨rfl, rfl⟩⟩
    simp [Claims.payload, TokenType.claims, accessClaims, hint]
  | refresh =>
    refine ⟨⟨r.id, "", "", TokenType.refresh.text, (mintedAt + cfg.refreshTtl).timestamp,
      mintedAt.timestamp⟩, ?_, rfl, fun h => absurd h (by decide)⟩
    simp [Claims.payload, TokenType.claims, refreshClaims, hint]

variable (py cfg type mintedAt expected) in
/-- **What `decode_token` makes of a token that was minted**: it passes, for its own type and before
it expires. -/
theorem decodeToken_minted (hjwt : jwt.Documented) (hid : r.id < 2 ^ 63)
    (hclock : mintedAt ≤ now) : ∃ p : TokenPayload,
    p.sub = r.id ∧ (type = .access → p.email = r.email ∧ p.role = r.role.text) ∧
      decodeToken jwt py cfg now
          (jwt.encode (type.claims cfg mintedAt r) cfg.jwtSecret cfg.jwtAlgorithm) expected =
        if cfg.expiry type mintedAt ≤ now then .error .expired
        else if type = expected then .ok p else .error .invalid := by
  obtain ⟨p, hp, hsub, hrow⟩ := payload_claims py cfg type mintedAt hid
  refine ⟨p, hsub, hrow, ?_⟩
  rw [decodeToken, hjwt, validate_claims hclock]
  by_cases hexp : cfg.expiry type mintedAt ≤ now
  · rw [if_pos hexp, if_pos hexp]
    rfl
  · rw [if_neg hexp, if_neg hexp]
    simp only [type_claims, ne_eq, Option.some.injEq, TokenType.text_inj, ite_not, hp]

variable (py cfg type mintedAt) in
/-- **What a route makes of a token that was minted.** -/
theorem authorize_minted (hjwt : jwt.Documented) (hid : r.id < 2 ^ 63) (hclock : mintedAt ≤ now)
    (scheme : Text) (allowed : List String) (u : AuthUser) :
    authorize jwt py cfg now
        (some ⟨scheme, jwt.encode (type.claims cfg mintedAt r) cfg.jwtSecret cfg.jwtAlgorithm⟩)
        allowed = .ok u ↔
      py.lower scheme = "bearer".toList ∧ type = .access ∧ now < cfg.expiry type mintedAt ∧
        u = r.authUser ∧ (r.role = .admin ∨ r.role.text ∈ allowed) := by
  obtain ⟨p, hsub, hrow, hdecode⟩ :=
    decodeToken_minted py cfg type .access mintedAt hjwt hid hclock
  have hadmin : r.role.text = "admin" ↔ r.role = .admin := by
    cases r.role <;> decide
  rw [authorize, bind_eq_ok_iff, getCurrentUser]
  simp only [hdecode, requireRole_eq_ok_iff]
  by_cases hscheme : py.lower scheme = "bearer".toList
  swap
  · rw [if_pos hscheme]
    exact iff_of_false (fun ⟨_, hnone, _⟩ => (by cases hnone)) fun h => hscheme h.1
  rw [if_neg (not_not.mpr hscheme)]
  by_cases hexp : cfg.expiry type mintedAt ≤ now
  · simp [hexp, not_lt.mpr hexp]
  rw [if_neg hexp]
  by_cases htype : type = .access
  swap
  · simp [htype]
  obtain ⟨hemail, hrole⟩ := hrow htype
  rw [if_pos htype]
  simp only [hscheme, htype, true_and, hsub, hemail, hrole, Int.toNat_natCast, Except.ok.injEq]
  constructor
  · rintro ⟨_, rfl, rfl, hgate⟩
    exact ⟨htype ▸ not_le.mp hexp, rfl, hgate.imp_left hadmin.mp⟩
  · rintro ⟨-, rfl, hgate⟩
    exact ⟨_, rfl, rfl, hgate.imp_left hadmin.mpr⟩

end Minted

end CveManagement
