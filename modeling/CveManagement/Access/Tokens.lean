import CveManagement.Governance.Requests
import CveManagement.Resolution.Suffixes
import Mathlib

/-!
# Passwords and tokens

`app/services/auth_service.py` and `app/api/dependencies/auth.py`: what is signed, what is made of
a token that comes back, and which of the users may go on. The libraries `bcrypt` and `jwt` are
parameters (`CveManagement.Bcrypt`, `CveManagement.Jwt`); of the second one it matters that a token
which was signed decodes to what was signed, until it expires (`CveManagement.Jwt.Documented`).

A token carries its kind and, if it is for access, the role that the user had when it was minted:
`get_current_user` reads no table. So what a route makes of a token that the code has minted is a
matter of the claims in it and of the clock (`CveManagement.authorize_minted`).
-/

namespace CveManagement

/-! ### Passwords -/

/-- The library `bcrypt`. -/
structure Bcrypt where
  /-- `hashpw`, with a salt. -/
  hashpw : Text → Text → Text
  /-- `checkpw`; `none` is an exception. -/
  checkpw : Text → Text → Option Bool
  checkpw_hashpw : ∀ password salt, checkpw password (hashpw password salt) = some true

/-- A library that keeps passwords as they are. -/
def Bcrypt.plain : Bcrypt where
  hashpw password _ := password
  checkpw password hashed := some (password == hashed)
  checkpw_hashpw _ _ := congrArg some (beq_self_eq_true _)

/-- `hash_password`; `none` is the `ValueError`. -/
def hashPassword (bcrypt : Bcrypt) (salt plaintext : Text) : Option Text :=
  if plaintext = [] then none else some (bcrypt.hashpw plaintext salt)

/-- `verify_password`. -/
def verifyPassword (bcrypt : Bcrypt) (plaintext hashed : Text) : Bool :=
  if plaintext = [] ∨ hashed = [] then false else (bcrypt.checkpw plaintext hashed).getD false

/-! ### Claims -/

/-- The two types of tokens. -/
inductive TokenType
  | access
  | refresh
  deriving DecidableEq, Repr

/-- The text of the claim. -/
def TokenType.text : TokenType → String
  | .access => "access"
  | .refresh => "refresh"

theorem TokenType.text_inj {a b : TokenType} : a.text = b.text ↔ a = b := by
  cases a <;> cases b <;> decide

/-- The payload of a token, with the claims that may be missing. -/
structure Claims where
  sub : Option Text
  email : Option String
  role : Option String
  type : Option String
  iat : Option ℤ
  exp : Option ℤ
  deriving DecidableEq

/-- How `jwt.decode` fails: `ExpiredSignatureError`, or another `InvalidTokenError`. -/
inductive JwtError
  | expiredSignature
  | invalidToken
  deriving DecidableEq, Repr

/-- `int(t.timestamp())`, of a point in time that is not before 1970. -/
def Instant.timestamp (t : Instant) : ℤ := t / 1000000

/-- What is lost by rounding to the second. -/
theorem Instant.timestamp_bounds (t : ℤ) :
    Instant.timestamp t * 1000000 ≤ t ∧ t < Instant.timestamp t * 1000000 + 1000000 := by
  unfold Instant.timestamp
  omega

/-- The checks that `jwt.decode` makes of claims that are signed: a token is not used before it was
issued, nor from its expiry on. -/
def Claims.validate (c : Claims) (now : Instant) : Except JwtError Claims :=
  if c.iat.any fun iat => now < iat * 1000000 then .error .invalidToken
  else if c.exp.any fun exp => exp * 1000000 ≤ now then .error .expiredSignature
  else .ok c

/-- **The library `jwt`**: what is encoded, with a key and an algorithm, and what is decoded. -/
structure Jwt (Token : Type) where
  encode : Claims → Text → Text → Token
  decode : Instant → Token → Text → Text → Except JwtError Claims

/-- **A token that was encoded decodes**, with the same key, to what the checks leave of it. -/
def Jwt.Documented {Token : Type} (jwt : Jwt Token) : Prop :=
  ∀ now c key algorithm, jwt.decode now (jwt.encode c key algorithm) key algorithm = c.validate now

/-- A library that shows what it signs, and compares the key and the algorithm. -/
def Jwt.shown : Jwt (Claims × Text × Text) where
  encode c key algorithm := (c, key, algorithm)
  decode now token key algorithm :=
    if token.2 = (key, algorithm) then token.1.validate now else .error .invalidToken

theorem Jwt.documented_shown : Jwt.shown.Documented := fun _ _ _ _ => if_pos rfl

/-! ### Minting and reading -/

/-- The settings of the tokens. -/
structure TokenSettings where
  jwtSecret : Text
  jwtAlgorithm : Text
  accessTokenTtlMinutes : ℤ
  refreshTokenTtlDays : ℤ

/-- `timedelta(minutes=ttl_minutes)`. -/
def TokenSettings.accessTtl (cfg : TokenSettings) : Instant :=
  cfg.accessTokenTtlMinutes * 60000000

/-- `timedelta(days=ttl_days)`. -/
def TokenSettings.refreshTtl (cfg : TokenSettings) : Instant :=
  cfg.refreshTokenTtlDays * 86400000000

/-- The lifetime of a type of tokens. -/
def TokenSettings.ttl (cfg : TokenSettings) : TokenType → Instant
  | .access => cfg.accessTtl
  | .refresh => cfg.refreshTtl

/-- The payload of `create_access_token`. -/
def accessClaims (cfg : TokenSettings) (now : Instant) (userId : ℕ) (email role : String) :
    Claims where
  sub := some (Nat.toDigits 10 userId)
  email := some email
  role := some role
  type := some TokenType.access.text
  iat := some now.timestamp
  exp := some (now + cfg.accessTtl).timestamp

/-- The payload of `create_refresh_token`. -/
def refreshClaims (cfg : TokenSettings) (now : Instant) (userId : ℕ) : Claims where
  sub := some (Nat.toDigits 10 userId)
  email := none
  role := none
  type := some TokenType.refresh.text
  iat := some now.timestamp
  exp := some (now + cfg.refreshTtl).timestamp

/-- `TokenPayload`. -/
structure TokenPayload where
  sub : ℤ
  email : String
  role : String
  type : String
  exp : ℤ
  iat : ℤ

/-- How `decode_token` fails: as `jwt.decode` does, or by a claim that is missing or no number. -/
inductive TokenError
  | expired
  | invalid
  | raised
  deriving DecidableEq, Repr

/-- What the handlers of the two exceptions see. -/
def JwtError.toTokenError : JwtError → TokenError
  | .expiredSignature => .expired
  | .invalidToken => .invalid

variable {Token : Type} (jwt : Jwt Token) (py : PyText) (cfg : TokenSettings)

/-- What `decode_token` makes of the claims. -/
def Claims.payload (c : Claims) : Except TokenError TokenPayload :=
  match c.sub.bind fun sub => py.int (py.strip sub), c.type, c.exp, c.iat with
  | some sub, some type, some exp, some iat =>
    .ok ⟨sub, c.email.getD "", c.role.getD "", type, exp, iat⟩
  | _, _, _, _ => .error .raised

/-- **`decode_token`**, for a type that is expected. -/
def decodeToken (now : Instant) (token : Token) (expectedType : TokenType) :
    Except TokenError TokenPayload :=
  match jwt.decode now token cfg.jwtSecret cfg.jwtAlgorithm with
  | .error e => .error e.toTokenError
  | .ok c => if c.type ≠ some expectedType.text then .error .invalid else c.payload py

/-! ### The dependencies of the routes -/

/-- `HTTPAuthorizationCredentials`. -/
structure Credentials (Token : Type) where
  scheme : Text
  credentials : Token

/-- `_unauthorized`. -/
def unauthorized (detail : String) : ApiError := .http 401 detail

/-- The answer to an exception that nothing catches. -/
def serverError : ApiError := .http 500 "Internal Server Error"

/-- **`get_current_user`**. -/
def getCurrentUser (now : Instant) (credentials : Option (Credentials Token)) :
    Except ApiError AuthUser :=
  match credentials with
  | none => .error (unauthorized "Missing bearer token")
  | some c =>
    if py.lower c.scheme ≠ "bearer".toList then .error (unauthorized "Missing bearer token")
    else match decodeToken jwt py cfg now c.credentials .access with
      | .error .expired => .error (unauthorized "Token expired")
      | .error .invalid => .error (unauthorized "Invalid token")
      | .error .raised => .error serverError
      | .ok payload => .ok ⟨payload.sub.toNat, payload.email, payload.role⟩

/-- The text of a list of roles, in order and without repetitions. -/
def rolesText (allowed : List String) : String :=
  "[" ++ String.intercalate ", " ((allowed.dedup.mergeSort fun a b => decide (a ≤ b)).map fun r =>
    "'" ++ r ++ "'") ++ "]"

/-- **The check of `require_role`**. -/
def requireRole (allowed : List String) (user : AuthUser) : Except ApiError AuthUser :=
  if user.role = "admin" ∨ user.role ∈ allowed then .ok user
  else .error (.http 403 ("Role '" ++ user.role ++ "' is not authorized; required one of " ++
    rolesText allowed))

/-- **What a route with a role does first.** -/
def authorize (now : Instant) (credentials : Option (Credentials Token))
    (allowed : List String) : Except ApiError AuthUser := do
  let user ← getCurrentUser jwt py cfg now credentials
  requireRole allowed user

/-- `require_role("analyst")` is the check of the routes that write. -/
theorem requireRole_analyst (user : AuthUser) : requireRole ["analyst"] user =
    if user.mayWrite then .ok user else .error (forbidden user) := by
  have hiff : (user.role = "admin" ∨ user.role ∈ ["analyst"]) ↔ user.mayWrite = true := by
    simp [AuthUser.mayWrite]
  have htext : rolesText ["analyst"] = "['analyst']" := by simp [rolesText]
  rw [requireRole, htext]
  by_cases h : user.mayWrite = true
  · rw [if_pos (hiff.mpr h), if_pos h]
  · rw [if_neg fun h' => h (hiff.mp h'), if_neg h, forbidden]
    congr 2
    rw [String.append_assoc]
    rfl

theorem requireRole_eq_ok_iff {allowed : List String} {user u : AuthUser} :
    requireRole allowed user = .ok u ↔ user = u ∧ (user.role = "admin" ∨ user.role ∈ allowed) := by
  rw [requireRole]
  split_ifs with h
  · simp [h]
  · simp [h]

/-! ### The text of an id -/

section Digits

variable {py}

/-- `int` of a decimal text is its number. -/
theorem PyText.digitsValue_eq (py : PyText) {s : Text} (h : ∀ c ∈ s, c.isDigit = true) :
    py.digitsValue s = Nat.ofDigitChars 10 s 0 := by
  have hfold : ∀ n, s.foldl (fun n c => n * 10 + (py.digit c).getD 0) n =
      Nat.ofDigitChars 10 s n := by
    induction s with
    | nil => exact fun n => rfl
    | cons c s ih =>
      intro n
      obtain ⟨hc, hs⟩ := List.forall_mem_cons.mp h
      have hascii : c.toNat < 128 := by
        have := toNat_of_isDigit hc
        omega
      have hdigit : (py.digit c).getD 0 = c.toNat - 48 := by
        rw [py.digit_ascii c hascii, asciiDigit, if_pos hc, Option.getD_some]
      rw [List.foldl_cons, Nat.ofDigitChars_cons, ih hs, hdigit, mul_comm n 10]
      rfl
  exact hfold 0

/-- There is nothing to strip from digits. -/
theorem PyText.strip_of_isDigit (py : PyText) {s : Text} (h : ∀ c ∈ s, c.isDigit = true) :
    py.strip s = s := by
  have hspace : ∀ c ∈ s, py.isSpace c = false := by
    intro c hc
    have hnat := toNat_of_isDigit (h c hc)
    rw [py.isSpace_ascii c (by omega), isAsciiSpace]
    simp
    omega
  have hdrop : ∀ l : Text, (∀ c ∈ l, py.isSpace c = false) → l.dropWhile py.isSpace = l := by
    intro l hl
    cases l with
    | nil => rfl
    | cons c l => rw [List.dropWhile_cons_of_neg (by simp [hl c List.mem_cons_self])]
  rw [PyText.strip, hdrop s hspace, hdrop s.reverse fun c hc => hspace c (List.mem_reverse.mp hc),
    List.reverse_reverse]

/-- **`int(str(n))` is `n`**, for the numbers of a column of type `BIGINT`. -/
theorem PyText.int_toDigits (py : PyText) {n : ℕ} (h : n < 2 ^ 63) :
    py.int (py.strip (Nat.toDigits 10 n)) = some (n : ℤ) := by
  have hdigits : ∀ c ∈ Nat.toDigits 10 n, c.isDigit = true :=
    fun c hc => Decimal.isDigit_of_mem_toDigits hc
  have hne : Nat.toDigits 10 n ≠ [] := List.ne_nil_of_length_pos Nat.length_toDigits_pos
  have hlength : (Nat.toDigits 10 n).length ≤ PyText.maxStrDigits := by
    have hshort : (Nat.toDigits 10 n).length ≤ 19 :=
      (Nat.length_toDigits_le_iff (by decide) (by decide)).mpr (h.trans (by decide))
    exact hshort.trans (by decide)
  have hvalue : py.digitsValue (Nat.toDigits 10 n) = n := by
    rw [py.digitsValue_eq hdigits, Nat.ofDigitChars_ten_toDigits]
  have hungroup := py.ungroup_of_isDigit hne hdigits
  rw [py.strip_of_isDigit hdigits]
  unfold PyText.int
  split
  next s heq => exact absurd (hdigits '-' (heq ▸ List.mem_cons_self)) (by decide)
  next s heq => exact absurd (hdigits '+' (heq ▸ List.mem_cons_self)) (by decide)
  next => simp [hungroup, hlength, hvalue]

end Digits

end CveManagement
