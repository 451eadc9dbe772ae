import CveManagement.Governance.MaskingLaws
import CveManagement.Library.Deletion
import CveManagement.Webhooks.Deliveries
import Mathlib

/-!
# The signing secrets of webhooks

`app/api/routers/webhooks.py` encrypts the secret of a webhook and writes it to the column
`secret_encrypted`; `resolve_secret` of `app/services/webhooks.py` decrypts it for the worker and
for `test_webhook`, which sign what they post with it. The column `secret` of before the encryption
is still there. No statement writes it, and no one signs with it.

Every handler and every attempt is run by a process with a `WEBHOOK_ENC_KEY` of its own, so the
key may change between any two of them. `CveManagement.WebhookWorld.written` has the secrets that
requests have set; nothing that the code does depends on it.
-/

namespace CveManagement

/-! ### Encryption -/

/-- **`cryptography.fernet`**, over the bytes of tokens; a token is not empty. -/
structure Fernet (Token : Type) where
  /-- The bytes that a key is the URL-safe base64 of; `none` is a `ValueError`. -/
  parse : String → Option (BitVec 256)
  /-- With a number for the time and the vector that go into a token. -/
  encrypt : BitVec 256 → ℕ → String → Token
  /-- `none` is an `InvalidToken`. -/
  decrypt : BitVec 256 → Token → Option String

/-- **What its documentation says**: the key that has made a token decrypts it, and no other key
does. -/
structure Fernet.Documented {Token : Type} (fernet : Fernet Token) : Prop where
  decrypt_encrypt : ∀ key salt plaintext,
    fernet.decrypt key (fernet.encrypt key salt plaintext) = some plaintext
  authentic : ∀ key key' salt plaintext, key' ≠ key →
    fernet.decrypt key' (fernet.encrypt key salt plaintext) = none

/-- The URL-safe base64 of thirty-two digits. -/
def digitsKey : String := "MDEyMzQ1Njc4OTAxMjM0NTY3ODkwMTIzNDU2Nzg5MDE="

/-- One key, and tokens that say what is in them. -/
def Fernet.shown : Fernet (BitVec 256 × String) where
  parse key :=
    if key = digitsKey then
      some 0x3031323334353637383930313233343536373839303132333435363738393031#256
    else none
  encrypt key _ plaintext := (key, plaintext)
  decrypt key token := if token.1 = key then some token.2 else none

theorem Fernet.documented_shown : Fernet.shown.Documented where
  decrypt_encrypt _ _ _ := if_pos rfl
  authentic _ _ _ _ h := if_neg h.symm

/-- The exceptions of `decrypt`. -/
inductive SecretError
  | cryptoNotConfigured
  | cryptoError
  /-- Of a key that is none. -/
  | valueError
  deriving DecidableEq

/-- **What signing calls**: the encryption, and `hmac.new(…).hexdigest()`. -/
structure WebhookCrypto (Token : Type) where
  fernet : Fernet Token
  hexdigest : String → String → String

section Crypto

variable {Token : Type} (crypto : WebhookCrypto Token)

/-- `encrypt` of `app/services/crypto.py`. -/
def WebhookCrypto.encrypt (salt : ℕ) (plaintext key : String) : Except SecretError Token :=
  if key = "" then .error .cryptoNotConfigured
  else match crypto.fernet.parse key with
    | none => .error .valueError
    | some k => .ok (crypto.fernet.encrypt k salt plaintext)

/-- `decrypt` of `app/services/crypto.py`. -/
def WebhookCrypto.decrypt (token : Token) (key : String) : Except SecretError String :=
  if key = "" then .error .cryptoNotConfigured
  else match crypto.fernet.parse key with
    | none => .error .valueError
    | some k => match crypto.fernet.decrypt k token with
      | none => .error .cryptoError
      | some plaintext => .ok plaintext

/-- `sign`. -/
def WebhookCrypto.sign (payload secret : String) : String :=
  "sha256=" ++ crypto.hexdigest secret payload

end Crypto

/-! ### Rows -/

/-- A row of `webhooks`. -/
structure WebhookRow (Token : Type) where
  id : ℕ
  name : String
  url : String
  /-- The column of before the encryption. -/
  secret : Option String
  secretEncrypted : Option Token
  eventTypes : List String
  minPriority : Option ℤ
  enabled : Bool
  createdBy : Option String
  createdAt : Instant
  updatedAt : Instant
  lastSuccessAt : Option Instant
  lastErrorAt : Option Instant
  lastError : Option String

/-- What `public_view` leaves of a row: all but the ciphertext. -/
structure WebhookView where
  id : ℕ
  name : String
  url : String
  secret : Option String
  eventTypes : List String
  minPriority : Option ℤ
  enabled : Bool
  createdBy : Option String
  createdAt : Instant
  updatedAt : Instant
  lastSuccessAt : Option Instant
  lastErrorAt : Option Instant
  lastError : Option String

/-- **`public_view`.** -/
def WebhookRow.publicView {Token : Type} (r : WebhookRow Token) : WebhookView where
  id := r.id
  name := r.name
  url := r.url
  secret := r.secret
  eventTypes := r.eventTypes
  minPriority := r.minPriority
  enabled := r.enabled
  createdBy := r.createdBy
  createdAt := r.createdAt
  updatedAt := r.updatedAt
  lastSuccessAt := r.lastSuccessAt
  lastErrorAt := r.lastErrorAt
  lastError := r.lastError

/-- **`resolve_secret`.** -/
def WebhookCrypto.resolveSecret {Token : Type} (crypto : WebhookCrypto Token)
    (row : WebhookRow Token) (encKey : String) : Except SecretError (Option String) :=
  match row.secretEncrypted with
  | none => .ok none
  | some token => (crypto.decrypt token encKey).map some

/-! ### Requests -/

/-- `ALLOWED_EVENT_TYPES`. -/
def allowedEventTypes : List String :=
  ["finding.created_high_priority", "finding.kev_match", "finding.exploitability_changed",
    "cve.published_critical"]

/-- The fields that are checked alike, with the name of the first one that fails. -/
def checkWebhookFields (name url secret : Option String) (eventTypes : Option (List String))
    (minPriority : Option ℤ) : Except ApiError Unit := do
  unless name.all fun s => 1 ≤ s.length && s.length ≤ 200 do throw (.validation "name")
  unless url.all fun s => 1 ≤ s.length && s.length ≤ 2000 do throw (.validation "url")
  unless secret.all fun s => s.length ≤ 200 do throw (.validation "secret")
  unless eventTypes.all fun l => l.all (allowedEventTypes.contains ·) do
    throw (.validation "event_types")
  unless minPriority.all fun n => 0 ≤ n && n ≤ 100 do throw (.validation "min_priority")

/-- `WebhookCreate`. -/
structure WebhookCreate where
  name : String
  url : String
  secret : Option String
  eventTypes : List String
  minPriority : Option ℤ
  enabled : Bool
  createdBy : Option String

/-- The checks of `WebhookCreate`. -/
def WebhookCreate.check (body : WebhookCreate) : Except ApiError Unit := do
  checkWebhookFields body.name body.url body.secret body.eventTypes body.minPriority
  if body.eventTypes.isEmpty then throw (.validation "event_types")

/-- `WebhookUpdate`. -/
structure WebhookUpdate where
  name : Option String
  url : Option String
  secret : Option String
  eventTypes : Option (List String)
  minPriority : Option ℤ
  enabled : Option Bool

/-- The checks of `WebhookUpdate`. -/
def WebhookUpdate.check (body : WebhookUpdate) : Except ApiError Unit :=
  checkWebhookFields body.name body.url body.secret body.eventTypes body.minPriority

/-- Who sends a request, from where, and whether its audit row is written. -/
structure WebhookRequest where
  user : AuthUser
  ipAddress : Option String
  userAgent : Option String
  audited : Bool

/-- A row of `audit_log`, with its diff. -/
structure WebhookAudit where
  action : String
  targetType : String
  targetId : String
  actorEmail : String
  actorRole : String
  diff : Option Json
  ipAddress : Option String
  userAgent : Option String

/-- The diff of `create_webhook`. -/
def WebhookCreate.diff (body : WebhookCreate) : PyVal :=
  .dict [("after", .dict [("url", .str body.url), ("name", .str body.name),
    ("events", .list (body.eventTypes.map .str))])]

/-- `body.model_dump(exclude_none=True)`. -/
def WebhookUpdate.dump (body : WebhookUpdate) : List (String × PyVal) :=
  (body.name.map fun s => ("name", .str s)).toList ++
    (body.url.map fun s => ("url", .str s)).toList ++
      (body.secret.map fun s => ("secret", .str s)).toList ++
        (body.eventTypes.map fun l => ("event_types", .list (l.map .str))).toList ++
          (body.minPriority.map fun n => ("min_priority", .num n)).toList ++
            (body.enabled.map fun b => ("enabled", .bool b)).toList

/-- The diff of `update_webhook`. -/
def WebhookUpdate.diff (body : WebhookUpdate) : PyVal := .dict [("after", .dict body.dump)]

/-! ### The world -/

/-- A secret that a request has set, under the bytes of the key that it was encrypted with. -/
structure SecretWrite where
  webhookId : ℕ
  key : BitVec 256
  secret : String

/-- **A POST** to a webhook. -/
structure WebhookPost where
  webhookId : ℕ
  url : String
  body : String
  /-- The header `X-Signature`. -/
  signature : Option String
  /-- The key of the process that sends it. -/
  encKey : String

/-- Where a task is that posts to a webhook: an attempt of the worker, or `test_webhook`. -/
inductive WebhookSender
  | idle
  | posting (post : WebhookPost)
  | posted
  /-- `OpsecAwareClient` has refused the body. -/
  | refused (reason : String)
  | ended (reason : String)

/-- **The webhooks, the audit log, and what is sent.** -/
structure WebhookWorld (Token ω : Type) where
  webhooks : Table (WebhookRow Token) WebhookRow.id
  audit : List WebhookAudit
  senders : ω → WebhookSender
  sent : List WebhookPost
  written : List SecretWrite

/-- What the code is run with. -/
structure WebhookEnv (Token : Type) where
  crypto : WebhookCrypto Token
  mask : PyMask

/-- **One event**, with the key of the process that it happens in. -/
inductive WebhookEvent (ω : Type)
  /-- With what `generate_secret` returns, and the `SsrfBlockedError` of the address. -/
  | create (request : WebhookRequest) (encKey : String) (body : WebhookCreate)
    (blocked : Option String) (generated : String) (salt : ℕ) (now : Instant)
  | update (request : WebhookRequest) (encKey : String) (id : ℕ) (body : WebhookUpdate)
    (blocked : Option String) (salt : ℕ) (now : Instant)
  | delete (request : WebhookRequest) (id : ℕ)
  /-- An attempt of the worker reads its webhook. -/
  | attempt (task : ω) (encKey : String) (id : ℕ) (body : String) (blocked : String → Option String)
  /-- `test_webhook` reads its webhook. -/
  | test (task : ω) (encKey : String) (id : ℕ) (body : String) (blocked : String → Option String)
  /-- The POST of a task leaves, if `OpsecAwareClient` does not refuse it. -/
  | send (task : ω) (refused : Option String)
  /-- The worker notes the outcome of an attempt. -/
  | bump (id : ℕ) (error : Option String) (now : Instant)

variable {Token ω : Type} [DecidableEq ω] (env : WebhookEnv Token)

/-! ### The handlers -/

/-- `_enc_key_or_raise`. -/
def encKeyOrRaise (encKey : String) : Except ApiError String :=
  if encKey = "" then
    .error (.http 503 ("WEBHOOK_ENC_KEY is not configured; webhook secrets cannot be stored. " ++
      "Generate one with: python -c \"from cryptography.fernet import Fernet; " ++
      "print(Fernet.generate_key().decode())\""))
  else .ok encKey

/-- An exception that a handler does not catch. -/
def orServerError {α : Type} : Except SecretError α → Except ApiError α
  | .ok a => .ok a
  | .error _ => .error (.http 500 "Internal Server Error")

/-- `audit.record`: a failure is swallowed. -/
def WebhookEnv.record (request : WebhookRequest) (action : String) (id : ℕ) (diff : Option PyVal)
    (log : List WebhookAudit) : List WebhookAudit :=
  if request.audited then
    match diff.elim (.ok none) env.mask.diffColumn with
    | .ok column =>
      ⟨action, "webhook", toString id, request.user.email, request.user.role, column,
        request.ipAddress, request.userAgent⟩ :: log
    | .error _ => log
  else log

/-- The secret of a new webhook. -/
def WebhookCreate.newSecret (body : WebhookCreate) (generated : String) : String :=
  match body.secret with
  | some secret => if secret = "" then generated else secret
  | none => generated

/-- What `create_webhook` finds out before it inserts a row: the token. -/
def WebhookCreate.prepare (body : WebhookCreate) (encKey : String) (blocked : Option String)
    (generated : String) (salt : ℕ) : Except ApiError Token := do
  body.check
  if let some reason := blocked then throw (.http 400 ("url_rejected:" ++ reason))
  let key ← encKeyOrRaise encKey
  orServerError (env.crypto.encrypt salt (body.newSecret generated) key)

/-- The token of a secret that is set anew, if one is. -/
def WebhookUpdate.token (body : WebhookUpdate) (encKey : String) (salt : ℕ) :
    Except ApiError (Option Token) :=
  match body.secret with
  | none => .ok none
  | some secret => do
    let key ← encKeyOrRaise encKey
    return some (← orServerError (env.crypto.encrypt salt secret key))

/-- What `update_webhook` finds out before it changes a row. -/
def WebhookUpdate.prepare (body : WebhookUpdate) (encKey : String) (blocked : Option String)
    (salt : ℕ) : Except ApiError (Option Token) := do
  body.check
  if let some reason := body.url.bind fun _ => blocked then
    throw (.http 400 ("url_rejected:" ++ reason))
  body.token env encKey salt

/-- The row of `create_webhook`. -/
def WebhookCreate.row (body : WebhookCreate) (token : Token) (now : Instant) (id : ℕ) :
    WebhookRow Token where
  id := id
  name := body.name
  url := body.url
  secret := none
  secretEncrypted := some token
  eventTypes := body.eventTypes
  minPriority := body.minPriority
  enabled := body.enabled
  createdBy := body.createdBy
  createdAt := now
  updatedAt := now
  lastSuccessAt := none
  lastErrorAt := none
  lastError := none

/-- The `SET` clause of `update_webhook`. -/
def WebhookUpdate.assignment (body : WebhookUpdate) (token : Option Token) (now : Instant) :
    Table.Assignment (ρ := WebhookRow Token) WebhookRow.id where
  set r := { r with
    name := body.name.getD r.name
    url := body.url.getD r.url
    secretEncrypted := if body.secret.isSome then token else r.secretEncrypted
    eventTypes := body.eventTypes.getD r.eventTypes
    minPriority := body.minPriority.or r.minPriority
    enabled := body.enabled.getD r.enabled
    updatedAt := now }
  key_set _ := rfl

/-- `_BUMP_WEBHOOK_SUCCESS_SQL` and `_BUMP_WEBHOOK_FAILURE_SQL`. -/
def bumpAssignment (error : Option String) (now : Instant) :
    Table.Assignment (ρ := WebhookRow Token) WebhookRow.id where
  set r := match error with
    | none => { r with lastSuccessAt := some now }
    | some e => { r with lastErrorAt := some now, lastError := some e }
  key_set _ := by cases error <;> rfl

/-- The name of the class of an exception. -/
def SecretError.name : SecretError → String
  | .cryptoNotConfigured => "CryptoNotConfigured"
  | .cryptoError => "CryptoError"
  | .valueError => "ValueError"

/-- The POST for a row with its secret; an empty one does not sign. -/
def WebhookCrypto.post (crypto : WebhookCrypto Token) (encKey : String) (row : WebhookRow Token)
    (body : String) (secret : Option String) : WebhookPost where
  webhookId := row.id
  url := row.url
  body := body
  signature := match secret with
    | none => none
    | some s => if s = "" then none else some (crypto.sign body s)
  encKey := encKey

/-- **`_attempt_delivery`**, up to its POST. -/
def WebhookCrypto.attempt (crypto : WebhookCrypto Token) (encKey body : String)
    (blocked : String → Option String) : Option (WebhookRow Token) → WebhookSender
  | none => .ended "webhook_deleted"
  | some row =>
    if !row.enabled then .ended "webhook_disabled"
    else match blocked row.url with
      | some e => .ended ("ssrf_blocked:" ++ e)
      | none => match crypto.resolveSecret row encKey with
        | .error .valueError => .ended "internal:ValueError"
        | .error e => .ended ("webhook_secret_unreadable:" ++ e.name)
        | .ok secret => .posting (crypto.post encKey row body secret)

/-- **`test_webhook`**, up to its POST. -/
def WebhookCrypto.test (crypto : WebhookCrypto Token) (encKey body : String)
    (blocked : String → Option String) : Option (WebhookRow Token) → WebhookSender
  | none => .ended "404:webhook not found"
  | some row =>
    match blocked row.url with
    | some e => .ended ("400:url_rejected:" ++ e)
    | none => match crypto.resolveSecret row encKey with
      | .error _ => .ended "500"
      | .ok secret => .posting (crypto.post encKey row body secret)

namespace WebhookWorld

variable (s : WebhookWorld Token ω)

/-- A task moves on. -/
def moveTo (task : ω) (sender : WebhookSender) : WebhookWorld Token ω :=
  { s with senders := Function.update s.senders task sender }

/-- A task that is idle reads its webhook, and moves on. -/
def read (task : ω) (sender : WebhookSender) : WebhookWorld Token ω :=
  match s.senders task with
  | .idle => s.moveTo task sender
  | _ => s

/-- What `create_webhook` does once it has a token. -/
def insert (request : WebhookRequest) (encKey : String) (body : WebhookCreate) (token : Token)
    (generated : String) (now : Instant) : WebhookWorld Token ω :=
  { s with
    webhooks := s.webhooks.insert (body.row token now)
    audit := env.record request "webhook.create" s.webhooks.seq (some body.diff) s.audit
    written := match env.crypto.fernet.parse encKey with
      | some key => ⟨s.webhooks.seq, key, body.newSecret generated⟩ :: s.written
      | none => s.written }

/-- What `update_webhook` does once it has a token. -/
def rewrite (request : WebhookRequest) (encKey : String) (id : ℕ) (body : WebhookUpdate)
    (token : Option Token) (now : Instant) : WebhookWorld Token ω :=
  if (s.webhooks.get? id).isSome then
    { s with
      webhooks := s.webhooks.update (fun r => r.id == id) (body.assignment token now)
      audit := env.record request "webhook.update" id (some body.diff) s.audit
      written := match body.secret, env.crypto.fernet.parse encKey with
        | some secret, some key => ⟨id, key, secret⟩ :: s.written
        | _, _ => s.written }
  else s

end WebhookWorld

/-- **One event.** -/
def webhookStep (s : WebhookWorld Token ω) : WebhookEvent ω → WebhookWorld Token ω
  | .create request encKey body blocked generated salt now =>
    match body.prepare env encKey blocked generated salt with
    | .ok token => s.insert env request encKey body token generated now
    | .error _ => s
  | .update request encKey id body blocked salt now =>
    match body.prepare env encKey blocked salt with
    | .ok token => s.rewrite env request encKey id body token now
    | .error _ => s
  | .delete request id =>
    if (s.webhooks.get? id).isSome then
      { s with
        webhooks := s.webhooks.delete fun r => r.id == id
        audit := env.record request "webhook.delete" id none s.audit }
    else s
  | .attempt task encKey id body blocked =>
    s.read task (env.crypto.attempt encKey body blocked (s.webhooks.get? id))
  | .test task encKey id body blocked =>
    s.read task (env.crypto.test encKey body blocked (s.webhooks.get? id))
  | .send task refused =>
    match s.senders task with
    | .posting post =>
      match refused with
      | some reason => s.moveTo task (.refused reason)
      | none => { s.moveTo task .posted with sent := post :: s.sent }
    | _ => s
  | .bump id error now =>
    { s with webhooks := s.webhooks.update (fun r => r.id == id) (bumpAssignment error now) }

/-- `list_webhooks`. -/
def WebhookWorld.listWebhooks (s : WebhookWorld Token ω) (enabled : Option Bool) :
    List WebhookView :=
  let rows := s.webhooks.select fun r => enabled.all (r.enabled == ·)
  (rows.map WebhookRow.publicView).insertionSort fun a b => b.id ≤ a.id

/-- `get_webhook`. -/
def WebhookWorld.getWebhook (s : WebhookWorld Token ω) (id : ℕ) : Option WebhookView :=
  (s.webhooks.get? id).map WebhookRow.publicView

end CveManagement
