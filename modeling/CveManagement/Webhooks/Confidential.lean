import CveManagement.Library.Trajectory
import CveManagement.Webhooks.Signing

/-!
# Secrets that no one reads

Two runs of the same requests and attempts, in which the requests set different secrets
(`CveManagement.WebhookEvent.Alike`): what the other requests return, the audit log, which tasks
post and what they post are the same in both, but for the values of the signatures
(`CveManagement.WebhookWorld.confidential`). All that they show of a secret that is set anew is
whether it is empty: then `mask_sensitive` leaves `null` in its place, and nothing is signed.
-/

namespace CveManagement

open Trajectory

variable {Token ω : Type}

/-! ### Runs with other secrets -/

/-- A secret that the request model takes. -/
def SecretFits (secret : Option String) : Prop := secret.all (fun s => s.length ≤ 200) = true

/-- **Two events that differ in the secret that is set**, and in how it is encrypted; one that is
generated is not empty. -/
inductive WebhookEvent.Alike : WebhookEvent ω → WebhookEvent ω → Prop
  | refl (e : WebhookEvent ω) : Alike e e
  | create (request : WebhookRequest) (encKey : String) (body : WebhookCreate)
      (blocked : Option String) (now : Instant) {secret secret' : Option String}
      {generated generated' : String} {salt salt' : ℕ}
      (h : SecretFits secret) (h' : SecretFits secret')
      (hgenerated : generated ≠ "") (hgenerated' : generated' ≠ "") :
    Alike (.create request encKey { body with secret := secret } blocked generated salt now)
      (.create request encKey { body with secret := secret' } blocked generated' salt' now)
  | update (request : WebhookRequest) (encKey : String) (id : ℕ) (body : WebhookUpdate)
      (blocked : Option String) (now : Instant) {secret secret' : String} {salt salt' : ℕ}
      (h : SecretFits (some secret)) (h' : SecretFits (some secret'))
      (hempty : secret = "" ↔ secret' = "") :
    Alike (.update request encKey id { body with secret := some secret } blocked salt now)
      (.update request encKey id { body with secret := some secret' } blocked salt' now)

/-! ### Worlds with other secrets -/

/-- Two ciphertexts of secrets under one key. -/
def TokenAlike (fernet : Fernet Token) (token token' : Option Token) : Prop :=
  token = token' ∨ ∃ key salt salt' secret secret', (secret = "" ↔ secret' = "") ∧
    token = some (fernet.encrypt key salt secret) ∧
      token' = some (fernet.encrypt key salt' secret')

/-- Two rows that differ in the ciphertext. -/
def WebhookRow.Alike (fernet : Fernet Token) (r r' : WebhookRow Token) : Prop :=
  r.publicView = r'.publicView ∧ TokenAlike fernet r.secretEncrypted r'.secretEncrypted

/-- A POST without the value of its signature. -/
def WebhookPost.unsigned (p : WebhookPost) : WebhookPost × Bool :=
  ({ p with signature := none }, p.signature.isSome)

/-- What is to be seen of a task. -/
def WebhookSender.unsigned : WebhookSender → WebhookSender ⊕ (WebhookPost × Bool)
  | .posting p => .inr p.unsigned
  | sender => .inl sender

/-- **Two worlds that differ in the secrets.** -/
structure WebhookWorld.Alike (fernet : Fernet Token) (s s' : WebhookWorld Token ω) : Prop where
  rows : List.Forall₂ (WebhookRow.Alike fernet) s.webhooks.rows s'.webhooks.rows
  seq : s.webhooks.seq = s'.webhooks.seq
  audit : s.audit = s'.audit
  senders : ∀ task, (s.senders task).unsigned = (s'.senders task).unsigned
  sent : s.sent.map WebhookPost.unsigned = s'.sent.map WebhookPost.unsigned

section Rows

variable {fernet : Fernet Token} {r r' : WebhookRow Token} {rows rows' : List (WebhookRow Token)}

theorem WebhookRow.Alike.refl (r : WebhookRow Token) : r.Alike fernet r := ⟨rfl, .inl rfl⟩

theorem WebhookRow.Alike.id_eq (h : r.Alike fernet r') : r.id = r'.id :=
  congrArg WebhookView.id h.1

/-- The first row of a query, in both worlds. -/
theorem find_alike {p : WebhookRow Token → Bool}
    (h : List.Forall₂ (WebhookRow.Alike fernet) rows rows')
    (hp : ∀ r r' : WebhookRow Token, r.Alike fernet r' → p r = p r') :
    Option.Rel (WebhookRow.Alike fernet) (rows.find? p) (rows'.find? p) := by
  induction h with
  | nil => exact .none
  | @cons r r' rows rows' hr _ ih =>
    rw [List.find?_cons, List.find?_cons, ← hp r r' hr]
    cases p r with
    | true => exact .some hr
    | false => exact ih

/-- The rows of a query, in both worlds. -/
theorem filter_alike {p : WebhookRow Token → Bool}
    (h : List.Forall₂ (WebhookRow.Alike fernet) rows rows')
    (hp : ∀ r r' : WebhookRow Token, r.Alike fernet r' → p r = p r') :
    List.Forall₂ (WebhookRow.Alike fernet) (rows.filter p) (rows'.filter p) := by
  induction h with
  | nil => exact .nil
  | @cons r r' rows rows' hr _ ih =>
    rw [List.filter_cons, List.filter_cons, ← hp r r' hr]
    split_ifs
    · exact .cons hr ih
    · exact ih

/-- What `public_view` shows of rows that differ in the ciphertext. -/
theorem map_publicView_alike (h : List.Forall₂ (WebhookRow.Alike fernet) rows rows') :
    rows.map WebhookRow.publicView = rows'.map WebhookRow.publicView := by
  induction h with
  | nil => rfl
  | cons hr _ ih => rw [List.map_cons, List.map_cons, ih, hr.1]

end Rows

variable {env : WebhookEnv Token} {s s' : WebhookWorld Token ω}

/-! ### What a task makes of a row -/

/-- **What a token fails with does not depend on what it holds.** -/
theorem WebhookCrypto.decrypt_cases {crypto : WebhookCrypto Token}
    (hf : crypto.fernet.Documented) (key : BitVec 256) (encKey : String) :
    (∃ e, ∀ salt secret,
      crypto.decrypt (crypto.fernet.encrypt key salt secret) encKey = .error e) ∨
    ∀ salt secret, crypto.decrypt (crypto.fernet.encrypt key salt secret) encKey =
      .ok secret := by
  by_cases hkey : encKey = ""
  · refine .inl ⟨.cryptoNotConfigured, fun salt secret => ?_⟩
    rw [WebhookCrypto.decrypt, if_pos hkey]
  cases hparse : crypto.fernet.parse encKey with
  | none =>
    refine .inl ⟨.valueError, fun salt secret => ?_⟩
    rw [WebhookCrypto.decrypt, if_neg hkey, hparse]
  | some k =>
    obtain rfl | hk := eq_or_ne k key
    · refine .inr fun salt secret => ?_
      simp only [WebhookCrypto.decrypt, if_neg hkey, hparse, hf.decrypt_encrypt]
    · refine .inl ⟨.cryptoError, fun salt secret => ?_⟩
      simp only [WebhookCrypto.decrypt, if_neg hkey, hparse, hf.authentic key k salt secret hk]

/-- **The tasks read the same in both worlds**, but for the value of the signature. -/
theorem resolveSecret_alike (hf : env.crypto.fernet.Documented) {r r' : WebhookRow Token}
    (h : r.Alike env.crypto.fernet r') (encKey body : String) :
    (∃ e, env.crypto.resolveSecret r encKey = .error e ∧
        env.crypto.resolveSecret r' encKey = .error e) ∨
      ∃ secret secret', env.crypto.resolveSecret r encKey = .ok secret ∧
        env.crypto.resolveSecret r' encKey = .ok secret' ∧
          (env.crypto.post encKey r body secret).unsigned =
            (env.crypto.post encKey r' body secret').unsigned := by
  obtain ⟨hview, htoken⟩ := h
  have hid : r.id = r'.id := congrArg WebhookView.id hview
  have hurl : r.url = r'.url := congrArg WebhookView.url hview
  rcases htoken with hsame | ⟨key, salt, salt', secret, secret', hempty, hr, hr'⟩
  · have hresolve : env.crypto.resolveSecret r' encKey = env.crypto.resolveSecret r encKey := by
      rw [WebhookCrypto.resolveSecret, WebhookCrypto.resolveSecret, hsame]
    cases hread : env.crypto.resolveSecret r encKey with
    | error e => exact .inl ⟨e, rfl, hresolve.trans hread⟩
    | ok secret =>
      refine .inr ⟨secret, secret, rfl, hresolve.trans hread, ?_⟩
      simp [WebhookPost.unsigned, WebhookCrypto.post, hid, hurl]
  · simp only [WebhookCrypto.resolveSecret, hr, hr']
    rcases WebhookCrypto.decrypt_cases hf key encKey with ⟨e, herror⟩ | hok
    · exact .inl ⟨e, by rw [herror]; rfl, by rw [herror]; rfl⟩
    · refine .inr ⟨some secret, some secret', by rw [hok]; rfl, by rw [hok]; rfl, ?_⟩
      simp only [WebhookPost.unsigned, WebhookCrypto.post, hid, hurl]
      by_cases hs : secret = ""
      · rw [if_pos hs, if_pos (hempty.mp hs)]
      · rw [if_neg hs, if_neg fun h => hs (hempty.mpr h)]
        rfl

theorem attempt_alike (hf : env.crypto.fernet.Documented) {row row' : Option (WebhookRow Token)}
    (h : Option.Rel (WebhookRow.Alike env.crypto.fernet) row row') (encKey body : String)
    (blocked : String → Option String) :
    (env.crypto.attempt encKey body blocked row).unsigned =
      (env.crypto.attempt encKey body blocked row').unsigned := by
  cases h with
  | none => rfl
  | @some r r' h =>
    have henabled : r.enabled = r'.enabled := congrArg WebhookView.enabled h.1
    have hurl : r.url = r'.url := congrArg WebhookView.url h.1
    simp only [WebhookCrypto.attempt, henabled, hurl]
    split_ifs
    · rfl
    cases blocked r'.url with
    | some e => rfl
    | none =>
      rcases resolveSecret_alike hf h encKey body with
        ⟨e, hr, hr'⟩ | ⟨secret, secret', hr, hr', hpost⟩
      · rw [hr, hr']
        cases e <;> rfl
      · rw [hr, hr']
        exact congrArg Sum.inr hpost

theorem test_alike (hf : env.crypto.fernet.Documented) {row row' : Option (WebhookRow Token)}
    (h : Option.Rel (WebhookRow.Alike env.crypto.fernet) row row') (encKey body : String)
    (blocked : String → Option String) :
    (env.crypto.test encKey body blocked row).unsigned =
      (env.crypto.test encKey body blocked row').unsigned := by
  cases h with
  | none => rfl
  | @some r r' h =>
    have hurl : r.url = r'.url := congrArg WebhookView.url h.1
    simp only [WebhookCrypto.test, hurl]
    cases blocked r'.url with
    | some e => rfl
    | none =>
      rcases resolveSecret_alike hf h encKey body with
        ⟨e, hr, hr'⟩ | ⟨secret, secret', hr, hr', hpost⟩
      · rw [hr, hr']
      · rw [hr, hr']
        exact congrArg Sum.inr hpost

/-! ### What the handlers make of a secret -/

/-- `encrypt` fails alike, or returns tokens of one key. -/
theorem encrypt_alike (env : WebhookEnv Token) (encKey : String) (salt salt' : ℕ)
    {secret secret' : String} (hempty : secret = "" ↔ secret' = "") :
    (∃ e, env.crypto.encrypt salt secret encKey = .error e ∧
        env.crypto.encrypt salt' secret' encKey = .error e) ∨
      ∃ token token', env.crypto.encrypt salt secret encKey = .ok token ∧
        env.crypto.encrypt salt' secret' encKey = .ok token' ∧
          TokenAlike env.crypto.fernet (some token) (some token') := by
  unfold WebhookCrypto.encrypt
  split_ifs
  · exact .inl ⟨_, rfl, rfl⟩
  cases env.crypto.fernet.parse encKey with
  | none => exact .inl ⟨_, rfl, rfl⟩
  | some key =>
    exact .inr ⟨_, _, rfl, rfl, .inr ⟨key, salt, salt', secret, secret', hempty, rfl, rfl⟩⟩

/-- A new secret is not empty. -/
theorem newSecret_ne {body : WebhookCreate} {generated : String} (h : generated ≠ "") :
    body.newSecret generated ≠ "" := by
  unfold WebhookCreate.newSecret
  split
  · split_ifs with hs
    · exact h
    · exact hs
  · exact h

theorem isSensitive_secret (mask : PyMask) : mask.isSensitive "secret" = true := by
  rw [PyMask.isSensitive_ascii (by decide)]
  decide

theorem alikeMembers_refl {mask : PyMask} (m : List (String × PyVal)) :
    mask.AlikeMembers m m := by
  induction m with
  | nil => exact .nil
  | cons member m ih => exact .cons (.alike (.refl _)) ih

theorem alikeMembers_append {mask : PyMask} {m₁ m₁' m₂ m₂' : List (String × PyVal)}
    (h₁ : mask.AlikeMembers m₁ m₁') (h₂ : mask.AlikeMembers m₂ m₂') :
    mask.AlikeMembers (m₁ ++ m₂) (m₁' ++ m₂') := by
  induction m₁ generalizing m₁' with
  | nil =>
    cases h₁
    exact h₂
  | cons member m₁ ih =>
    cases h₁ with
    | cons hv hm => exact .cons hv (ih hm)

/-- **The audit log hides a secret that is set anew.** -/
theorem diffColumn_update (mask : PyMask) (body : WebhookUpdate) {secret secret' : String}
    (hempty : secret = "" ↔ secret' = "") :
    mask.diffColumn ({ body with secret := some secret } : WebhookUpdate).diff =
      mask.diffColumn ({ body with secret := some secret' } : WebhookUpdate).diff := by
  have htruthy : (PyVal.str secret).truthy = (PyVal.str secret').truthy := by
    rw [PyVal.truthy, PyVal.truthy, Bool.eq_iff_iff, bne_iff_ne, bne_iff_ne]
    exact not_congr hempty
  have hsecret : mask.AlikeMembers [("secret", .str secret)] [("secret", .str secret')] :=
    .cons (.sensitive (isSensitive_secret mask) htruthy) .nil
  have hdump : mask.AlikeMembers ({ body with secret := some secret } : WebhookUpdate).dump
      ({ body with secret := some secret' } : WebhookUpdate).dump :=
    alikeMembers_append (alikeMembers_append (alikeMembers_append (alikeMembers_append
      (alikeMembers_refl _) hsecret) (alikeMembers_refl _)) (alikeMembers_refl _))
      (alikeMembers_refl _)
  have halike : mask.Alike ({ body with secret := some secret } : WebhookUpdate).diff
      ({ body with secret := some secret' } : WebhookUpdate).diff :=
    .dict (.cons (.alike (.dict hdump)) .nil)
  rw [PyMask.diffColumn, PyMask.diffColumn, PyMask.maskSensitive_of_alike halike,
    PyMask.truthy_of_alike halike]

/-- The request models check no more of a secret than its length. -/
theorem checkWebhookFields_alike (name url : Option String) (eventTypes : Option (List String))
    (minPriority : Option ℤ) {secret secret' : Option String} (h : SecretFits secret)
    (h' : SecretFits secret') :
    checkWebhookFields name url secret eventTypes minPriority =
      checkWebhookFields name url secret' eventTypes minPriority := by
  unfold SecretFits at h h'
  simp only [checkWebhookFields, h, h']

/-- `create_webhook` fails alike, or has tokens of one key. -/
theorem prepare_create_alike (env : WebhookEnv Token) (encKey : String) (body : WebhookCreate)
    (blocked : Option String) {secret secret' : Option String} {generated generated' : String}
    (salt salt' : ℕ) (h : SecretFits secret) (h' : SecretFits secret') (hgenerated : generated ≠ "")
    (hgenerated' : generated' ≠ "") :
    (∃ e, ({ body with secret := secret } : WebhookCreate).prepare env encKey blocked generated
        salt = .error e ∧
      ({ body with secret := secret' } : WebhookCreate).prepare env encKey blocked generated'
        salt' = .error e) ∨
      ∃ token token', ({ body with secret := secret } : WebhookCreate).prepare env encKey blocked
          generated salt = .ok token ∧
        ({ body with secret := secret' } : WebhookCreate).prepare env encKey blocked generated'
          salt' = .ok token' ∧ TokenAlike env.crypto.fernet (some token) (some token') := by
  have hcheck : ({ body with secret := secret } : WebhookCreate).check =
      ({ body with secret := secret' } : WebhookCreate).check := by
    unfold WebhookCreate.check
    rw [checkWebhookFields_alike _ _ _ _ h h']
  have hempty : ({ body with secret := secret } : WebhookCreate).newSecret generated = "" ↔
      ({ body with secret := secret' } : WebhookCreate).newSecret generated' = "" :=
    iff_of_false (newSecret_ne hgenerated) (newSecret_ne hgenerated')
  unfold WebhookCreate.prepare
  rw [hcheck]
  cases ({ body with secret := secret' } : WebhookCreate).check with
  | error e => exact .inl ⟨e, rfl, rfl⟩
  | ok =>
    cases blocked with
    | some reason => exact .inl ⟨_, rfl, rfl⟩
    | none =>
      unfold encKeyOrRaise
      split_ifs
      · exact .inl ⟨_, rfl, rfl⟩
      rcases encrypt_alike env encKey salt salt' hempty with
        ⟨e, he, he'⟩ | ⟨token, token', ht, ht', htoken⟩
      · refine .inl ⟨.http 500 "Internal Server Error", ?_, ?_⟩
        · change orServerError (env.crypto.encrypt salt _ encKey) = _
          rw [he]
          rfl
        · change orServerError (env.crypto.encrypt salt' _ encKey) = _
          rw [he']
          rfl
      · refine .inr ⟨token, token', ?_, ?_, htoken⟩
        · change orServerError (env.crypto.encrypt salt _ encKey) = _
          rw [ht]
          rfl
        · change orServerError (env.crypto.encrypt salt' _ encKey) = _
          rw [ht']
          rfl

/-- `update_webhook` fails alike, or has tokens of one key. -/
theorem prepare_update_alike (env : WebhookEnv Token) (encKey : String) (body : WebhookUpdate)
    (blocked : Option String) {secret secret' : String} (salt salt' : ℕ)
    (h : SecretFits (some secret)) (h' : SecretFits (some secret'))
    (hempty : secret = "" ↔ secret' = "") :
    (∃ e, ({ body with secret := some secret } : WebhookUpdate).prepare env encKey blocked
        salt = .error e ∧
      ({ body with secret := some secret' } : WebhookUpdate).prepare env encKey blocked
        salt' = .error e) ∨
      ∃ token token', ({ body with secret := some secret } : WebhookUpdate).prepare env encKey
          blocked salt = .ok (some token) ∧
        ({ body with secret := some secret' } : WebhookUpdate).prepare env encKey blocked
          salt' = .ok (some token') ∧ TokenAlike env.crypto.fernet (some token) (some token') := by
  have hcheck : ({ body with secret := some secret } : WebhookUpdate).check =
      ({ body with secret := some secret' } : WebhookUpdate).check :=
    checkWebhookFields_alike _ _ _ _ h h'
  unfold WebhookUpdate.prepare
  rw [hcheck]
  cases ({ body with secret := some secret' } : WebhookUpdate).check with
  | error e => exact .inl ⟨e, rfl, rfl⟩
  | ok =>
    dsimp only
    cases body.url.bind fun _ => blocked with
    | some reason => exact .inl ⟨_, rfl, rfl⟩
    | none =>
      simp only [WebhookUpdate.token, encKeyOrRaise]
      split_ifs
      · exact .inl ⟨_, rfl, rfl⟩
      rcases encrypt_alike env encKey salt salt' hempty with
        ⟨e, he, he'⟩ | ⟨token, token', ht, ht', htoken⟩
      · refine .inl ⟨.http 500 "Internal Server Error", ?_, ?_⟩
        · change Except.bind (orServerError (env.crypto.encrypt salt _ encKey)) _ = _
          rw [he]
          rfl
        · change Except.bind (orServerError (env.crypto.encrypt salt' _ encKey)) _ = _
          rw [he']
          rfl
      · refine .inr ⟨token, token', ?_, ?_, htoken⟩
        · change Except.bind (orServerError (env.crypto.encrypt salt _ encKey)) _ = _
          rw [ht]
          rfl
        · change Except.bind (orServerError (env.crypto.encrypt salt' _ encKey)) _ = _
          rw [ht']
          rfl

/-! ### Runs -/

/-- What `update_webhook` does to what is shown of a row. -/
def WebhookUpdate.setView (body : WebhookUpdate) (now : Instant) (v : WebhookView) : WebhookView :=
  { v with
    name := body.name.getD v.name
    url := body.url.getD v.url
    eventTypes := body.eventTypes.getD v.eventTypes
    minPriority := body.minPriority.or v.minPriority
    enabled := body.enabled.getD v.enabled
    updatedAt := now }

theorem publicView_assignment (body : WebhookUpdate) (token : Option Token) (now : Instant)
    (r : WebhookRow Token) :
    ((body.assignment token now).set r).publicView = body.setView now r.publicView := rfl

/-- A note on the outcome of an attempt is seen alike. -/
theorem bump_alike {fernet : Fernet Token} (error : Option String) (now : Instant)
    {r r' : WebhookRow Token} (h : r.Alike fernet r') :
    ((bumpAssignment error now).set r).Alike fernet ((bumpAssignment error now).set r') := by
  obtain ⟨hview, htoken⟩ := h
  cases error with
  | none =>
    exact ⟨congrArg (fun v : WebhookView => { v with lastSuccessAt := some now }) hview, htoken⟩
  | some e =>
    exact ⟨congrArg (fun v : WebhookView =>
      { v with lastErrorAt := some now, lastError := some e }) hview, htoken⟩

namespace WebhookWorld

theorem Alike.refl (s : WebhookWorld Token ω) : s.Alike env.crypto.fernet s where
  rows := List.forall₂_same.mpr fun r _ => WebhookRow.Alike.refl r
  seq := rfl
  audit := rfl
  senders _ := rfl
  sent := rfl

theorem Alike.get? (h : s.Alike env.crypto.fernet s') (id : ℕ) :
    Option.Rel (WebhookRow.Alike env.crypto.fernet) (s.webhooks.get? id) (s'.webhooks.get? id) :=
  find_alike h.rows fun r r' hr => by rw [hr.id_eq]

theorem Alike.isSome_get? (h : s.Alike env.crypto.fernet s') (id : ℕ) :
    (s.webhooks.get? id).isSome = (s'.webhooks.get? id).isSome := by
  have hget := h.get? id
  cases hrow : s.webhooks.get? id <;> cases hrow' : s'.webhooks.get? id <;>
    rw [hrow, hrow'] at hget <;> first | rfl | cases hget

/-- The rows of an `UPDATE`, in both worlds. -/
theorem Alike.rows_update (h : s.Alike env.crypto.fernet s') (id : ℕ)
    {c c' : Table.Assignment (ρ := WebhookRow Token) WebhookRow.id}
    (hc : ∀ r r' : WebhookRow Token, r.Alike env.crypto.fernet r' →
      (c.set r).Alike env.crypto.fernet (c'.set r')) :
    List.Forall₂ (WebhookRow.Alike env.crypto.fernet)
      (s.webhooks.update (fun r => r.id == id) c).rows
      (s'.webhooks.update (fun r => r.id == id) c').rows := by
  rw [Table.update, Table.update, List.forall₂_map_left_iff, List.forall₂_map_right_iff]
  refine h.rows.imp fun r r' hr => ?_
  rw [← hr.id_eq]
  split_ifs
  · exact hc r r' hr
  · exact hr

/-- The rows of a `DELETE`, in both worlds. -/
theorem Alike.rows_delete (h : s.Alike env.crypto.fernet s') (id : ℕ) :
    List.Forall₂ (WebhookRow.Alike env.crypto.fernet)
      (s.webhooks.delete fun r => r.id == id).rows
      (s'.webhooks.delete fun r => r.id == id).rows := by
  exact filter_alike h.rows fun r r' hr => congrArg (fun n => !(n == id)) hr.id_eq

/-- The two worlds after an `UPDATE` with its audit row. -/
theorem Alike.rewrite (h : s.Alike env.crypto.fernet s') (request : WebhookRequest)
    (encKey : String) (id : ℕ) {update update' : WebhookUpdate} {token token' : Option Token}
    (now : Instant)
    (hrow : ∀ r r' : WebhookRow Token, r.Alike env.crypto.fernet r' →
      ((update.assignment token now).set r).Alike env.crypto.fernet
        ((update'.assignment token' now).set r'))
    (hdiff : env.mask.diffColumn update.diff = env.mask.diffColumn update'.diff) :
    (s.rewrite env request encKey id update token now).Alike env.crypto.fernet
      (s'.rewrite env request encKey id update' token' now) := by
  unfold WebhookWorld.rewrite
  rw [← h.isSome_get? id]
  split_ifs
  · refine ⟨h.rows_update id hrow, h.seq, ?_, h.senders, h.sent⟩
    simp only [WebhookEnv.record, Option.elim_some, hdiff, h.audit]
  · exact h

section Step

variable [DecidableEq ω]

/-- A task moves on in both worlds. -/
theorem Alike.moveTo (h : s.Alike env.crypto.fernet s') (task : ω) {sender sender' : WebhookSender}
    (hsender : sender.unsigned = sender'.unsigned) :
    (s.moveTo task sender).Alike env.crypto.fernet (s'.moveTo task sender') where
  rows := h.rows
  seq := h.seq
  audit := h.audit
  senders other := by
    change (Function.update s.senders task sender other).unsigned =
      (Function.update s'.senders task sender' other).unsigned
    by_cases heq : other = task
    · rw [heq, Function.update_self, Function.update_self, hsender]
    · rw [Function.update_of_ne heq, Function.update_of_ne heq, h.senders other]
  sent := h.sent

/-- A task reads its webhook in both worlds, if it is idle. -/
theorem Alike.read (h : s.Alike env.crypto.fernet s') (task : ω) {sender sender' : WebhookSender}
    (hsender : sender.unsigned = sender'.unsigned) :
    (s.read task sender).Alike env.crypto.fernet (s'.read task sender') := by
  have htask := h.senders task
  rw [WebhookWorld.read, WebhookWorld.read]
  cases hsend : s.senders task <;> cases hsend' : s'.senders task <;>
    rw [hsend, hsend'] at htask <;>
    first | exact h.moveTo task hsender | exact h | cases htask

/-- A POST leaves in both worlds. -/
theorem Alike.send (h : s.Alike env.crypto.fernet s') (task : ω) (refused : Option String) :
    (webhookStep env s (.send task refused)).Alike env.crypto.fernet
      (webhookStep env s' (.send task refused)) := by
  have htask := h.senders task
  rw [webhookStep, webhookStep]
  cases hsend : s.senders task <;> cases hsend' : s'.senders task <;>
    rw [hsend, hsend'] at htask <;>
    first | exact h | cases htask | skip
  next post post' =>
    cases refused with
    | some reason => exact h.moveTo task rfl
    | none =>
      have hmoved : (s.moveTo task .posted).Alike env.crypto.fernet (s'.moveTo task .posted) :=
        h.moveTo task rfl
      refine ⟨hmoved.rows, hmoved.seq, hmoved.audit, hmoved.senders, ?_⟩
      rw [List.map_cons, List.map_cons, h.sent, Sum.inr.inj htask]

/-- **What one event does in both worlds.** -/
theorem Alike.step (hf : env.crypto.fernet.Documented) (h : s.Alike env.crypto.fernet s')
    {e e' : WebhookEvent ω} (he : e.Alike e') :
    (webhookStep env s e).Alike env.crypto.fernet (webhookStep env s' e') := by
  cases he with
  | @create request encKey body blocked now secret secret' generated generated' salt salt' hfits
      hfits' hgenerated hgenerated' =>
    rw [webhookStep, webhookStep]
    rcases prepare_create_alike env encKey body blocked salt salt' hfits hfits' hgenerated
        hgenerated' with
      ⟨error, hr, hr'⟩ | ⟨token, token', hr, hr', htoken⟩
    · rw [hr, hr']
      exact h
    · rw [hr, hr']
      refine ⟨?_, congrArg (· + 1) h.seq, ?_, h.senders, h.sent⟩
      · refine List.rel_append h.rows (.cons ⟨?_, htoken⟩ .nil)
        rw [h.seq]
        rfl
      · simp only [insert, WebhookEnv.record, WebhookCreate.diff, h.audit, h.seq]
  | @update request encKey id body blocked now secret secret' salt salt' hfits hfits' hempty =>
    rw [webhookStep, webhookStep]
    rcases prepare_update_alike env encKey body blocked salt salt' hfits hfits' hempty with
      ⟨error, hr, hr'⟩ | ⟨token, token', hr, hr', htoken⟩
    · rw [hr, hr']
      exact h
    · rw [hr, hr']
      refine h.rewrite request encKey id now (fun r r' hrow => ⟨?_, htoken⟩)
        (diffColumn_update env.mask body hempty)
      rw [publicView_assignment, publicView_assignment, hrow.1]
      rfl
  | refl =>
    cases e with
    | create request encKey create blocked generated salt now =>
      rw [webhookStep, webhookStep]
      split
      · refine ⟨?_, congrArg (· + 1) h.seq, ?_, h.senders, h.sent⟩
        · refine List.rel_append h.rows (.cons ⟨?_, .inl rfl⟩ .nil)
          rw [h.seq]
        · simp only [insert, WebhookEnv.record, h.audit, h.seq]
      · exact h
    | update request encKey id update blocked salt now =>
      rw [webhookStep, webhookStep]
      split
      · refine h.rewrite request encKey id now (fun r r' hrow => ⟨?_, ?_⟩) rfl
        · rw [publicView_assignment, publicView_assignment, hrow.1]
        · simp only [WebhookUpdate.assignment]
          split_ifs
          · exact .inl rfl
          · exact hrow.2
      · exact h
    | delete request id =>
      rw [webhookStep, webhookStep, ← h.isSome_get? id]
      split_ifs
      · refine ⟨h.rows_delete id, h.seq, ?_, h.senders, h.sent⟩
        simp only [WebhookEnv.record, h.audit]
      · exact h
    | attempt task encKey id body blocked =>
      exact h.read task (attempt_alike hf (h.get? id) encKey body blocked)
    | test task encKey id body blocked =>
      exact h.read task (test_alike hf (h.get? id) encKey body blocked)
    | send task refused => exact h.send task refused
    | bump id error now =>
      exact ⟨h.rows_update id fun r r' hrow => bump_alike error now hrow, h.seq, h.audit,
        h.senders, h.sent⟩

/-- What is done to two worlds with other secrets leaves two such worlds. -/
theorem Alike.run (hf : env.crypto.fernet.Documented) {l l' : List (WebhookEvent ω)}
    (hl : List.Forall₂ WebhookEvent.Alike l l') (h : s.Alike env.crypto.fernet s') :
    (run (webhookStep env) s l).Alike env.crypto.fernet (run (webhookStep env) s' l') := by
  induction hl generalizing s s' with
  | nil => exact h
  | cons he _ ih => exact ih (h.step hf he)

/-- **Secrets are confidential**: in two runs that differ only in the secrets that requests set –
whether one that is set anew is empty aside – every query of the webhooks returns the same, the
audit logs are the same, the same tasks post, fail or end for the same reasons, and the same is
posted to the same addresses, signed in both or in neither. -/
theorem confidential (hf : env.crypto.fernet.Documented) (s : WebhookWorld Token ω)
    {l l' : List (WebhookEvent ω)} (hl : List.Forall₂ WebhookEvent.Alike l l') :
    (∀ enabled, (Trajectory.run (webhookStep env) s l).listWebhooks enabled =
        (Trajectory.run (webhookStep env) s l').listWebhooks enabled) ∧
      (∀ id, (Trajectory.run (webhookStep env) s l).getWebhook id =
        (Trajectory.run (webhookStep env) s l').getWebhook id) ∧
      (Trajectory.run (webhookStep env) s l).audit =
        (Trajectory.run (webhookStep env) s l').audit ∧
      (∀ task, ((Trajectory.run (webhookStep env) s l).senders task).unsigned =
        ((Trajectory.run (webhookStep env) s l').senders task).unsigned) ∧
      (Trajectory.run (webhookStep env) s l).sent.map WebhookPost.unsigned =
        (Trajectory.run (webhookStep env) s l').sent.map WebhookPost.unsigned := by
  have hstart : s.Alike env.crypto.fernet s := Alike.refl s
  have h := hstart.run hf hl
  refine ⟨fun enabled => ?_, fun id => ?_, h.audit, h.senders, h.sent⟩
  · have hrows := filter_alike h.rows fun r r' hr =>
      congrArg (fun v : WebhookView => enabled.all (v.enabled == ·)) hr.1
    rw [listWebhooks, listWebhooks, Table.select, Table.select]
    exact congrArg _ (map_publicView_alike hrows)
  · have hget := h.get? id
    rw [getWebhook, getWebhook]
    generalize (Trajectory.run (webhookStep env) s l).webhooks.get? id = row at hget
    generalize (Trajectory.run (webhookStep env) s l').webhooks.get? id = row' at hget
    cases hget with
    | none => rfl
    | some hr => exact congrArg some hr.1

/-- The example with another secret. -/
def otherHookEvents : List (WebhookEvent ℕ) :=
  [.create ⟨⟨1, "alice@example.com", "analyst"⟩, none, none, true⟩ digitsKey
      ⟨"hook", "https://example.com/hook", none, ["finding.kev_match"], none, true, none⟩
      none "other" 5 0,
    .attempt 0 digitsKey 1 "body" fun _ => none,
    .update ⟨⟨1, "alice@example.com", "analyst"⟩, none, none, true⟩ digitsKey 1
      ⟨none, none, some "another", none, none, none⟩ none 7 1,
    .send 0 none]

theorem alike_hookEvents : List.Forall₂ WebhookEvent.Alike hookEvents otherHookEvents :=
  .cons (.create _ _ ⟨"hook", "https://example.com/hook", none, ["finding.kev_match"], none, true,
      none⟩ _ _ rfl rfl (by decide) (by decide))
    (.cons (.refl _)
      (.cons (.update _ _ _ ⟨none, none, none, none, none, none⟩ _ _ rfl rfl (by decide))
        (.cons (.refl _) .nil)))

theorem confidential_hook :
    (Trajectory.run (webhookStep .shown) (start Table.empty) hookEvents).audit =
        (Trajectory.run (webhookStep .shown) (start Table.empty) otherHookEvents).audit ∧
      (Trajectory.run (webhookStep .shown) (start Table.empty) hookEvents).sent.map
          WebhookPost.unsigned =
        (Trajectory.run (webhookStep .shown) (start Table.empty) otherHookEvents).sent.map
          WebhookPost.unsigned := by
  have hf : WebhookEnv.shown.crypto.fernet.Documented := Fernet.documented_shown
  obtain ⟨-, -, haudit, -, hsent⟩ := confidential hf (start Table.empty) alike_hookEvents
  exact ⟨haudit, hsent⟩

end Step

end WebhookWorld

end CveManagement
