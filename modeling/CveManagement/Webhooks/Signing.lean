import CveManagement.Library.Trajectory
import CveManagement.Webhooks.Secrets

/-!
# What a POST to a webhook is signed with

A task reads the row of its webhook, decrypts the secret and signs, and posts later on; in between,
the secret may be set anew, the webhook deleted, or the key changed.

* Whatever has happened, a POST is signed with the secret that was last set when its task read the
  row, and goes out unsigned only if there was none or it was empty
  (`CveManagement.WebhookWorld.posts_signed`). A secret of before the encryption is none.
* A task comes to post exactly if its process has the key that the secret was encrypted with
  (`CveManagement.WebhookWorld.attempt_posting_iff`): with another one, or without one, the attempt
  fails, and nothing goes out unsigned in its place.
-/

namespace CveManagement

open Trajectory

variable {Token ω : Type}

/-! ### The secret that was last set -/

/-- The secret of a webhook that was last set. -/
def WebhookWorld.lastWritten (s : WebhookWorld Token ω) (id : ℕ) : Option SecretWrite :=
  s.written.find? fun w => w.webhookId == id

/-- **A row holds a secret**, or none. -/
def WebhookRow.Holds (fernet : Fernet Token) (r : WebhookRow Token) : Option SecretWrite → Prop
  | none => r.secretEncrypted = none
  | some w => ∃ salt, r.secretEncrypted = some (fernet.encrypt w.key salt w.secret)

theorem WebhookRow.Holds.congr {fernet : Fernet Token} {r r' : WebhookRow Token}
    {w : Option SecretWrite} (h : r.Holds fernet w)
    (hsame : r'.secretEncrypted = r.secretEncrypted) : r'.Holds fernet w := by
  cases w with
  | none => exact hsame.trans h
  | some w =>
    obtain ⟨salt, hsalt⟩ := h
    exact ⟨salt, hsame.trans hsalt⟩

/-- **The rows hold what was last set.** -/
def WebhookWorld.Stored (env : WebhookEnv Token) (s : WebhookWorld Token ω) : Prop :=
  ∀ r ∈ s.webhooks.rows, r.Holds env.crypto.fernet (s.lastWritten r.id)

/-- **A POST is the right one** for the webhooks as they are: to the address of its webhook, and
signed with the secret that was last set, by a process that has its key. -/
def WebhookPost.Right (env : WebhookEnv Token) (s : WebhookWorld Token ω) (p : WebhookPost) :
    Prop :=
  ∃ r ∈ s.webhooks.rows, r.id = p.webhookId ∧ p.url = r.url ∧
    match s.lastWritten r.id with
    | none => p.signature = none
    | some w => env.crypto.fernet.parse p.encKey = some w.key ∧
        p.signature = if w.secret = "" then none else some (env.crypto.sign p.body w.secret)

/-- The webhooks as they were when the column of the ciphertext was added. -/
def WebhookWorld.start (t : Table (WebhookRow Token) WebhookRow.id) : WebhookWorld Token ω :=
  ⟨t, [], fun _ => .idle, [], []⟩

variable {env : WebhookEnv Token} {s : WebhookWorld Token ω} {r : WebhookRow Token}
  {encKey body : String} {blocked : String → Option String} {p : WebhookPost}

/-- A library whose tokens and digests say what is in them. -/
def WebhookEnv.shown : WebhookEnv (BitVec 256 × String) where
  crypto := ⟨.shown, fun secret payload => secret ++ payload⟩
  mask := .ascii

/-! ### Reading a secret -/

/-- **What a process makes of a row.** -/
theorem WebhookRow.Holds.resolveSecret_eq_ok (hf : env.crypto.fernet.Documented)
    {w : Option SecretWrite} (h : r.Holds env.crypto.fernet w) {secret : Option String} :
    env.crypto.resolveSecret r encKey = .ok secret ↔
      secret = w.map SecretWrite.secret ∧
        ∀ w', w = some w' → encKey ≠ "" ∧ env.crypto.fernet.parse encKey = some w'.key := by
  cases w with
  | none =>
    have hnone : r.secretEncrypted = none := h
    simp [WebhookCrypto.resolveSecret, hnone, eq_comm]
  | some w =>
    obtain ⟨salt, hsome⟩ : ∃ salt, r.secretEncrypted =
      some (env.crypto.fernet.encrypt w.key salt w.secret) := h
    simp only [WebhookCrypto.resolveSecret, hsome, WebhookCrypto.decrypt]
    by_cases hkey : encKey = ""
    · simp [hkey, Except.map]
    rw [if_neg hkey]
    cases hparse : env.crypto.fernet.parse encKey with
    | none => simp [Except.map]
    | some k =>
      by_cases hk : k = w.key
      · simp [hk, hf.decrypt_encrypt, Except.map, hkey, eq_comm]
      · simp [hf.authentic _ _ _ _ hk, Except.map, hk]

/-- An attempt posts the row, with the secret that it resolves. -/
theorem attempt_eq_posting_iff {row : Option (WebhookRow Token)} :
    env.crypto.attempt encKey body blocked row = .posting p ↔
      ∃ r secret, row = some r ∧ r.enabled = true ∧ blocked r.url = none ∧
        env.crypto.resolveSecret r encKey = .ok secret ∧
        p = env.crypto.post encKey r body secret := by
  cases row with
  | none => simp [WebhookCrypto.attempt]
  | some r =>
    cases henabled : r.enabled with
    | false => simp [WebhookCrypto.attempt, henabled]
    | true =>
      cases hblocked : blocked r.url with
      | some e => simp [WebhookCrypto.attempt, henabled, hblocked]
      | none =>
        cases hsecret : env.crypto.resolveSecret r encKey with
        | error e => cases e <;> simp [WebhookCrypto.attempt, henabled, hblocked, hsecret]
        | ok secret =>
          have hpost : env.crypto.attempt encKey body blocked (some r) =
              .posting (env.crypto.post encKey r body secret) := by
            simp [WebhookCrypto.attempt, henabled, hblocked, hsecret]
          rw [hpost]
          constructor
          · rintro ⟨⟩
            exact ⟨r, secret, rfl, henabled, hblocked, hsecret, rfl⟩
          · rintro ⟨_, secret', ⟨⟩, -, -, hsecret', rfl⟩
            rw [Except.ok.inj (hsecret.symm.trans hsecret')]

/-- `test_webhook` does not look whether the webhook is enabled. -/
theorem test_eq_posting_iff {row : Option (WebhookRow Token)} :
    env.crypto.test encKey body blocked row = .posting p ↔
      ∃ r secret, row = some r ∧ blocked r.url = none ∧
        env.crypto.resolveSecret r encKey = .ok secret ∧
        p = env.crypto.post encKey r body secret := by
  cases row with
  | none => simp [WebhookCrypto.test]
  | some r =>
    cases hblocked : blocked r.url with
    | some e => simp [WebhookCrypto.test, hblocked]
    | none =>
      cases hsecret : env.crypto.resolveSecret r encKey with
      | error e => simp [WebhookCrypto.test, hblocked, hsecret]
      | ok secret => simp [WebhookCrypto.test, hblocked, hsecret, eq_comm]

/-- **What an attempt meets with** in the world of the webhooks. -/
def WebhookCrypto.attemptEnv (crypto : WebhookCrypto Token) (encKey : String)
    (blocked : String → Option String) (post : PostOutcome) (row : Option (WebhookRow Token)) :
    AttemptEnv where
  target := row.map fun r => ⟨r.url, r.enabled⟩
  ssrfBlocked := blocked
  secretUnreadable := row.bind fun r =>
    match crypto.resolveSecret r encKey with
    | .error e => some e.name
    | .ok _ => none
  post := post

/-- The attempt posts if it is among its actions to post. -/
theorem exists_attempt_eq_posting_iff {row : Option (WebhookRow Token)} {post : PostOutcome}
    (hpost : ∀ reason, post ≠ .opsecViolation reason) :
    (∃ p, env.crypto.attempt encKey body blocked row = .posting p) ↔
      .post ∈ attemptDelivery (env.crypto.attemptEnv encKey blocked post row) := by
  simp only [attempt_eq_posting_iff]
  cases row with
  | none => simp [attemptDelivery, WebhookCrypto.attemptEnv]
  | some r =>
    cases henabled : r.enabled with
    | false => simp [attemptDelivery, WebhookCrypto.attemptEnv, henabled]
    | true =>
      cases hblocked : blocked r.url with
      | some e => simp [attemptDelivery, WebhookCrypto.attemptEnv, henabled, hblocked]
      | none =>
        cases hsecret : env.crypto.resolveSecret r encKey with
        | error e =>
          simp [attemptDelivery, WebhookCrypto.attemptEnv, henabled, hblocked, hsecret]
        | ok secret =>
          refine iff_of_true ⟨_, r, secret, rfl, henabled, hblocked, hsecret, rfl⟩ ?_
          simp only [attemptDelivery, WebhookCrypto.attemptEnv, henabled, hblocked, hsecret,
            Option.map_some, Option.bind_some, Bool.not_true, Bool.false_eq_true, if_false]
          cases post with
          | opsecViolation reason => exact absurd rfl (hpost reason)
          | httpError e => exact List.mem_cons_self
          | response code text =>
            dsimp only
            split_ifs <;> exact List.mem_cons_self

namespace WebhookWorld

/-- **What is posted for a row is right.** -/
theorem Stored.right (hf : env.crypto.fernet.Documented) (h : s.Stored env)
    (hr : r ∈ s.webhooks.rows) {secret : Option String}
    (hsecret : env.crypto.resolveSecret r encKey = .ok secret) :
    (env.crypto.post encKey r body secret).Right env s := by
  obtain ⟨rfl, hkey⟩ := ((h r hr).resolveSecret_eq_ok hf).mp hsecret
  refine ⟨r, hr, rfl, rfl, ?_⟩
  split
  next hw =>
    simp only [WebhookCrypto.post]
    rw [hw]
    rfl
  next w hw =>
    simp only [WebhookCrypto.post]
    rw [hw]
    exact ⟨(hkey w hw).2, rfl⟩

/-! ### Runs -/

/-- The secrets of other webhooks are as they were. -/
theorem lastWritten_cons {w : SecretWrite} {s' : WebhookWorld Token ω}
    (hwritten : s'.written = w :: s.written) (id : ℕ) :
    s'.lastWritten id = if w.webhookId = id then some w else s.lastWritten id := by
  rw [lastWritten, hwritten, List.find?_cons]
  by_cases hid : w.webhookId = id
  · simp [hid]
  · have hne : (w.webhookId == id) = false := beq_eq_false_iff_ne.mpr hid
    simp [hid, hne, lastWritten]

/-- What a handler inserts is encrypted with the key of its process. -/
theorem encrypt_eq_ok {salt : ℕ} {plaintext : String} {token : Token}
    (h : env.crypto.encrypt salt plaintext encKey = .ok token) :
    ∃ key, env.crypto.fernet.parse encKey = some key ∧
      token = env.crypto.fernet.encrypt key salt plaintext := by
  unfold WebhookCrypto.encrypt at h
  split_ifs at h
  split at h
  · cases h
  next key hparse => exact ⟨key, hparse, (Except.ok.inj h).symm⟩

theorem prepare_create_eq_ok {create : WebhookCreate} {blocked : Option String}
    {generated : String} {salt : ℕ} {token : Token}
    (h : create.prepare env encKey blocked generated salt = .ok token) :
    env.crypto.encrypt salt (create.newSecret generated) encKey = .ok token := by
  unfold WebhookCreate.prepare encKeyOrRaise at h
  cases hcheck : create.check with
  | error e => simp [hcheck, bind, Except.bind] at h
  | ok =>
    cases blocked with
    | some reason => simp [hcheck, bind, Except.bind, throw, throwThe, MonadExceptOf.throw] at h
    | none =>
      by_cases hkey : encKey = ""
      · simp [hcheck, bind, Except.bind, hkey] at h
      · cases henc : env.crypto.encrypt salt (create.newSecret generated) encKey with
        | error e => simp [hcheck, bind, Except.bind, hkey, henc, orServerError] at h
        | ok t => simpa [hcheck, bind, Except.bind, hkey, henc, orServerError] using h

theorem token_eq_ok {update : WebhookUpdate} {salt : ℕ} {secret : String} {token : Option Token}
    (hsecret : update.secret = some secret) (h : update.token env encKey salt = .ok token) :
    ∃ t, token = some t ∧ env.crypto.encrypt salt secret encKey = .ok t := by
  simp only [WebhookUpdate.token, hsecret, encKeyOrRaise] at h
  by_cases hkey : encKey = ""
  · simp [hkey, bind, Except.bind] at h
  · cases henc : env.crypto.encrypt salt secret encKey with
    | error e => simp [hkey, henc, orServerError, bind, Except.bind] at h
    | ok t =>
      refine ⟨t, ?_, rfl⟩
      simpa [hkey, henc, orServerError, bind, Except.bind, pure, Except.pure, eq_comm] using h

theorem prepare_update_eq_ok {update : WebhookUpdate} {blocked : Option String} {salt : ℕ}
    {token : Option Token} (h : update.prepare env encKey blocked salt = .ok token) :
    update.token env encKey salt = .ok token := by
  unfold WebhookUpdate.prepare at h
  cases hcheck : update.check with
  | error e => simp [hcheck, bind, Except.bind] at h
  | ok =>
    cases hblocked : update.url.bind fun _ => blocked with
    | some reason =>
      simp [hcheck, hblocked, bind, Except.bind, throw, throwThe, MonadExceptOf.throw] at h
    | none => simpa [hcheck, hblocked, bind, Except.bind] using h

/-- A row that is new holds its secret. -/
theorem stored_insert (h : s.Stored env) (request : WebhookRequest) {create : WebhookCreate}
    {generated : String} {salt : ℕ} {token : Token} (now : Instant)
    (henc : env.crypto.encrypt salt (create.newSecret generated) encKey = .ok token) :
    (s.insert env request encKey create token generated now).Stored env := by
  obtain ⟨key, hparse, rfl⟩ := encrypt_eq_ok henc
  have hwritten : (s.insert env request encKey create
      (env.crypto.fernet.encrypt key salt (create.newSecret generated)) generated now).written =
        ⟨s.webhooks.seq, key, create.newSecret generated⟩ :: s.written := by
    simp only [insert, hparse]
  intro r hr
  rw [lastWritten_cons hwritten]
  rcases List.mem_append.mp hr with hr | hr
  · -- ids are not used twice
    rw [if_neg (Nat.ne_of_gt (s.webhooks.key_lt r hr))]
    exact h r hr
  · obtain rfl := List.mem_singleton.mp hr
    have hid : s.webhooks.seq = (create.row (env.crypto.fernet.encrypt key salt
        (create.newSecret generated)) now s.webhooks.seq).id := rfl
    rw [if_pos hid]
    exact ⟨salt, rfl⟩

/-- A row whose secret is set anew holds it, and the others hold theirs. -/
theorem stored_rewrite (h : s.Stored env) (request : WebhookRequest) (id : ℕ)
    {update : WebhookUpdate} {salt : ℕ} {token : Option Token} (now : Instant)
    (htoken : update.token env encKey salt = .ok token) :
    (s.rewrite env request encKey id update token now).Stored env := by
  unfold rewrite
  split_ifs
  swap
  · exact h
  intro r hr
  obtain ⟨r₀, hr₀, rfl⟩ := Table.mem_update.mp hr
  cases hsecret : update.secret with
  | none =>
    have hid : (if r₀.id == id then (update.assignment token now).set r₀ else r₀).id = r₀.id := by
      split_ifs <;> rfl
    have hsame : (if r₀.id == id then (update.assignment token now).set r₀
        else r₀).secretEncrypted = r₀.secretEncrypted := by
      split_ifs
      · simp [WebhookUpdate.assignment, hsecret]
      · rfl
    rw [hid]
    refine WebhookRow.Holds.congr ?_ hsame
    simp only [lastWritten]
    exact h r₀ hr₀
  | some secret =>
    obtain ⟨t, rfl, henc⟩ := token_eq_ok hsecret htoken
    obtain ⟨key, hparse, rfl⟩ := encrypt_eq_ok henc
    rw [lastWritten_cons (s := s) (w := ⟨id, key, secret⟩) (by simp [hparse])]
    by_cases hid : r₀.id = id
    · rw [if_pos (by simpa using hid), (update.assignment _ now).key_set, if_pos hid.symm]
      exact ⟨salt, by simp [WebhookUpdate.assignment, hsecret]⟩
    · have hne : (r₀.id == id) = false := beq_eq_false_iff_ne.mpr hid
      rw [hne, if_neg (by simp), if_neg (Ne.symm hid)]
      exact h r₀ hr₀

section Step

variable [DecidableEq ω]

/-- **Every event leaves the rows with what was last set.** -/
theorem stored_step (h : s.Stored env) (e : WebhookEvent ω) : (webhookStep env s e).Stored env := by
  cases e with
  | create request encKey create blocked generated salt now =>
    rw [webhookStep]
    split
    next token hprepare => exact stored_insert h request now (prepare_create_eq_ok hprepare)
    · exact h
  | update request encKey id update blocked salt now =>
    rw [webhookStep]
    split
    next token hprepare => exact stored_rewrite h request id now (prepare_update_eq_ok hprepare)
    · exact h
  | delete request id =>
    rw [webhookStep]
    split_ifs
    · exact fun r hr => h r (Table.mem_delete.mp hr).1
    · exact h
  | attempt task encKey id body blocked =>
    rw [webhookStep, read]
    split <;> exact h
  | test task encKey id body blocked =>
    rw [webhookStep, read]
    split <;> exact h
  | send task refused =>
    rw [webhookStep]
    split
    · split <;> exact h
    · exact h
  | bump id error now =>
    intro r hr
    obtain ⟨r₀, hr₀, rfl⟩ := Table.mem_update.mp hr
    have hid : (if r₀.id == id then (bumpAssignment error now).set r₀ else r₀).id = r₀.id := by
      split_ifs
      · exact (bumpAssignment error now).key_set r₀
      · rfl
    rw [hid]
    refine (h r₀ hr₀).congr ?_
    split_ifs
    · cases error <;> rfl
    · rfl

/-- What a task comes to post is right for the webhooks as it has read them. -/
theorem senders_step (hf : env.crypto.fernet.Documented) (h : s.Stored env) {e : WebhookEvent ω}
    {task : ω} (hp : (webhookStep env s e).senders task = .posting p) :
    s.senders task = .posting p ∨ p.Right env s := by
  -- only the reading of a row makes a task that posts
  have hmove : ∀ task' sender, (s.moveTo task' sender).senders task = .posting p →
      s.senders task = .posting p ∨ sender = .posting p := by
    intro task' sender hsender
    change Function.update s.senders task' sender task = _ at hsender
    by_cases heq : task = task'
    · rw [heq, Function.update_self] at hsender
      exact .inr hsender
    · rw [Function.update_of_ne heq] at hsender
      exact .inl hsender
  cases e with
  | create request encKey create blocked generated salt now =>
    rw [webhookStep] at hp
    split at hp <;> exact .inl hp
  | update request encKey id update blocked salt now =>
    rw [webhookStep] at hp
    split at hp
    · unfold rewrite at hp
      split_ifs at hp <;> exact .inl hp
    · exact .inl hp
  | delete request id =>
    rw [webhookStep] at hp
    split_ifs at hp <;> exact .inl hp
  | attempt task' encKey id body blocked =>
    rw [webhookStep, read] at hp
    split at hp
    swap
    · exact .inl hp
    refine (hmove _ _ hp).imp_right fun hpost => ?_
    obtain ⟨r, secret, hr, -, -, hsecret, rfl⟩ := attempt_eq_posting_iff.mp hpost
    exact h.right hf (Table.get?_eq_some.mp hr).1 hsecret
  | test task' encKey id body blocked =>
    rw [webhookStep, read] at hp
    split at hp
    swap
    · exact .inl hp
    refine (hmove _ _ hp).imp_right fun hpost => ?_
    obtain ⟨r, secret, hr, -, hsecret, rfl⟩ := test_eq_posting_iff.mp hpost
    exact h.right hf (Table.get?_eq_some.mp hr).1 hsecret
  | send task' refused =>
    rw [webhookStep] at hp
    split at hp
    swap
    · exact .inl hp
    split at hp <;>
      exact (hmove _ _ hp).imp_right fun hnone => (by cases hnone)
  | bump id error now => exact .inl hp

/-- What is sent is what a task was about to post. -/
theorem sent_step {e : WebhookEvent ω} (hp : p ∈ (webhookStep env s e).sent) :
    p ∈ s.sent ∨ ∃ task, s.senders task = .posting p := by
  cases e with
  | create request encKey create blocked generated salt now =>
    rw [webhookStep] at hp
    split at hp <;> exact .inl hp
  | update request encKey id update blocked salt now =>
    rw [webhookStep] at hp
    split at hp
    · unfold rewrite at hp
      split_ifs at hp <;> exact .inl hp
    · exact .inl hp
  | delete request id =>
    rw [webhookStep] at hp
    split_ifs at hp <;> exact .inl hp
  | attempt task encKey id body blocked =>
    rw [webhookStep, read] at hp
    split at hp <;> exact .inl hp
  | test task encKey id body blocked =>
    rw [webhookStep, read] at hp
    split at hp <;> exact .inl hp
  | send task refused =>
    rw [webhookStep] at hp
    split at hp
    swap
    · exact .inl hp
    next post hpost =>
      split at hp
      · exact .inl hp
      · rcases List.mem_cons.mp hp with rfl | hp
        · exact .inr ⟨task, hpost⟩
        · exact .inl hp
  | bump id error now => exact .inl hp

/-- The rows hold what was last set, in every state of a run. -/
theorem stored_run {t : Table (WebhookRow Token) WebhookRow.id}
    (hstart : ∀ r ∈ t.rows, r.secretEncrypted = none) (l : List (WebhookEvent ω)) :
    (run (webhookStep env) (start t) l).Stored env := by
  have hstored : (start t : WebhookWorld Token ω).Stored env := fun r hr => hstart r hr
  exact (throughout_of_step (I := Stored env) (fun _ e h => stored_step h e) hstored l).last

/-- Every POST that is sent, or about to be, was right when its task read the row. -/
theorem right_run (hf : env.crypto.fernet.Documented)
    {t : Table (WebhookRow Token) WebhookRow.id} (hstart : ∀ r ∈ t.rows, r.secretEncrypted = none)
    (l : List (WebhookEvent ω))
    (hp : p ∈ (run (webhookStep env) (start t) l).sent ∨
      ∃ task, (run (webhookStep env) (start t) l).senders task = .posting p) :
    ∃ l₁ l₂, l = l₁ ++ l₂ ∧ p.Right env (run (webhookStep env) (start t) l₁) := by
  induction l using List.reverseRecOn with
  | nil =>
    rcases hp with hp | ⟨task, hp⟩
    · exact absurd hp List.not_mem_nil
    · cases hp
  | append_singleton l e ih =>
    rw [run_append, run_cons, run_nil] at hp
    have hbefore : p ∈ (run (webhookStep env) (start t) l).sent ∨
        (∃ task, (run (webhookStep env) (start t) l).senders task = .posting p) ∨
          p.Right env (run (webhookStep env) (start t) l) := by
      rcases hp with hp | ⟨task, hp⟩
      · exact (sent_step hp).imp_right .inl
      · exact .inr ((senders_step hf (stored_run hstart l) hp).imp_left fun h => ⟨task, h⟩)
    rw [← or_assoc] at hbefore
    rcases hbefore with hbefore | hright
    · obtain ⟨l₁, l₂, rfl, hright⟩ := ih hbefore
      exact ⟨l₁, l₂ ++ [e], List.append_assoc .., hright⟩
    · exact ⟨l, [e], rfl, hright⟩

/-- **Every POST is signed with the secret that was last set** when its task read the row of the
webhook, by a process with the key of that secret; it goes out unsigned only if no secret has been
set since secrets are encrypted, or an empty one. -/
theorem posts_signed (hf : env.crypto.fernet.Documented)
    {t : Table (WebhookRow Token) WebhookRow.id} (hstart : ∀ r ∈ t.rows, r.secretEncrypted = none)
    (l : List (WebhookEvent ω)) :
    ∀ p ∈ (run (webhookStep env) (start t) l).sent, ∃ l₁ l₂, l = l₁ ++ l₂ ∧
      p.Right env (run (webhookStep env) (start t) l₁) :=
  fun _ hp => right_run hf hstart l (.inl hp)

/-- A webhook is created, its secret is set anew once an attempt has read it, and the attempt
posts. -/
def hookEvents : List (WebhookEvent ℕ) :=
  [.create ⟨⟨1, "alice@example.com", "analyst"⟩, none, none, true⟩ digitsKey
      ⟨"hook", "https://example.com/hook", some "first", ["finding.kev_match"], none, true, none⟩
      none "generated" 0 0,
    .attempt 0 digitsKey 1 "body" fun _ => none,
    .update ⟨⟨1, "alice@example.com", "analyst"⟩, none, none, true⟩ digitsKey 1
      ⟨none, none, some "second", none, none, none⟩ none 1 1,
    .send 0 none]

theorem posts_signed_hook : ∃ p ∈ (run (webhookStep WebhookEnv.shown) (start Table.empty)
    hookEvents).sent, ∃ l₁ l₂, hookEvents = l₁ ++ l₂ ∧
      p.Right .shown (run (webhookStep WebhookEnv.shown) (start Table.empty) l₁) := by
  obtain ⟨p, hsent⟩ : ∃ p, (run (webhookStep WebhookEnv.shown) (start Table.empty)
      hookEvents).sent = [p] := ⟨_, rfl⟩
  have hp : p ∈ (run (webhookStep WebhookEnv.shown) (start Table.empty) hookEvents).sent := by
    rw [hsent]
    exact List.mem_singleton_self p
  exact ⟨p, hp, posts_signed Fernet.documented_shown (fun _ h => absurd h List.not_mem_nil)
    hookEvents p hp⟩

/-- **An attempt comes to post exactly if** its webhook is there and enabled, the address passes,
and the process has the key of the secret that was last set, if one was: with another key, or
without one, nothing goes out. -/
theorem attempt_posting_iff (hf : env.crypto.fernet.Documented)
    {t : Table (WebhookRow Token) WebhookRow.id} (hstart : ∀ r ∈ t.rows, r.secretEncrypted = none)
    (l : List (WebhookEvent ω)) {task : ω} {id : ℕ}
    (hidle : (run (webhookStep env) (start t) l).senders task = .idle) :
    (∃ p, (run (webhookStep env) (start t)
        (l ++ [.attempt task encKey id body blocked])).senders task = .posting p) ↔
      ∃ r, (run (webhookStep env) (start t) l).webhooks.get? id = some r ∧ r.enabled = true ∧
        blocked r.url = none ∧
          ∀ w, (run (webhookStep env) (start t) l).lastWritten id = some w →
            encKey ≠ "" ∧ env.crypto.fernet.parse encKey = some w.key := by
  have hstored : (run (webhookStep env) (start t) l).Stored env := stored_run hstart l
  rw [run_append, run_cons, run_nil, webhookStep, read, hidle]
  generalize run (webhookStep env) (start t) l = s at *
  have hself : ∀ sender, (s.moveTo task sender).senders task = sender :=
    fun sender => Function.update_self ..
  simp only [hself, attempt_eq_posting_iff]
  constructor
  · rintro ⟨p, r, secret, hr, henabled, hblocked, hsecret, -⟩
    obtain ⟨hmem, rfl⟩ := Table.get?_eq_some.mp hr
    exact ⟨r, hr, henabled, hblocked, (((hstored r hmem).resolveSecret_eq_ok hf).mp hsecret).2⟩
  · rintro ⟨r, hr, henabled, hblocked, hkey⟩
    obtain ⟨hmem, rfl⟩ := Table.get?_eq_some.mp hr
    exact ⟨_, r, _, hr, henabled, hblocked,
      ((hstored r hmem).resolveSecret_eq_ok hf).mpr ⟨rfl, hkey⟩, rfl⟩

theorem attempt_posting_hook : ∃ p, (run (webhookStep WebhookEnv.shown) (start Table.empty)
    (hookEvents ++ [.attempt 1 digitsKey 1 "body" fun _ => none])).senders 1 = .posting p := by
  refine (attempt_posting_iff Fernet.documented_shown (fun _ h => absurd h List.not_mem_nil)
    hookEvents rfl).mpr ⟨_, rfl, rfl, rfl, ?_⟩
  rintro w ⟨⟩
  exact ⟨by decide, rfl⟩

end Step

end WebhookWorld

end CveManagement
