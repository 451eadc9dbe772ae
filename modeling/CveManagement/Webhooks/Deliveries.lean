import CveManagement.Library.Rounding
import CveManagement.Library.Table
import CveManagement.Library.Trajectory
import CveManagement.Sync.Jobs
import Mathlib

/-!
# The webhook delivery worker

`app/workers/webhook_worker.py`. `drain_pending_deliveries` claims up to twenty due deliveries and
attempts each of them in a task of its own. What a task does between two points where it can be
suspended is an action (`CveManagement.DeliveryAction`): the POST, one of the two statements that
record an outcome, or a note on the webhook. `CveManagement.attemptDelivery` lists the actions of
an attempt.

The tasks of one worker or of several take their actions in any order, each with the values of
`attempts` and `max_attempts` that its claim has returned, and for as long as it takes: the lock
of a delivery runs out after a minute, and another worker may then claim it again. An exception
that the attempt does not expect ends it, and is recorded as a failure like the others.
-/

namespace CveManagement

/-! ### Deliveries -/

/-- A row of `webhook_deliveries`. -/
structure WebhookDelivery where
  id : ℕ
  webhookId : ℕ
  statusCode : Option ℕ
  responseBody : Option String
  attempts : ℕ
  maxAttempts : ℕ
  scheduledAt : Instant
  deliveredAt : Option Instant
  lastError : Option String
  lockedUntil : Option Instant

namespace WebhookDelivery

/-- A row as `enqueue_delivery` inserts it; the table has a default of five for
`max_attempts`. -/
def new (webhookId maxAttempts : ℕ) (now : Instant) (n : ℕ) : WebhookDelivery :=
  ⟨n, webhookId, none, none, 0, maxAttempts, now, none, none, none⟩

/-- The condition of `_CLAIM_SQL`. -/
def due (now : Instant) (d : WebhookDelivery) : Bool :=
  d.deliveredAt.isNone && decide (d.attempts < d.maxAttempts) && decide (d.scheduledAt ≤ now) &&
    d.lockedUntil.all fun t => decide (t ≤ now)

/-- `ORDER BY scheduled_at ASC`. -/
def before (a b : WebhookDelivery) : Bool := decide (a.scheduledAt ≤ b.scheduledAt)

/-- The `SET` clause of `_CLAIM_SQL`, with `_LOCK_DURATION_SECONDS`. -/
def claim (now : Instant) : Table.Assignment WebhookDelivery.id where
  set d := { d with
    lockedUntil := some (now + seconds 60)
    attempts := d.attempts + 1 }
  key_set _ := rfl

/-- The `SET` clause of `_MARK_SUCCESS_SQL`. -/
def markSuccess (now : Instant) (statusCode : ℕ) (responseBody : String) :
    Table.Assignment WebhookDelivery.id where
  set d := { d with
    deliveredAt := some now
    statusCode := some statusCode
    responseBody := some responseBody
    lastError := none
    lockedUntil := none }
  key_set _ := rfl

/-- The `SET` clause of `_MARK_FAILURE_SQL`. -/
def markFailure (statusCode : Option ℕ) (responseBody : Option String) (error : String)
    (schedule : Instant) : Table.Assignment WebhookDelivery.id where
  set d := { d with
    statusCode := statusCode
    responseBody := responseBody
    lastError := some error
    lockedUntil := none
    scheduledAt := schedule }
  key_set _ := rfl

end WebhookDelivery

/-! ### The schedule of retries -/

/-- `_BACKOFF_SECONDS`. -/
def backoffSeconds : List ℕ := [60, 5 * 60, 30 * 60, 2 * 3600, 12 * 3600]

/-- **What `random.uniform(0.0, …)` returns**, as a share of its upper end. -/
structure Jitter where
  share : ℚ
  nonneg : 0 ≤ share
  le_one : share ≤ 1

/-- `_next_attempt_delay`, in seconds. -/
def nextAttemptDelay (nextAttemptIdx : ℕ) (jitter : Jitter) : ℚ :=
  let bucket := min (nextAttemptIdx - 1) (backoffSeconds.length - 1)
  let base : ℚ := backoffSeconds.getD bucket 0
  base + jitter.share * (1 / 4 * base)

/-- `timedelta(seconds=…)`, which has whole microseconds. -/
def timedelta (delay : ℚ) : Instant := Rounding.halfEven (delay * 1000000)

/-- The `scheduled_at` that `_record_failure` writes, from the `attempts` and `max_attempts` that
the claim has returned. -/
def failureSchedule (now : Instant) (jitter : Jitter) (attempts maxAttempts : ℕ) : Instant :=
  let nextAttempt := attempts + 1
  if maxAttempts ≤ nextAttempt then now
  else now + timedelta (nextAttemptDelay (nextAttempt + 1) jitter)

/-! ### One attempt -/

/-- The row of a webhook, as far as an attempt reads it. -/
structure WebhookTarget where
  url : String
  enabled : Bool

/-- What `client.post` does: it refuses to send the body, raises an `HTTPError`, or returns. -/
inductive PostOutcome
  | opsecViolation (reason : String)
  | httpError (error : String)
  | response (statusCode : ℕ) (text : String)

/-- What an attempt meets with. -/
structure AttemptEnv where
  /-- The row of the webhook, if it is still there. -/
  target : Option WebhookTarget
  /-- The `SsrfBlockedError` of `assert_url_allowed`. -/
  ssrfBlocked : String → Option String
  /-- The name of the exception of `resolve_secret`. -/
  secretUnreadable : Option String
  /-- What becomes of the request. -/
  post : PostOutcome

/-- **What a task does** between two points where it can be suspended. -/
inductive DeliveryAction
  /-- The body leaves for the webhook. -/
  | post
  /-- `_MARK_SUCCESS_SQL`. -/
  | markSuccess (statusCode : ℕ) (responseBody : String)
  /-- `_record_failure`. -/
  | recordFailure (statusCode : Option ℕ) (error : String) (responseBody : Option String)
  /-- `_BUMP_WEBHOOK_SUCCESS_SQL` or `_BUMP_WEBHOOK_FAILURE_SQL`, on the row of the webhook. -/
  | bumpWebhook (error : Option String)
  deriving DecidableEq

/-- `resp.text[:2000]`. -/
def excerpt (text : String) : String := String.ofList (text.toList.take 2000)

/-- **`_attempt_delivery`**, as the list of its actions. -/
def attemptDelivery (env : AttemptEnv) : List DeliveryAction :=
  match env.target with
  | none => [.markSuccess 410 "webhook_deleted"]
  | some target =>
    if !target.enabled then [.recordFailure none "webhook_disabled" none]
    else match env.ssrfBlocked target.url with
      | some e =>
        [.recordFailure none ("ssrf_blocked:" ++ e) none,
          .bumpWebhook (some ("ssrf_blocked:" ++ e))]
      | none => match env.secretUnreadable with
        | some e => [.recordFailure none ("webhook_secret_unreadable:" ++ e) none]
        | none => match env.post with
          | .opsecViolation reason => [.recordFailure none ("opsec_violation:" ++ reason) none]
          | .httpError e => [.post, .recordFailure none ("http_error:" ++ e) none]
          | .response code text =>
            if 200 ≤ code ∧ code < 300 then
              [.post, .markSuccess code (excerpt text), .bumpWebhook none]
            else
              [.post, .recordFailure (some code) ("http_" ++ toString code) (some (excerpt text)),
                .bumpWebhook (some ("http_" ++ toString code))]

/-- **An attempt makes one POST at most.** -/
theorem count_post_attemptDelivery (env : AttemptEnv) :
    (attemptDelivery env).count .post ≤ 1 := by
  unfold attemptDelivery
  split
  · simp
  · split_ifs
    · simp
    · split
      · simp
      · split
        · simp
        · split
          · simp
          · simp
          · split_ifs <;> simp

/-- **Every attempt ends in one record**: of a success, or of a failure. -/
theorem records_attemptDelivery (env : AttemptEnv) :
    ((attemptDelivery env).filter fun a => match a with
      | .markSuccess .. | .recordFailure .. => true
      | _ => false).length = 1 := by
  unfold attemptDelivery
  split
  · rfl
  · split_ifs
    · rfl
    · split
      · rfl
      · split
        · rfl
        · split
          · rfl
          · rfl
          · split_ifs <;> rfl

/-! ### Workers -/

/-- **A task**: the values that its claim has returned, the actions that are left, whether it is
in its `except` clause, and the POSTs it has made. -/
structure DeliveryTask where
  deliveryId : ℕ
  attempts : ℕ
  maxAttempts : ℕ
  actions : List DeliveryAction
  handling : Bool
  posts : ℕ

namespace DeliveryTask

/-- The task after its next action. -/
def advance (t : DeliveryTask) (a : DeliveryAction) (rest : List DeliveryAction) : DeliveryTask :=
  { t with
    actions := rest
    posts := t.posts + if a = .post then 1 else 0 }

/-- The task after an exception: the `except` clause of `_bounded` records it, and an exception
of that clause ends the task. -/
def raise (t : DeliveryTask) (error : String) : DeliveryTask :=
  if t.handling then { t with actions := [] }
  else
    { t with
      actions := [.recordFailure none ("internal:" ++ error) none]
      handling := true }

end DeliveryTask

/-- The table, and the tasks of all workers, those that have ended included. -/
structure WebhookQueue where
  deliveries : Table WebhookDelivery WebhookDelivery.id
  tasks : List DeliveryTask

namespace WebhookQueue

/-- What happens to the queue; each statement reads the clock for itself. -/
inductive Event
  /-- `enqueue_delivery`. -/
  | enqueue (webhookId maxAttempts : ℕ) (now : Instant)
  /-- `_CLAIM_SQL` of a worker, while other transactions lock some rows, and what the attempts
  meet with. -/
  | claim (now : Instant) (order : RowOrder WebhookDelivery) (locked : ℕ → Bool)
    (env : ℕ → AttemptEnv)
  /-- A task takes its next action. -/
  | act (i : ℕ) (now : Instant) (jitter : Jitter)
  /-- A task raises what `_attempt_delivery` does not catch, at the latest when its last
  statement goes unacknowledged. -/
  | raise (i : ℕ) (error : String)
  /-- A task is gone with its worker. -/
  | crash (i : ℕ)

/-- No delivery and no task. -/
def start : WebhookQueue := ⟨Table.empty, []⟩

/-- The rows that the subquery of `_CLAIM_SQL` returns, up to `_BATCH_SIZE`. -/
def pick (s : WebhookQueue) (now : Instant) (order : RowOrder WebhookDelivery)
    (locked : ℕ → Bool) : List WebhookDelivery :=
  ((order.arrange (s.deliveries.select fun d => d.due now && !locked d.id)).insertionSort
    fun a b => WebhookDelivery.before a b = true).take 20

/-- The task of a claimed delivery. -/
def newTask (env : ℕ → AttemptEnv) (d : WebhookDelivery) : DeliveryTask :=
  ⟨d.id, d.attempts + 1, d.maxAttempts, attemptDelivery (env d.id), false, 0⟩

/-- The row with an id is rewritten. -/
def update (s : WebhookQueue) (id : ℕ) (c : Table.Assignment WebhookDelivery.id) :
    WebhookQueue :=
  { s with deliveries := s.deliveries.update (fun d => d.id == id) c }

/-- A task goes on as another one. -/
def setTask (s : WebhookQueue) (i : ℕ) (t : DeliveryTask) : WebhookQueue :=
  { s with tasks := s.tasks.set i t }

/-- What an action does to the table. -/
def perform (s : WebhookQueue) (t : DeliveryTask) (now : Instant) (jitter : Jitter) :
    DeliveryAction → WebhookQueue
  | .post | .bumpWebhook _ => s
  | .markSuccess statusCode responseBody =>
    s.update t.deliveryId (WebhookDelivery.markSuccess now statusCode responseBody)
  | .recordFailure statusCode error responseBody =>
    s.update t.deliveryId (WebhookDelivery.markFailure statusCode responseBody error
      (failureSchedule now jitter t.attempts t.maxAttempts))

/-- **One step.** -/
def step (s : WebhookQueue) : Event → WebhookQueue
  | .enqueue webhookId maxAttempts now =>
    { s with deliveries := s.deliveries.insert (WebhookDelivery.new webhookId maxAttempts now) }
  | .claim now order locked env =>
    let claimed := s.pick now order locked
    { deliveries :=
        s.deliveries.update (fun d => (claimed.map WebhookDelivery.id).contains d.id)
          (WebhookDelivery.claim now)
      tasks := s.tasks ++ claimed.map (newTask env) }
  | .act i now jitter =>
    match s.tasks[i]? with
    | none => s
    | some t =>
      match t.actions with
      | [] => s
      | a :: rest => (s.perform t now jitter a).setTask i (t.advance a rest)
  | .raise i error => (s.tasks[i]?).elim s fun t => s.setTask i (t.raise error)
  | .crash i => (s.tasks[i]?).elim s fun t => s.setTask i { t with actions := [] }

/-- The deliveries that a step claims. -/
def claims (s : WebhookQueue) : Event → List ℕ
  | .claim now order locked _ => (s.pick now order locked).map WebhookDelivery.id
  | _ => []

/-- **The POSTs made for a delivery.** -/
def posts (s : WebhookQueue) (id : ℕ) : ℕ :=
  ((s.tasks.filter fun t => t.deliveryId == id).map DeliveryTask.posts).sum

end WebhookQueue

end CveManagement
