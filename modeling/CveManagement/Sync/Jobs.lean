import CveManagement.Sync.Counts
import Mathlib

/-!
# The queue of sync jobs

The two requests that fill the queue, `resync_all` and `manual_sync`, and the worker that
empties it, `process_one_job` of `app/workers/sync_job_worker.py`: it claims a job, syncs its
product, and completes the job or puts it back. Neither the requests nor the worker look at
`products.is_deleted`.
-/

namespace CveManagement

/-! ### The requests -/

/-- `POST /api/products/resync-all`; `order` is the order of the names. The audit row of the
batch is written apart, and left out. -/
def resyncAll (now : Instant) (user : AuthUser) (order : RowOrder Product) (s : System) :
    Except ApiError System :=
  if !user.mayWrite then .error (forbidden user)
  else .ok ((order.arrange s.db.products.rows).foldl (fun s p => s.enqueueSync now p.id 100) s)

/-- `POST /api/products/{product_id}/sync`. -/
def manualSync (now : Instant) (productId : ℕ) (user : AuthUser) (s : System) :
    Except ApiError System :=
  if !user.mayWrite then .error (forbidden user)
  else match s.db.products.get? productId with
    | none => .error (.http 404 "Product not found")
    | some _ =>
      -- the audit row is written whether there is a new job or not
      let queued := s.enqueueSync now productId 10
      .ok { queued with
        db := queued.db.recordInTx "product.sync" "product" (toString productId) user.email
          user.role now }

/-! ### The worker -/

/-- A number of seconds, in the unit of `CveManagement.Instant`. -/
def seconds (n : ℕ) : Instant := 1000000 * (n : ℤ)

namespace SyncJob

/-- The condition of `_CLAIM_SQL`. -/
def claimable (now : Instant) (j : SyncJob) : Bool :=
  -- `scheduled_at` orders the jobs, and keeps none of them back
  j.status == .pending && j.lockedUntil.all fun t => decide (t < now)

/-- `ORDER BY priority DESC, scheduled_at ASC`. -/
def before (a b : SyncJob) : Bool :=
  decide (b.priority < a.priority) ||
    (a.priority == b.priority && decide (a.scheduledAt ≤ b.scheduledAt))

/-- The `SET` clause of `_CLAIM_SQL`. -/
def claim (now : Instant) : Table.Assignment SyncJob.id where
  set j := { j with
    status := .running
    lockedUntil := some (now + seconds 300)
    attempts := j.attempts + 1 }
  key_set _ := rfl

/-- The `SET` clause of `_COMPLETE_SQL`. -/
def complete : Table.Assignment SyncJob.id where
  set j := { j with status := .completed }
  key_set _ := rfl

/-- The `SET` clause of `_FAIL_SQL`. -/
def fail (now : Instant) : Table.Assignment SyncJob.id where
  set j := { j with
    -- `locked_until` stays as it is, so the job rests until the lock has run out
    status := if j.maxAttempts ≤ j.attempts then .dead else .pending
    scheduledAt := if j.attempts < j.maxAttempts then
        now + seconds (30 * 2 ^ (j.attempts - 1))
      else j.scheduledAt }
  key_set _ := rfl

end SyncJob

namespace System

/-- The job that `_CLAIM_SQL` picks; `order` decides between jobs of one rank. -/
def nextJob (s : System) (now : Instant) (order : RowOrder SyncJob) : Option SyncJob :=
  ((order.arrange (s.syncJobs.select (SyncJob.claimable now))).insertionSort fun a b =>
    SyncJob.before a b = true).head?

/-- An update of the job with an id. -/
def updateJob (s : System) (id : ℕ) (c : Table.Assignment SyncJob.id) : System :=
  { s with syncJobs := s.syncJobs.update (fun j => j.id == id) c }

end System

/-- **`process_one_job`**, in one step; without a job to claim it does nothing. -/
def processOneJob (ctx : SyncContext) (order : RowOrder SyncJob) (now : Instant) (s : System) :
    System :=
  match s.nextJob now order with
  | none => s
  | some job =>
    match syncProduct ctx now job.targetId (s.updateJob job.id (SyncJob.claim now)) with
    | (.ok _, s') => s'.updateJob job.id SyncJob.complete
    -- what the sync has written before it raised stays written
    | (.error _, s') => s'.updateJob job.id (SyncJob.fail now)

end CveManagement
