import CveManagement.Library.Countdown
import CveManagement.Sync.Queue

/-!
# Draining the queue

`drain_pending_jobs` of `app/workers/sync_job_worker.py` processes one job after the other until
there is none to claim. A failed job goes back to `pending`, and may be claimed again by the same
loop. Each claim takes up an attempt, so the loop makes no more claims than the pending jobs have
attempts left (`CveManagement.drain_terminates`).
-/

namespace CveManagement

/-! ### The loop -/

/-- How the job of a pass ends. -/
inductive Report
  /-- The sync returned: `_COMPLETE_SQL`. -/
  | completed
  /-- The sync raised, or `_COMPLETE_SQL` did: `_FAIL_SQL`, at its own time. -/
  | failed (now : Instant)
  /-- `_FAIL_SQL` raised as well. -/
  | escaped

/-- What a pass of the loop meets: the time of its claim, the order in which the database finds the
jobs, and the end of its job. -/
structure Pass where
  now : Instant
  order : RowOrder SyncJob
  report : Report

/-- The state of the loop: the table, and whether an exception has left the loop. -/
structure Drain where
  jobs : Table SyncJob SyncJob.id
  raised : Bool

namespace Drain

/-- The job that `_CLAIM_SQL` picks. -/
def nextJob (jobs : Table SyncJob SyncJob.id) (now : Instant) (order : RowOrder SyncJob) :
    Option SyncJob :=
  ((order.arrange (jobs.select (SyncJob.claimable now))).insertionSort fun a b =>
    SyncJob.before a b = true).head?

/-- An update of the job with an id. -/
def updateJob (jobs : Table SyncJob SyncJob.id) (id : ℕ) (c : Table.Assignment SyncJob.id) :
    Table SyncJob SyncJob.id :=
  jobs.update (fun j => j.id == id) c

/-- The statement that ends a job. -/
def reportJob (jobs : Table SyncJob SyncJob.id) (id : ℕ) : Report → Drain
  | .completed => ⟨updateJob jobs id SyncJob.complete, false⟩
  | .failed now => ⟨updateJob jobs id (SyncJob.fail now), false⟩
  | .escaped => ⟨jobs, true⟩

/-- **`process_one_job`**; none if there is nothing to claim, and so the loop is left. -/
def processOneJob (pass : Pass) (d : Drain) : Option Drain :=
  if d.raised then none
  else (nextJob d.jobs pass.now pass.order).map fun job =>
    reportJob (updateJob d.jobs job.id (SyncJob.claim pass.now)) job.id pass.report

end Drain

/-- **`drain_pending_jobs`**, with fuel: the number of its claims, and what it leaves. -/
def drainPendingJobs (passes : ℕ → Pass) (fuel : ℕ) (jobs : Table SyncJob SyncJob.id) :
    Option (ℕ × Drain) :=
  Countdown.loop (fun k => Drain.processOneJob (passes k)) fuel 0 ⟨jobs, false⟩

/-! ### The attempts that are left -/

/-- `max_attempts - attempts` of a pending job. -/
def SyncJob.left (j : SyncJob) : ℕ := if j.status = .pending then j.maxAttempts - j.attempts else 0

/-- The sum of `max_attempts - attempts` over the pending jobs. -/
def attemptsLeft (jobs : Table SyncJob SyncJob.id) : ℕ :=
  ((jobs.select fun j => j.status == .pending).map fun j => j.maxAttempts - j.attempts).sum

/-- A pending job has attempts left. -/
def PendingLeft (jobs : Table SyncJob SyncJob.id) : Prop :=
  ∀ j ∈ jobs.rows, j.status = .pending → j.attempts < j.maxAttempts

theorem attemptsLeft_eq (jobs : Table SyncJob SyncJob.id) :
    attemptsLeft jobs = (jobs.rows.map SyncJob.left).sum := by
  rw [attemptsLeft, Table.select]
  induction jobs.rows with
  | nil => rfl
  | cons j rows ih =>
    by_cases hj : j.status = .pending
    · simp [SyncJob.left, hj, ih]
    · simp [SyncJob.left, hj, ih]

section Step

variable {jobs : Table SyncJob SyncJob.id} {j : SyncJob} {c : Table.Assignment SyncJob.id}
  {now : Instant} {order : RowOrder SyncJob}

/-- The rows after an update of one job. -/
theorem Drain.mem_updateJob (hj : j ∈ jobs.rows) {r : SyncJob} :
    r ∈ (Drain.updateJob jobs j.id c).rows ↔ r = c.set j ∨ r ∈ jobs.rows ∧ r.id ≠ j.id := by
  rw [Drain.updateJob, Table.mem_update]
  constructor
  · rintro ⟨r, hr, rfl⟩
    by_cases hid : r.id = j.id
    · rw [Table.eq_of_key hr hj hid]
      simp
    · simp [hid, hr]
  · rintro (rfl | ⟨hr, hid⟩)
    · exact ⟨j, hj, by simp⟩
    · exact ⟨r, hr, by simp [hid]⟩

/-- **The sum after an update of one job**: its own attempts are exchanged. -/
theorem Drain.attemptsLeft_updateJob (hj : j ∈ jobs.rows) :
    attemptsLeft (Drain.updateJob jobs j.id c) + j.left = attemptsLeft jobs + (c.set j).left := by
  obtain ⟨pre, post, hrows⟩ := List.append_of_mem hj
  -- the other rows have other keys, and are kept
  have hothers : ∀ rows : List SyncJob, (∀ r ∈ rows, r.id ≠ j.id) →
      rows.map (SyncJob.left ∘ fun r => if (r.id == j.id) = true then c.set r else r) =
        rows.map SyncJob.left := by
    intro rows hne
    exact List.map_congr_left fun r hr => by simp [hne r hr]
  have hnodup := jobs.nodup
  rw [hrows, List.map_append, List.map_cons, List.nodup_append, List.nodup_cons] at hnodup
  obtain ⟨-, ⟨hpost, -⟩, hpre⟩ := hnodup
  have hpre_ne : ∀ r ∈ pre, r.id ≠ j.id := fun r hr =>
    hpre r.id (List.mem_map_of_mem hr) j.id List.mem_cons_self
  have hpost_ne : ∀ r ∈ post, r.id ≠ j.id := fun r hr hid =>
    hpost (hid ▸ List.mem_map_of_mem hr)
  have hself : (if (j.id == j.id) = true then c.set j else j) = c.set j :=
    if_pos (beq_self_eq_true _)
  have hupdated : (Drain.updateJob jobs j.id c).rows =
      jobs.rows.map fun r => if (r.id == j.id) = true then c.set r else r := rfl
  rw [attemptsLeft_eq, attemptsLeft_eq, hupdated, hrows]
  simp only [List.map_map, List.map_append, List.map_cons, List.sum_append, List.sum_cons,
    hothers pre hpre_ne, hothers post hpost_ne, hself]
  omega

theorem Drain.nextJob_spec (h : Drain.nextJob jobs now order = some j) :
    j ∈ jobs.rows ∧ j.status = .pending := by
  have hmem : j ∈ order.arrange (jobs.select (SyncJob.claimable now)) :=
    (List.mem_insertionSort _).mp (List.mem_of_mem_head? h)
  obtain ⟨hrow, hclaimable⟩ := Table.mem_select.mp ((order.perm _).mem_iff.mp hmem)
  exact ⟨hrow, (SyncQueue.claimable_iff.mp hclaimable).1⟩

/-- The update of a pending job keeps what the loop needs, if the job comes back with attempts left
or not at all. -/
theorem Drain.pendingLeft_updateJob (h : PendingLeft jobs) (hj : j ∈ jobs.rows)
    (hset : (c.set j).status = .pending → (c.set j).attempts < (c.set j).maxAttempts) :
    PendingLeft (Drain.updateJob jobs j.id c) := by
  intro r hr hpending
  rcases (Drain.mem_updateJob hj).mp hr with rfl | ⟨hr, -⟩
  · exact hset hpending
  · exact h r hr hpending

/-- **What a claim costs**: the job is not pending any more, so all its attempts are gone for
now. -/
theorem Drain.claim_spec (now : Instant) (h : PendingLeft jobs) (hj : j ∈ jobs.rows)
    (hpending : j.status = .pending) :
    PendingLeft (Drain.updateJob jobs j.id (SyncJob.claim now)) ∧
      attemptsLeft (Drain.updateJob jobs j.id (SyncJob.claim now)) + (j.maxAttempts - j.attempts) =
        attemptsLeft jobs := by
  have hleft : j.left = j.maxAttempts - j.attempts := if_pos hpending
  have hclaimed : ((SyncJob.claim now).set j).left = 0 := if_neg (by simp [SyncJob.claim])
  have hsum := Drain.attemptsLeft_updateJob (c := SyncJob.claim now) hj
  refine ⟨Drain.pendingLeft_updateJob h hj fun hst => absurd hst (by simp [SyncJob.claim]), ?_⟩
  omega

/-- **What a report gives back**: at most the attempts that the claim has left. -/
theorem Drain.reportJob_spec (h : PendingLeft jobs) (hj : j ∈ jobs.rows)
    (hrunning : j.status = .running) (report : Report) :
    PendingLeft (Drain.reportJob jobs j.id report).jobs ∧
      attemptsLeft (Drain.reportJob jobs j.id report).jobs ≤
        attemptsLeft jobs + (j.maxAttempts - j.attempts) := by
  have hleft : j.left = 0 := if_neg (by simp [hrunning])
  cases report with
  | completed =>
    have hset : (SyncJob.complete.set j).left = 0 := if_neg (by simp [SyncJob.complete])
    have hsum := Drain.attemptsLeft_updateJob (c := SyncJob.complete) hj
    have hjobs : (Drain.reportJob jobs j.id .completed).jobs =
        Drain.updateJob jobs j.id SyncJob.complete := rfl
    rw [hjobs]
    refine ⟨Drain.pendingLeft_updateJob h hj fun hst => absurd hst (by simp [SyncJob.complete]), ?_⟩
    omega
  | failed now =>
    have hset : ((SyncJob.fail now).set j).left ≤ j.maxAttempts - j.attempts := by
      rw [SyncJob.left]
      split_ifs
      · exact le_refl _
      · exact Nat.zero_le _
    have hsum := Drain.attemptsLeft_updateJob (c := SyncJob.fail now) hj
    have hjobs : (Drain.reportJob jobs j.id (.failed now)).jobs =
        Drain.updateJob jobs j.id (SyncJob.fail now) := rfl
    rw [hjobs]
    refine ⟨Drain.pendingLeft_updateJob h hj fun hst => ?_, ?_⟩
    · -- the case split of `_FAIL_SQL`: pending again only if there are attempts left
      by_contra hge
      have hdead : ((SyncJob.fail now).set j).status = .dead := if_pos (not_lt.mp hge)
      rw [hst] at hdead
      cases hdead
    · omega
  | escaped => exact ⟨h, Nat.le_add_right _ _⟩

/-- **A pass takes up an attempt.** -/
theorem Drain.processOneJob_spec {pass : Pass} {d d' : Drain} (h : PendingLeft d.jobs)
    (hpass : Drain.processOneJob pass d = some d') :
    PendingLeft d'.jobs ∧ attemptsLeft d'.jobs < attemptsLeft d.jobs := by
  unfold Drain.processOneJob at hpass
  split_ifs at hpass
  obtain ⟨j, hnext, rfl⟩ := Option.map_eq_some_iff.mp hpass
  obtain ⟨hj, hpending⟩ := Drain.nextJob_spec hnext
  obtain ⟨hclaim, hcost⟩ := Drain.claim_spec pass.now h hj hpending
  have hclaimed := (Drain.mem_updateJob (c := SyncJob.claim pass.now) hj).mpr (.inl rfl)
  obtain ⟨hreport, hback⟩ := Drain.reportJob_spec hclaim hclaimed rfl pass.report
  refine ⟨hreport, lt_of_le_of_lt hback ?_⟩
  have hlt := h j hj hpending
  -- the claim has counted one attempt
  have hcount : ((SyncJob.claim pass.now).set j).maxAttempts -
      ((SyncJob.claim pass.now).set j).attempts = j.maxAttempts - (j.attempts + 1) := rfl
  omega

end Step

/-! ### The bound -/

/-- **Draining ends**: whatever the clock does and however the jobs end, after at most as many
claims as the pending jobs have attempts left there is nothing to claim, or an exception has left
the loop. -/
theorem drain_terminates (passes : ℕ → Pass) (jobs : Table SyncJob SyncJob.id)
    (hpending : ∀ j ∈ jobs.rows, j.status = .pending → j.attempts < j.maxAttempts) :
    ∃ n, n ≤ attemptsLeft jobs ∧ ∃ d,
      (d.raised = true ∨ Drain.nextJob d.jobs (passes n).now (passes n).order = none) ∧
      ∀ fuel, n < fuel → drainPendingJobs passes fuel jobs = some (n, d) := by
  obtain ⟨n, hn, d, hbreak, -, hloop⟩ := Countdown.loop_of_measure
    (fun k => Drain.processOneJob (passes k)) (fun d => PendingLeft d.jobs)
    (fun d => attemptsLeft d.jobs)
    (fun k d d' hinv hpass => Drain.processOneJob_spec hinv hpass) (s := ⟨jobs, false⟩) hpending 0
  rw [Nat.zero_add] at hbreak
  refine ⟨n, hn, d, ?_, fun fuel hfuel => by rw [drainPendingJobs, hloop fuel hfuel, Nat.zero_add]⟩
  unfold Drain.processOneJob at hbreak
  split_ifs at hbreak with hraised
  · exact .inl hraised
  · exact .inr (Option.map_eq_none_iff.mp hbreak)

/-- One job with three attempts; its sync raises each time, a day apart. -/
theorem drain_terminates_three : ∃ n : ℕ, n ≤ 3 ∧ ∃ d : Drain,
    (d.raised = true ∨ Drain.nextJob d.jobs (n * seconds 86400) RowOrder.insertion = none) ∧
    ∀ fuel, n < fuel → drainPendingJobs
      (fun k => ⟨k * seconds 86400, RowOrder.insertion, .failed (k * seconds 86400)⟩) fuel
      (Table.empty.insert fun n => ⟨n, 1, .pending, 10, 0, 3, 0, none⟩) = some (n, d) :=
  drain_terminates (fun k => ⟨k * seconds 86400, RowOrder.insertion, .failed (k * seconds 86400)⟩)
    (Table.empty.insert fun n => ⟨n, 1, .pending, 10, 0, 3, 0, none⟩)
    (fun j hj _ => by
      rw [List.mem_singleton.mp hj]
      decide)

/-! ### The worker -/

/-- **A pass of the worker of the database is a pass of the loop**, that completes its job or fails
it. -/
theorem syncJobs_processOneJob_eq (ctx : SyncContext) (order : RowOrder SyncJob) (now : Instant)
    (s : System) :
    ∃ report, (processOneJob ctx order now s).syncJobs =
      ((Drain.processOneJob ⟨now, order, report⟩ ⟨s.syncJobs, false⟩).map Drain.jobs).getD
        s.syncJobs := by
  have hnext : Drain.nextJob s.syncJobs now order = s.nextJob now order := rfl
  cases hjob : s.nextJob now order with
  | none =>
    refine ⟨.completed, ?_⟩
    rw [processOneJob, hjob, Drain.processOneJob, hnext, hjob]
    rfl
  | some j =>
    -- the sync does not touch the queue
    have hsync := SyncQueue.syncJobs_syncProduct ctx now j.targetId
      (s.updateJob j.id (SyncJob.claim now))
    rw [processOneJob, hjob]
    dsimp only
    rcases hrun : syncProduct ctx now j.targetId (s.updateJob j.id (SyncJob.claim now)) with
      ⟨_ | _, s'⟩
    · have hjobs : s'.syncJobs = Drain.updateJob s.syncJobs j.id (SyncJob.claim now) := by
        rw [hrun] at hsync
        exact hsync
      refine ⟨.failed now, ?_⟩
      simp only [Drain.processOneJob, hnext, hjob, System.updateJob, hjobs]
      rfl
    · have hjobs : s'.syncJobs = Drain.updateJob s.syncJobs j.id (SyncJob.claim now) := by
        rw [hrun] at hsync
        exact hsync
      refine ⟨.completed, ?_⟩
      simp only [Drain.processOneJob, hnext, hjob, System.updateJob, hjobs]
      rfl

end CveManagement
