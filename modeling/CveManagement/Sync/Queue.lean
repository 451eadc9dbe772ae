import CveManagement.Library.Trajectory
import CveManagement.Sync.Jobs
import Mathlib

/-!
# Many workers on the queue of sync jobs

Each replica runs `drain_pending_jobs`, which takes one job after the other: the statement of
`_CLAIM_SQL`, then the sync, then `_COMPLETE_SQL` or `_FAIL_SQL`. The statements of different
workers come in any order, a worker can be gone between any two of them, and requests put jobs
in at any time. A run is a list of such steps (`CveManagement.SyncQueue.Event`).

What the queue keeps through every run is collected in `CveManagement.SyncQueue.Safe`. It
needs one more fact to be inductive: a job that a worker executes is `running`
(`CveManagement.SyncQueue.Sound`).
-/

namespace CveManagement

/-- **The queue**: the clock of the database, the table `sync_jobs`, and the job that each
worker executes. -/
structure SyncQueue (ω : Type) where
  clock : Instant
  jobs : Table SyncJob SyncJob.id
  executing : ω → Option ℕ

namespace SyncQueue

open Trajectory

variable {ω : Type} [DecidableEq ω]

/-- What happens to the queue. -/
inductive Event (ω : Type)
  /-- Time passes, in microseconds. -/
  | elapse (d : ℕ)
  /-- `_enqueue_sync`; `seen` is what its `NOT EXISTS` saw, which may be out of date by now. -/
  | enqueue (productId priority : ℕ) (maxAttempts : ℕ+) (seen : Bool)
  /-- `_CLAIM_SQL` of a worker, while other transactions lock some rows. -/
  | claim (w : ω) (order : RowOrder SyncJob) (locked : ℕ → Bool)
  /-- The sync has returned: `_COMPLETE_SQL`. -/
  | complete (w : ω)
  /-- The sync has raised: `_FAIL_SQL`. -/
  | fail (w : ω)
  /-- The worker is gone; another one may come under its name. -/
  | crash (w : ω)

/-- The default of the column `max_attempts`. -/
def defaultMaxAttempts : ℕ+ := 3

/-- No job yet, and nobody at work. -/
def start (now : Instant) : SyncQueue ω := ⟨now, Table.empty, fun _ => none⟩

/-- The job that the subquery of `_CLAIM_SQL` returns: `FOR UPDATE SKIP LOCKED LIMIT 1`. -/
def pick (s : SyncQueue ω) (order : RowOrder SyncJob) (locked : ℕ → Bool) : Option SyncJob :=
  ((order.arrange (s.jobs.select fun j => j.claimable s.clock && !locked j.id)).insertionSort
    fun a b => SyncJob.before a b = true).head?

/-- The job that a worker gets. A worker at work does not ask for one. -/
def claimed (s : SyncQueue ω) (w : ω) (order : RowOrder SyncJob) (locked : ℕ → Bool) :
    Option SyncJob :=
  if (s.executing w).isSome then none else s.pick order locked

/-- The job with an id is rewritten, and its worker takes up another job, or none. -/
def assign (s : SyncQueue ω) (w : ω) (id : ℕ) (c : Table.Assignment SyncJob.id)
    (next : Option ℕ) : SyncQueue ω :=
  { s with
    jobs := s.jobs.update (fun j => j.id == id) c
    executing := Function.update s.executing w next }

/-- An active job of the product is in the table; `uq_sync_jobs_active` lets in no second one. -/
def hasActive (s : SyncQueue ω) (productId : ℕ) : Bool :=
  s.jobs.rows.any fun j => j.targetId == productId && j.active

/-- **One step.** -/
def step (s : SyncQueue ω) : Event ω → SyncQueue ω
  | .elapse d => { s with clock := s.clock + d }
  | .enqueue productId priority maxAttempts seen =>
    if seen || s.hasActive productId then s
    else
      { s with jobs := s.jobs.insert fun n =>
          ⟨n, productId, .pending, priority, 0, maxAttempts, s.clock, none⟩ }
  | .claim w order locked =>
    match s.claimed w order locked with
    | none => s
    | some j => s.assign w j.id (SyncJob.claim s.clock) (some j.id)
  | .complete w => (s.executing w).elim s fun id => s.assign w id SyncJob.complete none
  | .fail w => (s.executing w).elim s fun id => s.assign w id (SyncJob.fail s.clock) none
  | .crash w => { s with executing := Function.update s.executing w none }

/-- A job has reached its end. -/
def Final (j : SyncJob) : Prop := j.status = .completed ∨ j.status = .dead

/-- **What the queue keeps.** -/
structure Safe (s : SyncQueue ω) : Prop where
  attempts_le : ∀ j ∈ s.jobs.rows, j.attempts ≤ j.maxAttempts
  pending_lt : ∀ j ∈ s.jobs.rows, j.status = .pending → j.attempts < j.maxAttempts
  one_worker : ∀ w w' id, s.executing w = some id → s.executing w' = some id → w = w'
  one_active : ∀ j ∈ s.jobs.rows, ∀ j' ∈ s.jobs.rows, j.active = true → j'.active = true →
    j.targetId = j'.targetId → j = j'

/-- **The inductive form**: and who executes a job finds it running. -/
structure Sound (s : SyncQueue ω) : Prop extends Safe s where
  running : ∀ w id, s.executing w = some id → ∃ j ∈ s.jobs.rows, j.id = id ∧ j.status = .running

/-! ### One step -/

section Step

variable {s : SyncQueue ω} {w : ω} {order : RowOrder SyncJob} {locked : ℕ → Bool}
  {j j' : SyncJob} {id : ℕ} {c : Table.Assignment SyncJob.id} {next : Option ℕ}

omit [DecidableEq ω] in
theorem claimable_iff {now : Instant} :
    j.claimable now = true ↔ j.status = .pending ∧ ∀ t, j.lockedUntil = some t → t < now := by
  rw [SyncJob.claimable, Bool.and_eq_true, beq_iff_eq, Option.all_eq_true]
  simp only [decide_eq_true_eq]

omit [DecidableEq ω] in
/-- **What a worker gets is claimable**, and the worker was idle. -/
theorem claimed_spec (h : s.claimed w order locked = some j) :
    s.executing w = none ∧ j ∈ s.jobs.rows ∧ j.claimable s.clock = true := by
  unfold claimed at h
  split_ifs at h with hbusy
  have hmem : j ∈ order.arrange (s.jobs.select fun j => j.claimable s.clock && !locked j.id) :=
    (List.mem_insertionSort _).mp (List.mem_of_mem_head? h)
  obtain ⟨hrow, hcond⟩ := Table.mem_select.mp ((order.perm _).mem_iff.mp hmem)
  exact ⟨Option.not_isSome_iff_eq_none.mp hbusy, hrow, (Bool.and_eq_true_iff.mp hcond).1⟩

/-- Where a row comes from after an assignment: the job was rewritten, or was there. -/
theorem mem_assign_cases (h : j' ∈ (s.assign w id c next).jobs.rows) :
    (∃ j ∈ s.jobs.rows, j.id = id ∧ j' = c.set j) ∨ j' ∈ s.jobs.rows := by
  obtain ⟨j, hj, rfl⟩ := Table.mem_update.mp h
  by_cases hid : j.id = id
  · exact .inl ⟨j, hj, hid, if_pos (by simp [hid])⟩
  · rw [if_neg (by simp [hid])]
    exact .inr hj

/-- The rows after an assignment: the one job rewritten, the others as they were. -/
theorem mem_assign (hj : j ∈ s.jobs.rows) (hid : j.id = id) :
    j' ∈ (s.assign w id c next).jobs.rows ↔
      j' = c.set j ∨ j' ∈ s.jobs.rows ∧ j'.id ≠ id := by
  subst hid
  rw [assign, Table.mem_update]
  constructor
  · rintro ⟨r, hr, rfl⟩
    by_cases hk : r.id = j.id
    · rw [Table.eq_of_key hr hj hk]
      simp
    · simp [hk, hr]
  · rintro (rfl | ⟨hr, hne⟩)
    · exact ⟨j, hj, by simp⟩
    · exact ⟨j', hr, by simp [hne]⟩

/-- The job under another id is as it was. -/
theorem get?_assign_of_ne {k : ℕ} (hne : k ≠ id) :
    (s.assign w id c next).jobs.get? k = s.jobs.get? k := by
  rw [assign, Table.get?_update]
  cases hk : s.jobs.get? k with
  | none => rfl
  | some r =>
    have hkey : r.id ≠ id := (Table.get?_eq_some.mp hk).2.symm ▸ hne
    simp [hkey]

theorem get?_assign (hj : s.jobs.get? id = some j) :
    (s.assign w id c next).jobs.get? id = some (c.set j) := by
  have hkey : j.id = id := (Table.get?_eq_some.mp hj).2
  rw [assign, Table.get?_update, hj]
  simp [hkey]

/-- **An assignment keeps the queue sound** if the job was active and its worker is right: the
counts are in bounds, the product is the same, and whoever executes the job after it finds it
running. -/
theorem sound_assign (h : Sound s) (hj : j ∈ s.jobs.rows) (hactive : j.active = true)
    (hle : (c.set j).attempts ≤ (c.set j).maxAttempts)
    (hlt : (c.set j).status = .pending → (c.set j).attempts < (c.set j).maxAttempts)
    (htarget : (c.set j).targetId = j.targetId)
    (hothers : ∀ w', w' ≠ w → s.executing w' ≠ some j.id)
    (hnext : ∀ id, next = some id → id = j.id ∧ (c.set j).status = .running) :
    Sound (s.assign w j.id c next) where
  attempts_le := by
    intro r hr
    rcases (mem_assign hj rfl).mp hr with rfl | ⟨hr, -⟩
    · exact hle
    · exact h.attempts_le r hr
  pending_lt := by
    intro r hr hpending
    rcases (mem_assign hj rfl).mp hr with rfl | ⟨hr, -⟩
    · exact hlt hpending
    · exact h.pending_lt r hr hpending
  one_worker := by
    -- the others do not execute this job, and among themselves nothing has changed
    intro w₁ w₂ id h₁ h₂
    simp only [assign, Function.update_apply] at h₁ h₂
    split_ifs at h₁ h₂ with hw₁ hw₂ hw₂
    · rw [hw₁, hw₂]
    · exact absurd ((hnext id h₁).1 ▸ h₂) (hothers w₂ hw₂)
    · exact absurd ((hnext id h₂).1 ▸ h₁) (hothers w₁ hw₁)
    · exact h.one_worker w₁ w₂ id h₁ h₂
  one_active := by
    intro r hr r' hr' hra hra' ht
    rcases (mem_assign hj rfl).mp hr with rfl | ⟨hr, hne⟩ <;>
      rcases (mem_assign hj rfl).mp hr' with rfl | ⟨hr', hne'⟩
    · rfl
    · have hsame := h.one_active j hj r' hr' hactive hra' (htarget.symm.trans ht)
      exact absurd (congrArg SyncJob.id hsame.symm) hne'
    · have hsame := h.one_active r hr j hj hra hactive (ht.trans htarget)
      exact absurd (congrArg SyncJob.id hsame) hne
    · exact h.one_active r hr r' hr' hra hra' ht
  running := by
    intro w' id hw'
    simp only [assign, Function.update_apply] at hw'
    split_ifs at hw' with hw
    · obtain ⟨rfl, hrunning⟩ := hnext id hw'
      exact ⟨c.set j, (mem_assign hj rfl).mpr (.inl rfl), c.key_set j, hrunning⟩
    · obtain ⟨r, hr, rfl, hrunning⟩ := h.running w' id hw'
      have hne : r.id ≠ j.id := fun he => hothers w' hw (he ▸ hw')
      exact ⟨r, (mem_assign hj rfl).mpr (.inr ⟨hr, hne⟩), rfl, hrunning⟩

omit [DecidableEq ω] in
/-- Nobody executes a job that is pending. -/
theorem Sound.not_executing (h : Sound s) (hj : j ∈ s.jobs.rows) (hpending : j.status = .pending)
    (w : ω) : s.executing w ≠ some j.id := by
  intro hw
  obtain ⟨r, hr, hid, hrunning⟩ := h.running w j.id hw
  rw [Table.eq_of_key hr hj hid, hpending] at hrunning
  exact absurd hrunning (by decide)

theorem sound_claim (h : Sound s) (hclaimed : s.claimed w order locked = some j) :
    Sound (s.assign w j.id (SyncJob.claim s.clock) (some j.id)) := by
  obtain ⟨-, hj, hclaimable⟩ := claimed_spec hclaimed
  obtain ⟨hpending, -⟩ := claimable_iff.mp hclaimable
  have hlt := h.pending_lt j hj hpending
  refine sound_assign h hj (by simp [SyncJob.active, hpending]) hlt
    (fun hst => absurd hst (by simp [SyncJob.claim])) rfl
    (fun w' _ => h.not_executing hj hpending w') fun id hid => ⟨(Option.some.inj hid).symm, rfl⟩

omit [DecidableEq ω] in
/-- A job that its worker reports on is running, and no other worker has it. -/
theorem Sound.of_executing (h : Sound s) (hw : s.executing w = some id) :
    ∃ j ∈ s.jobs.rows, j.id = id ∧ j.status = .running ∧
      ∀ w', w' ≠ w → s.executing w' ≠ some j.id := by
  obtain ⟨j, hj, rfl, hrunning⟩ := h.running w id hw
  exact ⟨j, hj, rfl, hrunning, fun w' hne hw' => hne (h.one_worker w' w j.id hw' hw)⟩

theorem sound_complete (h : Sound s) (hw : s.executing w = some id) :
    Sound (s.assign w id SyncJob.complete none) := by
  obtain ⟨j, hj, rfl, hrunning, hothers⟩ := h.of_executing hw
  exact sound_assign h hj (by simp [SyncJob.active, hrunning]) (h.attempts_le j hj)
    (fun hst => absurd hst (by simp [SyncJob.complete])) rfl hothers fun _ hid => by cases hid

theorem sound_fail (h : Sound s) (hw : s.executing w = some id) :
    Sound (s.assign w id (SyncJob.fail s.clock) none) := by
  obtain ⟨j, hj, rfl, hrunning, hothers⟩ := h.of_executing hw
  refine sound_assign h hj (by simp [SyncJob.active, hrunning]) (h.attempts_le j hj) (fun hst => ?_)
    rfl hothers fun _ hid => by cases hid
  -- the case split of `_FAIL_SQL`: pending again only if there are attempts left
  by_contra hge
  have hdead : ((SyncJob.fail s.clock).set j).status = .dead := if_pos (not_lt.mp hge)
  rw [hst] at hdead
  cases hdead

omit [DecidableEq ω] in
theorem sound_enqueue (h : Sound s) {productId priority : ℕ} {maxAttempts : ℕ+}
    (hfree : s.hasActive productId = false) :
    Sound { s with jobs := s.jobs.insert fun n =>
      ⟨n, productId, .pending, priority, 0, maxAttempts, s.clock, none⟩ } := by
  have hnone : ∀ r ∈ s.jobs.rows, r.active = true → r.targetId ≠ productId := by
    intro r hr hactive ht
    rw [hasActive, List.any_eq_false] at hfree
    exact hfree r hr (by simp [hactive, ht])
  refine ⟨⟨fun r hr => ?_, fun r hr hp => ?_, h.one_worker, fun r hr r' hr' ha ha' ht => ?_⟩,
    fun w id hw => ?_⟩
  · rcases List.mem_append.mp hr with hr | hr
    · exact h.attempts_le r hr
    · rw [List.mem_singleton.mp hr]
      exact Nat.zero_le _
  · rcases List.mem_append.mp hr with hr | hr
    · exact h.pending_lt r hr hp
    · rw [List.mem_singleton.mp hr]
      exact maxAttempts.pos
  · rcases List.mem_append.mp hr with hr | hr <;> rcases List.mem_append.mp hr' with hr' | hr'
    · exact h.one_active r hr r' hr' ha ha' ht
    · rw [List.mem_singleton.mp hr'] at ht
      exact absurd ht (hnone r hr ha)
    · rw [List.mem_singleton.mp hr] at ht
      exact absurd ht.symm (hnone r' hr' ha')
    · rw [List.mem_singleton.mp hr, List.mem_singleton.mp hr']
  · obtain ⟨r, hr, hid, hrunning⟩ := h.running w id hw
    exact ⟨r, List.mem_append_left _ hr, hid, hrunning⟩

/-- **Every step keeps the queue sound.** -/
theorem sound_step (s : SyncQueue ω) (e : Event ω) (h : Sound s) : Sound (step s e) := by
  cases e with
  | elapse d => exact ⟨⟨h.attempts_le, h.pending_lt, h.one_worker, h.one_active⟩, h.running⟩
  | enqueue productId priority maxAttempts seen =>
    rw [step]
    split_ifs with hguard
    · exact h
    · exact sound_enqueue h (Bool.or_eq_false_iff.mp (Bool.eq_false_of_not_eq_true hguard)).2
  | claim w order locked =>
    rw [step]
    cases hclaimed : s.claimed w order locked with
    | none => exact h
    | some j => exact sound_claim h hclaimed
  | complete w =>
    rw [step]
    cases hw : s.executing w with
    | none => exact h
    | some id => exact sound_complete h hw
  | fail w =>
    rw [step]
    cases hw : s.executing w with
    | none => exact h
    | some id => exact sound_fail h hw
  | crash w =>
    -- what the worker leaves behind stays as it is, and nobody executes it
    have hsub : ∀ w' id, (step s (.crash w)).executing w' = some id → s.executing w' = some id := by
      intro w' id hw'
      simp only [step, Function.update_apply] at hw'
      split_ifs at hw'
      exact hw'
    exact ⟨⟨h.attempts_le, h.pending_lt, fun w₁ w₂ id h₁ h₂ =>
      h.one_worker w₁ w₂ id (hsub w₁ id h₁) (hsub w₂ id h₂), h.one_active⟩,
      fun w' id hw' => h.running w' id (hsub w' id hw')⟩

/-- **A job at its end stays as it is.** -/
theorem get?_step_of_final (h : Sound s) (hj : s.jobs.get? id = some j) (hfinal : Final j)
    (e : Event ω) : (step s e).jobs.get? id = some j := by
  have hmem := Table.get?_eq_some.mp hj
  have hnotPending : j.status ≠ .pending := by
    rcases hfinal with hst | hst <;> rw [hst] <;> decide
  have hnotRunning : j.status ≠ .running := by
    rcases hfinal with hst | hst <;> rw [hst] <;> decide
  -- what a worker reports on is running, so it is another job
  have hother : ∀ {w k}, s.executing w = some k → id ≠ k := by
    rintro w k hw rfl
    obtain ⟨r, hr, hid, hrunning, -⟩ := h.of_executing hw
    rw [Table.eq_of_key hr hmem.1 (hid.trans hmem.2.symm)] at hrunning
    exact hnotRunning hrunning
  cases e with
  | elapse d => exact hj
  | enqueue productId priority maxAttempts seen =>
    rw [step]
    split_ifs
    · exact hj
    · have hlt : id ≠ s.jobs.seq := by
        have hlt := s.jobs.key_lt j hmem.1
        rw [hmem.2] at hlt
        omega
      rw [Table.get?_insert, if_neg hlt]
      exact hj
  | claim w order locked =>
    rw [step]
    cases hclaimed : s.claimed w order locked with
    | none => exact hj
    | some r =>
      obtain ⟨-, hr, hclaimable⟩ := claimed_spec hclaimed
      have hne : id ≠ r.id := by
        intro he
        rw [Table.eq_of_key hr hmem.1 (he.symm.trans hmem.2.symm)] at hclaimable
        exact hnotPending (claimable_iff.mp hclaimable).1
      exact (get?_assign_of_ne hne).trans hj
  | complete w =>
    rw [step]
    cases hw : s.executing w with
    | none => exact hj
    | some k => exact (get?_assign_of_ne (hother hw)).trans hj
  | fail w =>
    rw [step]
    cases hw : s.executing w with
    | none => exact hj
    | some k => exact (get?_assign_of_ne (hother hw)).trans hj
  | crash w => exact hj

end Step

/-! ### Runs -/

omit [DecidableEq ω] in
theorem sound_start (now : Instant) : Sound (start (ω := ω) now) :=
  ⟨⟨fun _ h => absurd h List.not_mem_nil, fun _ h => absurd h List.not_mem_nil,
    fun _ _ _ h => absurd h (Option.some_ne_none _).symm, fun _ h => absurd h List.not_mem_nil⟩,
    fun _ _ h => absurd h (Option.some_ne_none _).symm⟩

theorem sound_run (now : Instant) (l : List (Event ω)) : Sound (run step (start now) l) :=
  (throughout_of_step sound_step (sound_start now) l).last

/-- **The queue is safe**: in every run, in every state, attempts are bounded, a pending job has
some left, a job is executed by one worker at most and a product has one active job at most; and
a job at its end stays there. -/
theorem safe_throughout (now : Instant) (l : List (Event ω)) :
    Throughout step Safe (start now) l ∧
      ∀ l₁ l₂, l = l₁ ++ l₂ → ∀ j ∈ (run step (start now) l₁).jobs.rows, Final j →
        j ∈ (run step (start now) l).jobs.rows := by
  refine ⟨(throughout_of_step sound_step (sound_start now) l).mono fun _ h => h.toSafe, ?_⟩
  rintro l₁ l₂ rfl j hj hfinal
  have hstays : Throughout step (fun s => Sound s ∧ s.jobs.get? j.id = some j)
      (run step (start now) l₁) l₂ :=
    throughout_of_step (fun s e h => ⟨sound_step s e h.1, get?_step_of_final h.1 h.2 hfinal e⟩)
      ⟨sound_run now l₁, Table.get?_of_mem hj⟩ l₂
  rw [run_append]
  exact (Table.get?_eq_some.mp hstays.last.2).1

/-! ### The queue in the database

The requests and the worker of `CveManagement.System` take these very steps, when nobody else
is at work. -/

/-- The queue of a database at a time, nobody at work. -/
def ofSystem (now : Instant) (s : System) : SyncQueue ω := ⟨now, s.syncJobs, fun _ => none⟩

/-- **`_enqueue_sync` is a step.** -/
theorem syncJobs_enqueueSync (now : Instant) (s : System) (productId priority : ℕ) :
    (s.enqueueSync now productId priority).syncJobs =
      (step (ofSystem (ω := ω) now s) (.enqueue productId priority 3 false)).jobs := by
  rw [System.enqueueSync, step, ofSystem, hasActive, Bool.false_or]
  split_ifs
  · rfl
  · rfl

/-- A sync does not touch the queue. -/
theorem syncJobs_syncProduct (ctx : SyncContext) (now : Instant) (productId : ℕ) (s : System) :
    (syncProduct ctx now productId s).2.syncJobs = s.syncJobs := by
  rcases syncProduct_cases ctx now productId s with
    ⟨-, hrun⟩ | ⟨_, _, -, -, hrun⟩ | ⟨_, rows, _, -, -, hrun⟩
  · rw [hrun]
  · rw [hrun]
    rfl
  · rw [hrun, System.written]
    split_ifs
    · rfl
    · exact (frame_upsertFindings ..).2.2.2

/-- **`process_one_job` is two steps**: the claim, and the report on the sync. -/
theorem syncJobs_processOneJob (w : ω) (ctx : SyncContext) (order : RowOrder SyncJob)
    (now : Instant) (s : System) :
    ∃ report, (report = .complete w ∨ report = .fail w) ∧
      (processOneJob ctx order now s).syncJobs =
        (run step (ofSystem now s) [.claim w order fun _ => false, report]).jobs := by
  have hpick : (ofSystem (ω := ω) now s).claimed w order (fun _ => false) =
      s.nextJob now order := by
    simp only [claimed, ofSystem, Option.isSome_none, pick, System.nextJob, Bool.not_false,
      Bool.and_true, Bool.false_eq_true, if_false]
  cases hjob : s.nextJob now order with
  | none =>
    -- nothing is claimed, and there is nothing to report
    have hidle : step (ofSystem now s) (.claim w order fun _ => false) = ofSystem now s := by
      simp only [step, hpick, hjob]
    refine ⟨.complete w, .inl rfl, ?_⟩
    rw [processOneJob, hjob, run_cons, hidle]
    rfl
  | some j =>
    have hsync := syncJobs_syncProduct ctx now j.targetId (s.updateJob j.id (SyncJob.claim now))
    rw [processOneJob, hjob]
    dsimp only
    rcases hrun : syncProduct ctx now j.targetId (s.updateJob j.id (SyncJob.claim now)) with
      ⟨_ | _, s'⟩
    · rw [hrun] at hsync
      refine ⟨.fail w, .inr rfl, ?_⟩
      simp only [run_cons, run_nil, step, hpick, hjob, assign, Function.update_self,
        Option.elim_some, System.updateJob]
      rw [hsync]
      rfl
    · rw [hrun] at hsync
      refine ⟨.complete w, .inl rfl, ?_⟩
      simp only [run_cons, run_nil, step, hpick, hjob, assign, Function.update_self,
        Option.elim_some, System.updateJob]
      rw [hsync]
      rfl

end SyncQueue

end CveManagement
