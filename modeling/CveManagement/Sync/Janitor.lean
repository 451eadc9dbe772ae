import CveManagement.Library.Deletion
import CveManagement.Sync.Queue

/-!
# The janitor of the queue

`_queue_cleanup` of `app/workers/scheduler.py` deletes the jobs that were completed more than
ninety days ago and those that have been dead for more than thirty. Both statements look at
`completed_at`, which `_COMPLETE_SQL` writes and `_FAIL_SQL` does not. So a dead job is never
deleted, and the rule is met exactly as long as no job has been dead for thirty days when the
janitor comes (`CveManagement.JobQueue.queueCleanup_iff`).
-/

namespace CveManagement

/-- **The queue with its column `completed_at`**, beside the table, by the id of the job; and when
each job has reached its end, which no statement looks at. -/
structure JobQueue (ω : Type) extends SyncQueue ω where
  completedAt : ℕ → Option Instant
  endedAt : ℕ → Option Instant

/-- A number of days, in the unit of `CveManagement.Instant`. -/
def days (n : ℕ) : Instant := seconds (n * 86400)

namespace JobQueue

open Trajectory SyncQueue

variable {ω : Type} [DecidableEq ω]

/-- What happens to the queue. -/
inductive Event (ω : Type)
  /-- A step of a request or of a worker. -/
  | queue (e : SyncQueue.Event ω)
  /-- `_queue_cleanup`. -/
  | cleanup

/-- No job yet. -/
def start (now : Instant) : JobQueue ω := ⟨SyncQueue.start now, fun _ => none, fun _ => none⟩

/-- The condition of `_queue_cleanup` on `completed_at`; a comparison with `NULL` is not true. -/
def completedBefore (s : JobQueue ω) (age : Instant) (j : SyncJob) : Bool :=
  (s.completedAt j.id).any fun t => decide (t < s.clock - age)

/-- **`_queue_cleanup`**, as far as it is about `sync_jobs`. -/
def queueCleanup (s : JobQueue ω) : JobQueue ω :=
  { s with
    jobs := (s.jobs.delete fun j => j.status == .completed && s.completedBefore (days 90) j).delete
      fun j => j.status == .dead && s.completedBefore (days 30) j }

/-- The job with an id is dead. -/
def isDead (s : SyncQueue ω) (id : ℕ) : Bool := (s.jobs.get? id).any fun j => j.status == .dead

/-- The rows as a statement leaves them that does not assign to the column. -/
def withQueue (s : JobQueue ω) (next : SyncQueue ω) : JobQueue ω :=
  ⟨next, s.completedAt, s.endedAt⟩

/-- A step of the queue, with what it does to the column. -/
def queueStep (s : JobQueue ω) (e : SyncQueue.Event ω) : JobQueue ω :=
  let next := SyncQueue.step s.toSyncQueue e
  match e with
  | .complete w => (s.executing w).elim s fun id =>
    { toSyncQueue := next
      completedAt := Function.update s.completedAt id (some s.clock)
      endedAt := Function.update s.endedAt id (some s.clock) }
  | .fail w => (s.executing w).elim s fun id =>
    { toSyncQueue := next
      completedAt := s.completedAt
      endedAt := if isDead next id then Function.update s.endedAt id (some s.clock)
        else s.endedAt }
  | _ => s.withQueue next

/-- **One step.** -/
def step (s : JobQueue ω) : Event ω → JobQueue ω
  | .queue e => s.queueStep e
  | .cleanup => s.queueCleanup

/-! ### The rule of the janitor -/

/-- The job reached its end more than an age ago. -/
def EndedBefore (s : JobQueue ω) (age : Instant) (j : SyncJob) : Prop :=
  ∃ t, s.endedAt j.id = some t ∧ t < s.clock - age

/-- **The janitor meets its rule**: no old job is left, and no active one is gone. -/
structure RetentionMet (s : JobQueue ω) : Prop where
  dead : ∀ j ∈ s.queueCleanup.jobs.rows, j.status = .dead → ¬s.EndedBefore (days 30) j
  completed : ∀ j ∈ s.queueCleanup.jobs.rows, j.status = .completed → ¬s.EndedBefore (days 90) j
  active : ∀ j ∈ s.jobs.rows, j.active = true → j ∈ s.queueCleanup.jobs.rows

/-- No job has been dead for thirty days. -/
def NoneLongDead (s : JobQueue ω) : Prop :=
  ∀ j ∈ s.jobs.rows, j.status = .dead → ¬s.EndedBefore (days 30) j

/-- **What the column says**: of a completed job when it was completed, and of all others
nothing. -/
structure Kept (s : JobQueue ω) : Prop where
  sound : Sound s.toSyncQueue
  completed : ∀ j ∈ s.jobs.rows, j.status = .completed →
    ∃ t, s.completedAt j.id = some t ∧ s.endedAt j.id = some t
  uncompleted : ∀ j ∈ s.jobs.rows, j.status ≠ .completed → s.completedAt j.id = none
  dead : ∀ j ∈ s.jobs.rows, j.status = .dead → ∃ t, s.endedAt j.id = some t
  unused : ∀ n, s.jobs.seq ≤ n → s.completedAt n = none

/-! ### One step -/

section Step

variable {s : JobQueue ω} {j : SyncJob}

omit [DecidableEq ω] in
theorem mem_queueCleanup : j ∈ s.queueCleanup.jobs.rows ↔ j ∈ s.jobs.rows ∧
    ¬(j.status = .completed ∧ s.completedBefore (days 90) j = true) ∧
    ¬(j.status = .dead ∧ s.completedBefore (days 30) j = true) := by
  rw [queueCleanup, Table.mem_delete, Table.mem_delete, and_assoc]
  simp only [← Bool.not_eq_true, Bool.and_eq_true, beq_iff_eq]

omit [DecidableEq ω] in
/-- Only jobs at their end are deleted. -/
theorem mem_queueCleanup_of_not_final (hj : j ∈ s.jobs.rows) (hfinal : ¬Final j) :
    j ∈ s.queueCleanup.jobs.rows :=
  mem_queueCleanup.mpr ⟨hj, fun h => hfinal (.inl h.1), fun h => hfinal (.inr h.1)⟩

omit [DecidableEq ω] in
theorem sound_queueCleanup (h : Sound s.toSyncQueue) : Sound s.queueCleanup.toSyncQueue := by
  have hsub : ∀ j ∈ s.queueCleanup.jobs.rows, j ∈ s.jobs.rows := fun j hj =>
    (mem_queueCleanup.mp hj).1
  refine ⟨⟨fun j hj => h.attempts_le j (hsub j hj), fun j hj => h.pending_lt j (hsub j hj),
    h.one_worker, fun j hj j' hj' => h.one_active j (hsub j hj) j' (hsub j' hj')⟩,
    fun w id hw => ?_⟩
  obtain ⟨j, hj, hid, hrunning⟩ := h.running w id hw
  refine ⟨j, mem_queueCleanup_of_not_final hj ?_, hid, hrunning⟩
  rintro (hst | hst) <;> rw [hst] at hrunning <;> cases hrunning

omit [DecidableEq ω] in
theorem kept_queueCleanup (h : Kept s) : Kept s.queueCleanup where
  sound := sound_queueCleanup h.sound
  completed j hj := h.completed j (mem_queueCleanup.mp hj).1
  uncompleted j hj := h.uncompleted j (mem_queueCleanup.mp hj).1
  dead j hj := h.dead j (mem_queueCleanup.mp hj).1
  unused := h.unused

/-- A job is completed by its worker. -/
theorem kept_complete (h : Kept s) {w : ω} {id : ℕ} (hw : s.executing w = some id) :
    Kept (s.queueStep (.complete w)) := by
  obtain ⟨j, hj, rfl, hrunning, -⟩ := h.sound.of_executing hw
  have hsound := sound_step s.toSyncQueue (.complete w) h.sound
  have hstep : s.queueStep (.complete w) =
      { toSyncQueue := s.assign w j.id SyncJob.complete none
        completedAt := Function.update s.completedAt j.id (some s.clock)
        endedAt := Function.update s.endedAt j.id (some s.clock) } := by
    simp only [queueStep, SyncQueue.step, hw, Option.elim_some]
  have hassign : SyncQueue.step s.toSyncQueue (.complete w) =
      s.assign w j.id SyncJob.complete none := by
    simp only [SyncQueue.step, hw, Option.elim_some]
  rw [hassign] at hsound
  rw [hstep]
  refine ⟨hsound, fun r hr hst => ?_, fun r hr hst => ?_, fun r hr hst => ?_, fun n hn => ?_⟩
  · rcases (mem_assign hj rfl).mp hr with rfl | ⟨hr, hne⟩
    · exact ⟨s.clock, Function.update_self .., Function.update_self ..⟩
    · obtain ⟨t, hcompleted, hended⟩ := h.completed r hr hst
      exact ⟨t, (Function.update_of_ne hne ..).trans hcompleted,
        (Function.update_of_ne hne ..).trans hended⟩
  · rcases (mem_assign hj rfl).mp hr with rfl | ⟨hr, hne⟩
    · exact absurd rfl hst
    · exact (Function.update_of_ne hne ..).trans (h.uncompleted r hr hst)
  · rcases (mem_assign hj rfl).mp hr with rfl | ⟨hr, hne⟩
    · cases hst
    · obtain ⟨t, hended⟩ := h.dead r hr hst
      exact ⟨t, (Function.update_of_ne hne ..).trans hended⟩
  · have hlt := s.jobs.key_lt j hj
    have hne : n ≠ j.id := by
      have hseq : s.jobs.seq ≤ n := hn
      omega
    exact (Function.update_of_ne hne ..).trans (h.unused n hn)

/-- A job is failed by its worker: the column stays `NULL`, whether the job is dead or not. -/
theorem kept_fail (h : Kept s) {w : ω} {id : ℕ} (hw : s.executing w = some id) :
    Kept (s.queueStep (.fail w)) := by
  obtain ⟨j, hj, rfl, hrunning, -⟩ := h.sound.of_executing hw
  have hassign : SyncQueue.step s.toSyncQueue (.fail w) =
      s.assign w j.id (SyncJob.fail s.clock) none := by
    simp only [SyncQueue.step, hw, Option.elim_some]
  have hsound := sound_step s.toSyncQueue (.fail w) h.sound
  rw [hassign] at hsound
  have hdead : isDead (s.assign w j.id (SyncJob.fail s.clock) none) j.id =
      (((SyncJob.fail s.clock).set j).status == .dead) := by
    rw [isDead, get?_assign (Table.get?_of_mem hj)]
    rfl
  have hstep : s.queueStep (.fail w) =
      { toSyncQueue := s.assign w j.id (SyncJob.fail s.clock) none
        completedAt := s.completedAt
        endedAt := if ((SyncJob.fail s.clock).set j).status == .dead then
            Function.update s.endedAt j.id (some s.clock)
          else s.endedAt } := by
    simp only [queueStep, hw, Option.elim_some, hassign, hdead]
  have hnot : ((SyncJob.fail s.clock).set j).status ≠ .completed := by
    rw [SyncJob.fail]
    dsimp only
    split_ifs <;> exact fun hst => by cases hst
  -- the other jobs keep what was known of them
  have hother : ∀ r : SyncJob, r.id ≠ j.id →
      (s.queueStep (.fail w)).endedAt r.id = s.endedAt r.id := by
    intro r hne
    rw [hstep]
    dsimp only
    split_ifs
    · exact Function.update_of_ne hne ..
    · rfl
  rw [hstep] at hother ⊢
  refine ⟨hsound, fun r hr hst => ?_, fun r hr hst => ?_, fun r hr hst => ?_, h.unused⟩
  · rcases (mem_assign hj rfl).mp hr with rfl | ⟨hr, hne⟩
    · exact absurd hst hnot
    · obtain ⟨t, hcompleted, hended⟩ := h.completed r hr hst
      exact ⟨t, hcompleted, (hother r hne).trans hended⟩
  · rcases (mem_assign hj rfl).mp hr with rfl | ⟨hr, -⟩
    · exact h.uncompleted j hj (by rw [hrunning]; exact fun hst => by cases hst)
    · exact h.uncompleted r hr hst
  · rcases (mem_assign hj rfl).mp hr with rfl | ⟨hr, hne⟩
    · refine ⟨s.clock, ?_⟩
      dsimp only
      rw [if_pos (beq_iff_eq.mpr hst)]
      exact Function.update_self ..
    · obtain ⟨t, hended⟩ := h.dead r hr hst
      exact ⟨t, (hother r hne).trans hended⟩

omit [DecidableEq ω] in
/-- A step that inserts, claims or waits: what it makes of the rows is new or not at its end. -/
theorem kept_of_rows (h : Kept s) {next : SyncQueue ω} (hsound : Sound next)
    (hseq : s.jobs.seq ≤ next.jobs.seq)
    (hrows : ∀ r ∈ next.jobs.rows, r ∈ s.jobs.rows ∨
      ¬Final r ∧ s.completedAt r.id = none) : Kept (s.withQueue next) where
  sound := hsound
  completed r hr hst := by
    rcases hrows r hr with hr | ⟨hfinal, -⟩
    · exact h.completed r hr hst
    · exact absurd (.inl hst) hfinal
  uncompleted r hr hst := by
    rcases hrows r hr with hr | ⟨-, hnone⟩
    · exact h.uncompleted r hr hst
    · exact hnone
  dead r hr hst := by
    rcases hrows r hr with hr | ⟨hfinal, -⟩
    · exact h.dead r hr hst
    · exact absurd (.inr hst) hfinal
  unused n hn := h.unused n (le_trans hseq hn)

/-- **Every step keeps the column.** -/
theorem kept_step (s : JobQueue ω) (e : Event ω) (h : Kept s) : Kept (step s e) := by
  cases e with
  | cleanup => exact kept_queueCleanup h
  | queue e =>
    have hsound := sound_step s.toSyncQueue e h.sound
    cases e with
    | elapse d => exact kept_of_rows h hsound (le_refl _) fun r hr => .inl hr
    | crash w => exact kept_of_rows h hsound (le_refl _) fun r hr => .inl hr
    | enqueue productId priority maxAttempts seen =>
      have hnext : step s (.queue (.enqueue productId priority maxAttempts seen)) =
          s.withQueue (SyncQueue.step s.toSyncQueue
            (.enqueue productId priority maxAttempts seen)) := rfl
      rw [hnext]
      rw [SyncQueue.step] at hsound ⊢
      split_ifs at hsound ⊢
      · exact kept_of_rows h hsound (le_refl _) fun r hr => .inl hr
      · refine kept_of_rows h hsound (Nat.le_succ _) fun r hr => ?_
        rcases List.mem_append.mp hr with hr | hr
        · exact .inl hr
        · rw [List.mem_singleton.mp hr]
          refine .inr ⟨?_, h.unused _ (le_refl _)⟩
          rintro (hst | hst) <;> cases hst
    | claim w order locked =>
      have hnext : step s (.queue (.claim w order locked)) =
          s.withQueue (SyncQueue.step s.toSyncQueue (.claim w order locked)) := rfl
      rw [hnext]
      rw [SyncQueue.step] at hsound ⊢
      cases hclaimed : s.claimed w order locked with
      | none =>
        rw [hclaimed] at hsound
        exact kept_of_rows h hsound (le_refl _) fun r hr => .inl hr
      | some j =>
        rw [hclaimed] at hsound
        obtain ⟨-, hj, hclaimable⟩ := claimed_spec hclaimed
        obtain ⟨hpending, -⟩ := claimable_iff.mp hclaimable
        refine kept_of_rows h hsound (le_refl _) fun r hr => ?_
        rcases (mem_assign hj rfl).mp hr with rfl | ⟨hr, -⟩
        · refine .inr ⟨?_, h.uncompleted j hj (by rw [hpending]; exact fun hst => by cases hst)⟩
          rintro (hst | hst) <;> cases hst
        · exact .inl hr
    | complete w =>
      cases hw : s.executing w with
      | none =>
        have hsame : step s (.queue (.complete w)) = s := by
          simp only [step, queueStep, hw, Option.elim_none]
        rw [hsame]
        exact h
      | some id => exact kept_complete h hw
    | fail w =>
      cases hw : s.executing w with
      | none =>
        have hsame : step s (.queue (.fail w)) = s := by
          simp only [step, queueStep, hw, Option.elim_none]
        rw [hsame]
        exact h
      | some id => exact kept_fail h hw

omit [DecidableEq ω] in
/-- **One visit of the janitor**: it deletes the old completed jobs and no active ones, and of the
dead ones it deletes none. -/
theorem retentionMet_iff (h : Kept s) : s.RetentionMet ↔ s.NoneLongDead := by
  have hdead : ∀ j ∈ s.jobs.rows, j.status = .dead → j ∈ s.queueCleanup.jobs.rows := by
    intro j hj hst
    have hnull := h.uncompleted j hj (by rw [hst]; exact fun hne => by cases hne)
    refine mem_queueCleanup.mpr ⟨hj, fun hboth => ?_, fun hboth => ?_⟩
    · rw [hst] at hboth
      cases hboth.1
    · -- `NULL < …` is not true
      have hbefore := hboth.2
      rw [completedBefore, hnull] at hbefore
      cases hbefore
  constructor
  · intro hmet j hj hst
    exact hmet.dead j (hdead j hj hst) hst
  · intro hnone
    refine ⟨fun j hj hst => hnone j (mem_queueCleanup.mp hj).1 hst, fun j hj hst hold => ?_,
      fun j hj hactive => mem_queueCleanup_of_not_final hj ?_⟩
    · obtain ⟨hmem, hkept, -⟩ := mem_queueCleanup.mp hj
      obtain ⟨t, hcompleted, hended⟩ := h.completed j hmem hst
      obtain ⟨t', hended', hlt⟩ := hold
      rw [← Option.some.inj (hended.symm.trans hended')] at hlt
      refine hkept ⟨hst, ?_⟩
      rw [completedBefore, hcompleted, Option.any_some]
      exact decide_eq_true hlt
    · rintro (hst | hst) <;> simp [SyncJob.active, hst] at hactive

end Step

/-! ### Runs -/

omit [DecidableEq ω] in
theorem kept_start (now : Instant) : Kept (start (ω := ω) now) :=
  ⟨sound_start now, fun _ hj => absurd hj List.not_mem_nil, fun _ hj => absurd hj List.not_mem_nil,
    fun _ hj => absurd hj List.not_mem_nil, fun _ _ => rfl⟩

/-- **When the janitor meets its rule**: in every run, each time that it comes, exactly if no job
has been dead for thirty days by then. -/
theorem queueCleanup_iff (now : Instant) (l : List (Event ω)) :
    AllSteps step (fun s e => e = .cleanup → s.RetentionMet) (start now) l ↔
      AllSteps step (fun s e => e = .cleanup → s.NoneLongDead) (start now) l :=
  allSteps_congr kept_step (fun _ _ h => imp_congr_right fun _ => retentionMet_iff h)
    (kept_start now)

/-! ### A job that stays -/

/-- A job fails three times, and a month passes. -/
def longDead : List (Event Unit) :=
  let attempt : List (Event Unit) :=
    [.queue (.claim () RowOrder.insertion fun _ => false), .queue (.fail ()),
      .queue (.elapse 301000000)]
  [.queue (.enqueue 1 10 (Nat.succPNat 2) false)] ++ attempt ++ attempt ++ attempt ++
    [.queue (.elapse 2678400000000)]

/-- **A dead job is still there after a month.** -/
theorem not_retentionMet : ¬∀ l : List (Event Unit),
    AllSteps step (fun s e => e = .cleanup → s.RetentionMet) (start 0) l := by
  intro h
  have hmet := allSteps_iff_split.mp (h (longDead ++ [.cleanup])) longDead .cleanup [] rfl rfl
  have hrows : (run step (start 0) longDead).jobs.rows =
      [⟨1, 1, .dead, 10, 3, 3, 361000000, some 902000000⟩] := rfl
  have hended : (run step (start 0) longDead).endedAt 1 = some 602000000 := rfl
  have hclock : (run step (start 0) longDead).clock - days 30 = 87303000000 := rfl
  have hmem : _ ∈ (run step (start 0) longDead).jobs.rows := hrows ▸ List.mem_singleton_self _
  refine (retentionMet_iff (throughout_of_step kept_step (kept_start 0) longDead).last).mp hmet
    _ hmem rfl ⟨602000000, hended, ?_⟩
  rw [hclock]
  decide

end JobQueue

end CveManagement
