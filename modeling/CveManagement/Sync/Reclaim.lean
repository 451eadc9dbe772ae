import CveManagement.Sync.Queue

/-!
# Jobs whose worker is gone

A claim locks its job for five minutes, and the runbook says that a running job is up for
grabs once the lock has run out. `_CLAIM_SQL` looks at pending jobs only. So a job is
reclaimable exactly as long as no lock runs out on a running job
(`CveManagement.SyncQueue.reclaimable_iff`), and a job whose worker is gone is never run
again, nor is any other job of its product let in
(`CveManagement.SyncQueue.orphan_stays`).
-/

namespace CveManagement

namespace SyncQueue

open Trajectory

variable {ω : Type} [DecidableEq ω]

/-- The lock of the job has run out. -/
def LockPassed (now : Instant) (j : SyncJob) : Prop := ∃ t, j.lockedUntil = some t ∧ t < now

/-- **Reclaimable**: an active job with attempts left is eligible once its lock has run out. -/
def Reclaimable (s : SyncQueue ω) : Prop :=
  ∀ j ∈ s.jobs.rows, j.active = true → LockPassed s.clock j → j.attempts < j.maxAttempts →
    j.claimable s.clock = true

/-- **No lock runs out on a job at work**: as time passes, every running job with attempts left
stays locked. -/
def LocksHold (s : SyncQueue ω) : Event ω → Prop
  | .elapse d => ∀ j ∈ s.jobs.rows, j.status = .running → j.attempts < j.maxAttempts →
      ¬LockPassed (s.clock + d) j
  | _ => True

section Step

variable {s : SyncQueue ω} {w : ω} {id : ℕ} {j : SyncJob} {c : Table.Assignment SyncJob.id}
  {next : Option ℕ}

omit [DecidableEq ω] in
/-- A pending job is eligible once its lock has run out. -/
theorem claimable_of_lockPassed {now : Instant} (hpending : j.status = .pending)
    (hlock : LockPassed now j) : j.claimable now = true := by
  obtain ⟨t, ht, hlt⟩ := hlock
  refine claimable_iff.mpr ⟨hpending, fun t' ht' => ?_⟩
  rw [← Option.some.inj (ht.symm.trans ht')]
  exact hlt

omit [DecidableEq ω] in
theorem active_iff : j.active = true ↔ j.status = .pending ∨ j.status = .running := by
  simp [SyncJob.active]

/-- An assignment keeps the jobs reclaimable if what it makes of its job is. -/
theorem reclaimable_assign (h : Reclaimable s)
    (hset : ∀ j ∈ s.jobs.rows, j.id = id → (c.set j).active = true →
      LockPassed s.clock (c.set j) → (c.set j).claimable s.clock = true) :
    Reclaimable (s.assign w id c next) := by
  intro r hr hactive hlock hlt
  rcases mem_assign_cases hr with ⟨j, hj, hid, rfl⟩ | hr
  · exact hset j hj hid hactive hlock
  · exact h r hr hactive hlock hlt

/-- **One step** keeps the jobs reclaimable exactly if no lock runs out on a job at work. -/
theorem reclaimable_step_iff (s : SyncQueue ω) (e : Event ω) (h : Reclaimable s) :
    Reclaimable (step s e) ↔ LocksHold s e := by
  cases e with
  | elapse d =>
    constructor
    · intro hnext j hj hrunning hlt hlock
      have hclaimable := hnext j hj (active_iff.mpr (.inr hrunning)) hlock hlt
      rw [claimable_iff, hrunning] at hclaimable
      exact absurd hclaimable.1 (by decide)
    · intro hhold j hj hactive hlock hlt
      rcases active_iff.mp hactive with hpending | hrunning
      · exact claimable_of_lockPassed hpending hlock
      · exact absurd hlock (hhold j hj hrunning hlt)
  | enqueue productId priority maxAttempts seen =>
    refine iff_of_true ?_ trivial
    rw [step]
    split_ifs
    · exact h
    · intro j hj hactive hlock hlt
      rcases List.mem_append.mp hj with hj | hj
      · exact h j hj hactive hlock hlt
      · -- a new job has no lock
        obtain ⟨t, ht, -⟩ := hlock
        rw [List.mem_singleton.mp hj] at ht
        exact absurd ht (Option.some_ne_none _).symm
  | claim w order locked =>
    refine iff_of_true ?_ trivial
    rw [step]
    cases hclaimed : s.claimed w order locked with
    | none => exact h
    | some j =>
      refine reclaimable_assign h fun r _ _ _ hlock => ?_
      -- the lock of the claim has just begun
      obtain ⟨t, ht, hlt⟩ := hlock
      have hfive : s.clock + seconds 300 = t := Option.some.inj ht
      have hle : s.clock ≤ t := hfive ▸ le_add_of_nonneg_right (by decide : (0 : ℤ) ≤ seconds 300)
      exact absurd hlt (not_lt.mpr hle)
  | complete w =>
    refine iff_of_true ?_ trivial
    rw [step]
    cases s.executing w with
    | none => exact h
    | some id => exact reclaimable_assign h fun r _ _ hactive _ => absurd hactive (by
        simp [SyncJob.complete, SyncJob.active])
  | fail w =>
    refine iff_of_true ?_ trivial
    rw [step]
    cases s.executing w with
    | none => exact h
    | some id =>
      refine reclaimable_assign h fun r _ _ hactive hlock => ?_
      rcases active_iff.mp hactive with hpending | hrunning
      · exact claimable_of_lockPassed hpending hlock
      · -- a failed job is pending or dead
        have hne : ((SyncJob.fail s.clock).set r).status ≠ .running := by
          simp only [SyncJob.fail]
          split_ifs
          · decide
          · decide
        exact absurd hrunning hne
  | crash w => exact iff_of_true h trivial

end Step

/-- **When jobs stay reclaimable**: in every state of a run exactly if no lock ever runs out on a
running job that has attempts left. -/
theorem reclaimable_iff (now : Instant) (l : List (Event ω)) :
    Throughout step Reclaimable (start now) l ↔ AllSteps step LocksHold (start now) l :=
  throughout_iff_allSteps (J := fun _ => True) (fun _ _ _ => trivial)
    (fun s e _ h => reclaimable_step_iff s e h) trivial fun _ h => absurd h List.not_mem_nil

/-! ### Orphans -/

/-- A running job that nobody executes. -/
def Orphan (s : SyncQueue ω) (j : SyncJob) : Prop :=
  s.jobs.get? j.id = some j ∧ j.status = .running ∧ ∀ w, s.executing w ≠ some j.id

/-- No step changes an orphan. -/
theorem orphan_step {j : SyncJob} (s : SyncQueue ω) (e : Event ω) (h : Orphan s j) :
    Orphan (step s e) j := by
  obtain ⟨hj, hrunning, hnobody⟩ := h
  have hmem := (Table.get?_eq_some.mp hj).1
  have hreport : ∀ {w id} (c : Table.Assignment SyncJob.id), s.executing w = some id →
      Orphan (s.assign w id c none) j := by
    intro w id c hw
    have hne : j.id ≠ id := fun he => hnobody w (he ▸ hw)
    refine ⟨(get?_assign_of_ne hne).trans hj, hrunning, fun w' hw' => ?_⟩
    simp only [assign, Function.update_apply] at hw'
    split_ifs at hw'
    exact hnobody w' hw'
  cases e with
  | elapse d => exact ⟨hj, hrunning, hnobody⟩
  | enqueue productId priority maxAttempts seen =>
    rw [step]
    split_ifs
    · exact ⟨hj, hrunning, hnobody⟩
    · refine ⟨?_, hrunning, hnobody⟩
      rw [Table.get?_insert, if_neg (Nat.ne_of_lt (s.jobs.key_lt j hmem))]
      exact hj
  | claim w order locked =>
    rw [step]
    cases hclaimed : s.claimed w order locked with
    | none => exact ⟨hj, hrunning, hnobody⟩
    | some r =>
      -- a claim takes a pending job
      obtain ⟨-, hr, hclaimable⟩ := claimed_spec hclaimed
      have hne : j.id ≠ r.id := by
        intro he
        rw [Table.eq_of_key hr hmem he.symm, claimable_iff, hrunning] at hclaimable
        exact absurd hclaimable.1 (by decide)
      refine ⟨(get?_assign_of_ne hne).trans hj, hrunning, fun w' hw' => ?_⟩
      simp only [assign, Function.update_apply] at hw'
      split_ifs at hw'
      · exact hne (Option.some.inj hw').symm
      · exact hnobody w' hw'
  | complete w =>
    rw [step]
    cases hw : s.executing w with
    | none => exact ⟨hj, hrunning, hnobody⟩
    | some id => exact hreport _ hw
  | fail w =>
    rw [step]
    cases hw : s.executing w with
    | none => exact ⟨hj, hrunning, hnobody⟩
    | some id => exact hreport _ hw
  | crash w =>
    refine ⟨hj, hrunning, fun w' hw' => ?_⟩
    simp only [step, Function.update_apply] at hw'
    split_ifs at hw'
    exact hnobody w' hw'

/-- **An orphan stays for good**, and keeps its product out of the queue. -/
theorem orphan_stays {s : SyncQueue ω} {j : SyncJob} (h : Orphan s j) (l : List (Event ω)) :
    Orphan (run step s l) j ∧
      ∀ priority maxAttempts seen,
        step (run step s l) (.enqueue j.targetId priority maxAttempts seen) = run step s l := by
  have hlast := (throughout_of_step (fun s e => orphan_step s e) h l).last
  refine ⟨hlast, fun priority maxAttempts seen => ?_⟩
  have hactive : (run step s l).hasActive j.targetId = true :=
    List.any_eq_true.mpr ⟨j, (Table.get?_eq_some.mp hlast.1).1, by
      simp [SyncJob.active, hlast.2.1]⟩
  rw [step, hactive, Bool.or_true]
  rfl

/-- A worker claims the job of a product, and is gone; five minutes pass, and a second. -/
def lostWorker : List (Event ℕ) :=
  [.enqueue 7 10 defaultMaxAttempts false, .claim 0 .insertion fun _ => false, .crash 0,
    .elapse 301000000]

/-- The job it leaves behind. -/
def lostJob : SyncJob := ⟨1, 7, .running, 10, 1, 3, 0, some 300000000⟩

/-- **The job it leaves behind is not eligible**, and in no continuation will it be. -/
theorem not_reclaimable_lostWorker :
    ¬Throughout step Reclaimable (start 0) lostWorker ∧
      ∀ l, Orphan (run step (start 0) (lostWorker ++ l)) lostJob := by
  have hrows : (run step (start 0) lostWorker).jobs.rows = [lostJob] := rfl
  have hexecuting : (run step (start 0) lostWorker).executing =
      Function.update (Function.update (fun _ => none) 0 (some 1)) 0 none := rfl
  have horphan : Orphan (run step (start 0) lostWorker) lostJob := by
    refine ⟨rfl, rfl, fun w hw => ?_⟩
    rw [hexecuting, Function.update_idem, Function.update_apply] at hw
    split_ifs at hw
  constructor
  · intro hall
    have hclaimable := hall.last lostJob (hrows ▸ List.mem_singleton_self _) rfl
      ⟨300000000, rfl, by decide⟩ (by decide)
    exact absurd hclaimable (by decide)
  · intro l
    rw [run_append]
    exact (orphan_stays horphan l).1

end SyncQueue

end CveManagement
