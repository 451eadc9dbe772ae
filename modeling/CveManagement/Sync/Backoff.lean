import CveManagement.Sync.Queue

/-!
# The delay between two attempts

`_FAIL_SQL` writes the delay of the next attempt into `scheduled_at`, and `_CLAIM_SQL` looks at
`scheduled_at` only to order the jobs. What keeps a failed job back is the lock that its claim
has set, five minutes from the start of the attempt. The delay is honoured exactly if, at every
failure, what is left of the lock covers it (`CveManagement.SyncQueue.backoffHonoured_iff`):
for the first attempt if it takes no more than 270 seconds, for the fifth one never.
-/

namespace CveManagement

namespace SyncQueue

open Trajectory

variable {ω : Type} [DecidableEq ω]

/-- The delay after an attempt. -/
def backoff (attempts : ℕ) : Instant := seconds (30 * 2 ^ (attempts - 1))

/-- **No job is claimed ahead of its time**: if no step came in between, then whenever the query
finds a job eligible its `scheduled_at` has passed. -/
def Due (s : SyncQueue ω) : Prop :=
  ∀ j ∈ s.jobs.rows, ∀ now, s.clock ≤ now → j.claimable now = true → j.scheduledAt ≤ now

/-- **The lock covers the delay**: when an attempt fails and is not the last one, the delay is
over whenever the lock has run out. -/
def LockCovers (s : SyncQueue ω) : Event ω → Prop
  | .fail w => ∀ id, s.executing w = some id → ∀ j, s.jobs.get? id = some j →
      j.attempts < j.maxAttempts → ∀ now, s.clock ≤ now →
        (∀ t, j.lockedUntil = some t → t < now) → s.clock + backoff j.attempts ≤ now
  | _ => True

/-- **The backoff is honoured in a run**: a job whose attempt fails, and is not the last one, is
not claimed again before the delay of the attempt is over; and at no time does the query return a
job whose `scheduled_at` lies in the future. -/
def BackoffHonoured (s : SyncQueue ω) (l : List (Event ω)) : Prop :=
  (∀ l₁ w l₂ w' order locked l₃ j j',
    l = l₁ ++ .fail w :: (l₂ ++ .claim w' order locked :: l₃) →
    (run step s l₁).executing w = some j.id → (run step s l₁).jobs.get? j.id = some j →
    j.attempts < j.maxAttempts →
    (run step s (l₁ ++ .fail w :: l₂)).claimed w' order locked = some j' → j'.id = j.id →
    (run step s l₁).clock + backoff j.attempts ≤ (run step s (l₁ ++ .fail w :: l₂)).clock) ∧
  Throughout step Due s l

section Step

variable {s : SyncQueue ω} {w : ω} {id : ℕ} {j : SyncJob} {c : Table.Assignment SyncJob.id}
  {next : Option ℕ}

/-- An assignment keeps the jobs due if what it makes of its job is not claimable. -/
theorem due_assign (h : Due s)
    (hset : ∀ j ∈ s.jobs.rows, j.id = id → (c.set j).status ≠ .pending) :
    Due (s.assign w id c next) := by
  intro r hr now hnow hclaimable
  rcases mem_assign_cases hr with ⟨j, hj, hid, rfl⟩ | hr
  · exact absurd (claimable_iff.mp hclaimable).1 (hset j hj hid)
  · exact h r hr now hnow hclaimable

omit [DecidableEq ω] in
theorem fail_of_lt (now : Instant) (hlt : j.attempts < j.maxAttempts) :
    ((SyncJob.fail now).set j).status = .pending ∧
      ((SyncJob.fail now).set j).scheduledAt = now + backoff j.attempts :=
  ⟨if_neg (not_le.mpr hlt), if_pos hlt⟩

/-- A failure keeps the jobs due exactly if the lock covers the delay. -/
theorem due_fail_iff (h : Due s) (hw : s.executing w = some id) :
    Due (s.assign w id (SyncJob.fail s.clock) none) ↔ LockCovers s (.fail w) := by
  constructor
  · intro hdue k hk j hj hlt now hnow hlock
    obtain rfl : id = k := Option.some.inj (hw.symm.trans hk)
    obtain ⟨hpending, hscheduled⟩ := fail_of_lt s.clock hlt
    have hrow : (s.assign w id (SyncJob.fail s.clock) none).jobs.get? id =
        some ((SyncJob.fail s.clock).set j) := get?_assign hj
    have hmem := (Table.get?_eq_some.mp hrow).1
    rw [← hscheduled]
    exact hdue _ hmem now hnow (claimable_iff.mpr ⟨hpending, hlock⟩)
  · intro hcovers r hr now hnow hclaimable
    rcases mem_assign_cases hr with ⟨j, hj, hid, rfl⟩ | hr
    · obtain ⟨hpending, hlock⟩ := claimable_iff.mp hclaimable
      -- a job that is pending again has attempts left
      have hlt : j.attempts < j.maxAttempts := by
        by_contra hge
        have hdead : ((SyncJob.fail s.clock).set j).status = .dead := if_pos (not_lt.mp hge)
        rw [hpending] at hdead
        cases hdead
      rw [(fail_of_lt s.clock hlt).2]
      exact hcovers id hw j (hid ▸ Table.get?_of_mem hj) hlt now hnow hlock
    · exact h r hr now hnow hclaimable

/-- **One step** keeps the jobs due exactly if the lock covers the delay. -/
theorem due_step_iff (s : SyncQueue ω) (e : Event ω) (h : Due s) :
    Due (step s e) ↔ LockCovers s e := by
  cases e with
  | elapse d =>
    refine iff_of_true (fun j hj now hnow => h j hj now ?_) trivial
    have hle : s.clock ≤ s.clock + d := le_add_of_nonneg_right (Int.natCast_nonneg d)
    exact hle.trans hnow
  | enqueue productId priority maxAttempts seen =>
    refine iff_of_true ?_ trivial
    rw [step]
    split_ifs
    · exact h
    · intro j hj now hnow hclaimable
      rcases List.mem_append.mp hj with hj | hj
      · exact h j hj now hnow hclaimable
      · rw [List.mem_singleton.mp hj]
        exact hnow
  | claim w order locked =>
    refine iff_of_true ?_ trivial
    rw [step]
    cases s.claimed w order locked with
    | none => exact h
    | some j => exact due_assign h fun r _ _ => by simp [SyncJob.claim]
  | complete w =>
    refine iff_of_true ?_ trivial
    rw [step]
    cases s.executing w with
    | none => exact h
    | some id => exact due_assign h fun r _ _ => by simp [SyncJob.complete]
  | fail w =>
    rw [step]
    cases hw : s.executing w with
    | none =>
      refine iff_of_true h fun id hid => ?_
      exact absurd (hw.symm.trans hid) (Option.some_ne_none _).symm
    | some id => exact due_fail_iff h hw
  | crash w => exact iff_of_true h trivial

/-- The job waits for a time, or the time has come. -/
def Waits (id : ℕ) (due : Instant) (s : SyncQueue ω) : Prop :=
  (∃ j, s.jobs.get? id = some j ∧ j.status = .pending ∧ j.scheduledAt = due) ∨ due ≤ s.clock

omit [DecidableEq ω] in
/-- A job that waits is not claimed before its time. -/
theorem le_clock_of_claimed {due : Instant} (hdue : Due s) (hwaits : Waits id due s)
    {order : RowOrder SyncJob} {locked : ℕ → Bool} (hclaimed : s.claimed w order locked = some j)
    (hid : j.id = id) : due ≤ s.clock := by
  rcases hwaits with ⟨r, hr, -, hscheduled⟩ | hle
  · obtain ⟨-, hj, hclaimable⟩ := claimed_spec hclaimed
    obtain rfl : j = r :=
      Table.eq_of_key hj (Table.get?_eq_some.mp hr).1 (hid.trans (Table.get?_eq_some.mp hr).2.symm)
    rw [← hscheduled]
    exact hdue j hj s.clock le_rfl hclaimable
  · exact hle

/-- **A job that waits goes on waiting**, until its time has come. -/
theorem waits_step {due : Instant} (s : SyncQueue ω) (e : Event ω) (hsound : Sound s)
    (hdue : Due s) (hwaits : Waits id due s) : Waits id due (step s e) := by
  -- workers report on running jobs, and so on others
  have hreport : ∀ {w k} (c : Table.Assignment SyncJob.id), s.executing w = some k →
      Waits id due (s.assign w k c none) := by
    intro w k c hw
    rcases hwaits with ⟨j, hj, hpending, hscheduled⟩ | hle
    · have hne : id ≠ k := by
        intro he
        refine hsound.not_executing (Table.get?_eq_some.mp hj).1 hpending w ?_
        rw [hw, (Table.get?_eq_some.mp hj).2, he]
      exact .inl ⟨j, (get?_assign_of_ne hne).trans hj, hpending, hscheduled⟩
    · exact .inr hle
  cases e with
  | elapse d =>
    rcases hwaits with hwaits | hle
    · exact .inl hwaits
    · exact .inr (hle.trans (le_add_of_nonneg_right (Int.natCast_nonneg d)))
  | enqueue productId priority maxAttempts seen =>
    rw [step]
    split_ifs
    · exact hwaits
    · rcases hwaits with ⟨j, hj, hrest⟩ | hle
      · have hlt := s.jobs.key_lt j (Table.get?_eq_some.mp hj).1
        rw [(Table.get?_eq_some.mp hj).2] at hlt
        exact .inl ⟨j, by rw [Table.get?_insert, if_neg (Nat.ne_of_lt hlt)]; exact hj, hrest⟩
      · exact .inr hle
  | claim w order locked =>
    rw [step]
    cases hclaimed : s.claimed w order locked with
    | none => exact hwaits
    | some r =>
      by_cases hid : r.id = id
      · exact .inr (le_clock_of_claimed (s := s) hdue hwaits hclaimed hid)
      · rcases hwaits with ⟨j, hj, hrest⟩ | hle
        · exact .inl ⟨j, (get?_assign_of_ne (Ne.symm hid)).trans hj, hrest⟩
        · exact .inr hle
  | complete w =>
    rw [step]
    cases hw : s.executing w with
    | none => exact hwaits
    | some k => exact hreport _ hw
  | fail w =>
    rw [step]
    cases hw : s.executing w with
    | none => exact hwaits
    | some k => exact hreport _ hw
  | crash w => exact hwaits

/-- A job that fails waits for its delay. -/
theorem waits_fail (hw : s.executing w = some j.id) (hj : s.jobs.get? j.id = some j)
    (hlt : j.attempts < j.maxAttempts) :
    Waits j.id (s.clock + backoff j.attempts) (step s (.fail w)) := by
  obtain ⟨hpending, hscheduled⟩ := fail_of_lt s.clock hlt
  rw [step, hw]
  exact .inl ⟨_, get?_assign hj, hpending, hscheduled⟩

end Step

/-- **When the backoff is honoured**: in a run exactly if, at each of its failures, the lock
covers the delay. -/
theorem backoffHonoured_iff (now : Instant) (l : List (Event ω)) :
    BackoffHonoured (start now) l ↔ AllSteps step LockCovers (start now) l := by
  have hdue : Throughout step Due (start now) l ↔ AllSteps step LockCovers (start now) l :=
    throughout_iff_allSteps (J := fun _ => True) (fun _ _ _ => trivial)
      (fun s e _ h => due_step_iff s e h) trivial fun _ h => absurd h List.not_mem_nil
  rw [← hdue]
  refine ⟨And.right, fun hall => ⟨?_, hall⟩⟩
  rintro l₁ w l₂ w' order locked l₃ j j' rfl hw hj hlt hclaimed hid
  -- from the failure on the job waits, through the steps up to the claim
  have hsplit : Throughout step Due (start now) (l₁ ++ .fail w :: l₂) :=
    (throughout_append.mp (by simpa using hall)).1
  have hfrom := (throughout_append.mp hsplit).2.2
  have hwaits : Throughout step
      (fun s => (Sound s ∧ Waits j.id ((run step (start now) l₁).clock + backoff j.attempts) s))
      (step (run step (start now) l₁) (.fail w)) l₂ := by
    refine throughout_of_allSteps (P := fun s _ => Due s)
      (fun s e h hd => ⟨sound_step s e h.1, waits_step s e h.1 hd h.2⟩)
      ⟨sound_step _ _ (sound_run now l₁), waits_fail hw hj hlt⟩ ?_
    exact hfrom.allSteps fun _ _ h => h
  have hlast := hwaits.last.2
  rw [run_append, run_cons] at hclaimed ⊢
  exact le_clock_of_claimed hfrom.last hlast hclaimed hid

/-- An attempt of 280 seconds fails, and the lock runs out before the delay of 30 seconds. -/
def slowAttempt : List (Event ℕ) :=
  [.enqueue 7 10 defaultMaxAttempts false, .claim 0 .insertion fun _ => false, .elapse 280000000,
    .fail 0, .elapse 21000000, .claim 0 .insertion fun _ => false]

/-- **It is claimed again after 21 seconds.** -/
theorem not_backoffHonoured_slowAttempt : ¬BackoffHonoured (start 0) slowAttempt := by
  intro h
  have hearly := h.1 (slowAttempt.take 3) 0 [.elapse 21000000] 0 .insertion (fun _ => false) []
    ⟨1, 7, .running, 10, 1, 3, 0, some 300000000⟩
    ⟨1, 7, .pending, 10, 1, 3, 310000000, some 300000000⟩ rfl rfl rfl (by decide) rfl rfl
  exact absurd hearly (by decide)

end SyncQueue

end CveManagement
