import CveManagement.Webhooks.Bounds

/-!
# The table of retries

The table at the head of `app/workers/webhook_worker.py` names the delay after each attempt, and
so does the comment in `_BACKOFF_SECONDS`. The claim has already counted the attempt when
`_record_failure` adds one to `attempts`, and adds one more for `_next_attempt_delay`: the delay
comes two places further down the table, and an attempt that is followed by one more is taken for
the last. Only at the end of the table do the places coincide.
-/

namespace CveManagement

/-- The delay of the table after an attempt, in seconds. -/
def tableDelay (k : ℕ) : ℕ := backoffSeconds.getD (k - 1) 0

/-- **As the table says**: the delay of the attempt, and up to a quarter of it more. -/
def OnSchedule (k : ℕ) (t scheduledAt : Instant) : Prop :=
  t + 1000000 * tableDelay k ≤ scheduledAt ∧ scheduledAt ≤ t + 1250000 * tableDelay k

/-- The place of the table that is read. -/
theorem nextAttemptDelay_bounds (idx : ℕ) (jitter : Jitter) :
    (tableDelay (min idx 5) : ℚ) ≤ nextAttemptDelay idx jitter ∧
      nextAttemptDelay idx jitter ≤ 5 / 4 * (tableDelay (min idx 5) : ℚ) := by
  have hplace : min (idx - 1) (backoffSeconds.length - 1) = min idx 5 - 1 := by
    rw [show backoffSeconds.length = 5 from rfl]
    omega
  have hbase : (0 : ℚ) ≤ 1 / 4 * tableDelay (min idx 5) := by positivity
  have hlow := mul_nonneg jitter.nonneg hbase
  have hhigh := mul_le_mul_of_nonneg_right jitter.le_one hbase
  rw [nextAttemptDelay, hplace]
  exact ⟨by linarith!, by linarith!⟩

/-- **Two places further down**: an attempt that is not taken for the last is scheduled with the
delay of the attempt after the next. -/
theorem failureSchedule_bounds {k m : ℕ} (h : k + 1 < m) (t : Instant) (jitter : Jitter) :
    t + 1000000 * tableDelay (min (k + 2) 5) ≤ failureSchedule t jitter k m ∧
      failureSchedule t jitter k m ≤ t + 1250000 * tableDelay (min (k + 2) 5) := by
  obtain ⟨hlow, hhigh⟩ := nextAttemptDelay_bounds (k + 2) jitter
  have hle : 1000000 * (tableDelay (min (k + 2) 5) : ℤ) ≤
      timedelta (nextAttemptDelay (k + 2) jitter) := by
    refine Rounding.le_halfEven ?_
    push_cast
    linarith
  have hge : timedelta (nextAttemptDelay (k + 2) jitter) ≤
      1250000 * (tableDelay (min (k + 2) 5) : ℤ) := by
    refine Rounding.halfEven_le ?_
    push_cast
    linarith
  rw [failureSchedule, if_neg (not_le.mpr h)]
  exact ⟨Int.add_le_add_left hle t, Int.add_le_add_left hge t⟩

/-- **The end of the table**: of the five attempts only the fifth is scheduled as the table says,
and only if two more may follow. -/
theorem onSchedule_failureSchedule_iff {k m : ℕ} (hk : 1 ≤ k) (hm : k < m) (h5 : k ≤ 5)
    (t : Instant) (jitter : Jitter) :
    OnSchedule k t (failureSchedule t jitter k m) ↔ k = 5 ∧ 7 ≤ m := by
  rcases Nat.lt_or_ge (k + 1) m with hlt | hlast
  · obtain ⟨hlow, hhigh⟩ := failureSchedule_bounds hlt t jitter
    constructor
    · rintro ⟨-, hle⟩
      have hdelays := le_of_add_le_add_left (hlow.trans hle)
      -- the delays two places further down are too long
      interval_cases k
      · exact absurd hdelays (by decide)
      · exact absurd hdelays (by decide)
      · exact absurd hdelays (by decide)
      · exact absurd hdelays (by decide)
      · exact ⟨rfl, hlt⟩
    · rintro ⟨rfl, -⟩
      exact ⟨hlow, hhigh⟩
  · have hnow : failureSchedule t jitter k m = t := if_pos hlast
    constructor
    · rintro ⟨hle, -⟩
      rw [hnow] at hle
      have hpos : 0 < tableDelay k := by
        interval_cases k <;> decide
      have hzero : (1000000 * tableDelay k : ℤ) ≤ 0 := (add_le_iff_nonpos_right t).mp hle
      omega
    · rintro ⟨rfl, hm'⟩
      omega

namespace WebhookQueue

open Trajectory

/-- **The k-th of m attempts fails**: the next action of a task is to record it. -/
def FailsAt (s : WebhookQueue) (i id k m : ℕ) : Prop :=
  ∃ t row statusCode error responseBody rest, s.tasks[i]? = some t ∧
    t.actions = .recordFailure statusCode error responseBody :: rest ∧
    s.deliveries.get? id = some row ∧ t.deliveryId = id ∧ t.attempts = k ∧ row.maxAttempts = m

theorem get?_setTask (s : WebhookQueue) (i : ℕ) (t : DeliveryTask) (id : ℕ) :
    (s.setTask i t).deliveries.get? id = s.deliveries.get? id := rfl

/-- **A failure writes its schedule**, with the number of the attempt and of those allowed. -/
theorem get?_step_failure {s : WebhookQueue} {i id k m : ℕ} (hs : Sound s)
    (h : FailsAt s i id k m) (now : Instant) (jitter : Jitter) :
    ∃ row, (step s (.act i now jitter)).deliveries.get? id = some row ∧
      row.scheduledAt = failureSchedule now jitter k m := by
  obtain ⟨t, row, statusCode, error, responseBody, rest, hi, hactions, hrow, rfl, rfl, rfl⟩ := h
  -- the claim has returned the number of attempts that the row allows
  obtain ⟨d, hd, hid, hmax⟩ := hs.known t (List.mem_of_getElem? hi)
  rw [← hid, Table.get?_of_mem hd] at hrow
  obtain rfl := Option.some.inj hrow
  refine ⟨(WebhookDelivery.markFailure statusCode responseBody error
    (failureSchedule now jitter t.attempts t.maxAttempts)).set d, ?_, by rw [hmax]; rfl⟩
  simp only [step, hi, hactions, get?_setTask]
  rw [perform, update, Table.get?_update, ← hid, Table.get?_of_mem hd]
  simp

/-- **The schedule, in every run**: when the k-th of m attempts of a delivery fails, and k is at
most five and not m, the delivery is scheduled as the table says if and only if k is five and m
at least seven. -/
theorem onSchedule_iff (l : List Event) {i id k m : ℕ} (h : FailsAt (run step start l) i id k m)
    (hk : 1 ≤ k) (hm : k < m) (h5 : k ≤ 5) (now : Instant) (jitter : Jitter) :
    (∃ row, (step (run step start l) (.act i now jitter)).deliveries.get? id = some row ∧
      OnSchedule k now row.scheduledAt) ↔ k = 5 ∧ 7 ≤ m := by
  obtain ⟨row, hrow, hscheduled⟩ := get?_step_failure (sound_run l) h now jitter
  rw [← onSchedule_failureSchedule_iff hk hm h5 now jitter, ← hscheduled]
  constructor
  · rintro ⟨row', hrow', hon⟩
    rw [Option.some.inj (hrow.symm.trans hrow')]
    exact hon
  · exact fun hon => ⟨row, hrow, hon⟩

/-- A worker claims what is due, and finds every webhook disabled. -/
def claimDisabled (now : Instant) : Event :=
  .claim now RowOrder.insertion (fun _ => false) fun _ =>
    ⟨some ⟨"https://hooks.example.org/cve", false⟩, fun _ => none, none, .response 200 ""⟩

/-- Four attempts are lost, and the fifth fails: its delay is that of the table. -/
theorem onSchedule_fifthAttempt :
    let l := [.enqueue 1 7 0, claimDisabled 0, claimDisabled (seconds 60),
      claimDisabled (seconds 120), claimDisabled (seconds 180), claimDisabled (seconds 240)]
    FailsAt (run step start l) 4 1 5 7 ∧ ∃ row,
      (step (run step start l) (.act 4 (seconds 241) ⟨0, le_refl 0, by decide⟩)).deliveries.get? 1 =
        some row ∧ OnSchedule 5 (seconds 241) row.scheduledAt := by
  intro l
  have h : FailsAt (run step start l) 4 1 5 7 :=
    ⟨⟨1, 5, 7, [.recordFailure none "webhook_disabled" none], false, 0⟩,
      ⟨1, 1, none, none, 5, 7, 0, none, none, some (seconds 300)⟩,
      none, "webhook_disabled", none, [], by rfl, rfl, by rfl, rfl, rfl, rfl⟩
  exact ⟨h, (onSchedule_iff l h (by decide) (by decide) (by decide) _ _).mpr ⟨rfl, le_refl 7⟩⟩

/-- The first attempt of five fails, and the next is not due after a minute, nor after one and a
quarter. -/
theorem not_onSchedule_firstAttempt :
    let l := [.enqueue 1 5 0, claimDisabled 0]
    FailsAt (run step start l) 0 1 1 5 ∧ ∀ row,
      (step (run step start l) (.act 0 0 ⟨0, le_refl 0, by decide⟩)).deliveries.get? 1 =
        some row → ¬OnSchedule 1 0 row.scheduledAt := by
  intro l
  have h : FailsAt (run step start l) 0 1 1 5 :=
    ⟨⟨1, 1, 5, [.recordFailure none "webhook_disabled" none], false, 0⟩,
      ⟨1, 1, none, none, 1, 5, 0, none, none, some (seconds 60)⟩,
      none, "webhook_disabled", none, [], by rfl, rfl, by rfl, rfl, rfl, rfl⟩
  refine ⟨h, fun row hrow hon => ?_⟩
  obtain ⟨row', hrow', hscheduled⟩ :=
    get?_step_failure (sound_run l) h 0 ⟨0, le_refl 0, by decide⟩
  rw [Option.some.inj (hrow.symm.trans hrow'), hscheduled,
    onSchedule_failureSchedule_iff (by decide) (by decide) (by decide)] at hon
  exact absurd hon.1 (by decide)

end WebhookQueue

end CveManagement
