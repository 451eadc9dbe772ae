import CveManagement.Exploitability.Batches
import CveManagement.Library.Trajectory
import Mathlib

/-!
# The daily budget of the process

All calls of `fetch_intel` in a process share one `_DailyCounter`, and take their steps in any
order: a call puts its next batch to the counter, and then sends it. The counter looks at the day
for itself each time, so the first batch of a day finds it as yesterday's calls have left it, and
resets it whether or not it is then let through (`CveManagement.DailyCounter.consume_cases`).

`CveManagement.IntelProcess.Budgeted` relates the counter to the ids that were let through, and
`CveManagement.IntelCall.Orderly` what a call has sent to what it has left.
-/

namespace CveManagement

/-! ### The counter -/

namespace DailyCounter

variable {c : DailyCounter} {today : ℤ} {n : ℕ}

theorem rollover_self (h : c.day = today) : c.rollover today = c := if_neg (by simp [h])

theorem day_rollover : (c.rollover today).day = today := by
  unfold rollover
  split_ifs with h
  · rfl
  · exact (not_not.mp h).symm

theorem limit_rollover : (c.rollover today).limit = c.limit := by
  unfold rollover
  split_ifs <;> rfl

/-- **A batch is let through** if the counter of the day has room for it, and counted; otherwise
it leaves the counter as it is on that day. -/
theorem consume_cases (c : DailyCounter) (today : ℤ) (n : ℕ) :
    (((c.rollover today).count + n : ℤ) ≤ c.limit ∧ (c.consume today n).1 = true ∧
      (c.consume today n).2 =
        { c.rollover today with count := (c.rollover today).count + n }) ∨
    c.limit < ((c.rollover today).count + n : ℤ) ∧ (c.consume today n).1 = false ∧
      (c.consume today n).2 = c.rollover today := by
  unfold consume
  dsimp only
  rw [limit_rollover]
  split_ifs with h
  · exact Or.inr ⟨h, rfl, rfl⟩
  · exact Or.inl ⟨not_lt.mp h, rfl, rfl⟩

end DailyCounter

/-! ### The process -/

/-- **Where a call is**: before its next batch, while a batch is under way, or at its end. -/
inductive IntelPhase
  | next (batches : List (List String)) (results : Intel)
  | fetching (batch : List String) (batches : List (List String)) (results : Intel)
  | returned (results : Intel)
  | raised (e : FetchError)
  | cancelled

/-- The batches that a call has not sent yet, the one under way included. -/
def IntelPhase.left : IntelPhase → List (List String)
  | .next batches _ => batches
  | .fetching batch batches _ => batch :: batches
  | _ => []

/-- A call of `fetch_intel`, with the batches it has sent. -/
structure IntelCall where
  cveIds : List String
  phase : IntelPhase
  sent : List (List String)

/-- The process: the day, the counter, the calls, and the ids that the counter has let through,
by the day. -/
structure IntelProcess where
  today : ℤ
  daily : DailyCounter
  calls : List IntelCall
  admitted : List (ℤ × ℕ)

namespace IntelProcess

/-- What happens in the process. -/
inductive Event
  /-- Days pass. -/
  | days (elapsed : ℕ)
  /-- `fetch_intel` is called. -/
  | call (cveIds : List String)
  /-- A call takes its next batch to the counter, or returns. -/
  | consume (i : ℕ)
  /-- A call is done with its batch. -/
  | fetched (i : ℕ) (exchange : Exchange) (clock : ℕ → Instant)
  /-- A call is cancelled, with the body of its batch on the way or not. -/
  | cancel (i : ℕ) (sends : Bool)

/-- The process as `VulnxClient` is made. -/
def start (limit today : ℤ) : IntelProcess := ⟨today, ⟨limit, 0, today⟩, [], []⟩

variable (py : PyCase) (batchSize : ℤ) (s : IntelProcess)

/-- A call goes on. -/
def setPhase (i : ℕ) (c : IntelCall) (phase : IntelPhase) : IntelProcess :=
  { s with calls := s.calls.set i { c with phase := phase } }

/-- The head of a round of the loop. -/
def consumeCall (i : ℕ) (c : IntelCall) : IntelProcess :=
  match c.phase with
  | .next [] results => s.setPhase i c (.returned results)
  | .next (batch :: batches) results =>
    match s.daily.consume s.today batch.length with
    | (false, daily) => { s.setPhase i c (.returned results) with daily := daily }
    | (true, daily) =>
      { s.setPhase i c (.fetching batch batches results) with
        daily := daily
        admitted := s.admitted ++ [(s.today, batch.length)] }
  | _ => s

/-- The rest of the round, after the request of the batch. -/
def fetchedCall (i : ℕ) (c : IntelCall) (exchange : Exchange) (clock : ℕ → Instant) :
    IntelProcess :=
  match c.phase with
  | .fetching batch batches results =>
    let c := { c with sent := c.sent ++ if exchange.sends then [batch] else [] }
    match fetchBatch py ⟨[], s.today, exchange, clock⟩ with
    | .ok intel => s.setPhase i c (.next batches fun cid => (intel cid).or (results cid))
    | .error e =>
      if e.caught then s.setPhase i c (.next batches results) else s.setPhase i c (.raised e)
  | _ => s

/-- A `CancelledError` is raised in a call. -/
def cancelCall (i : ℕ) (c : IntelCall) (sends : Bool) : IntelProcess :=
  match c.phase with
  | .fetching batch _ _ =>
    s.setPhase i { c with sent := c.sent ++ if sends then [batch] else [] } .cancelled
  | .next .. => s.setPhase i c .cancelled
  | _ => s

/-- **One step.** -/
def step (s : IntelProcess) : Event → IntelProcess
  | .days elapsed => { s with today := s.today + elapsed }
  | .call cveIds =>
    { s with
      calls := s.calls ++ [⟨cveIds, .next (py.batches batchSize cveIds) fun _ => none, []⟩] }
  | .consume i => (s.calls[i]?).elim s fun c => s.consumeCall i c
  | .fetched i exchange clock => (s.calls[i]?).elim s fun c => s.fetchedCall py i c exchange clock
  | .cancel i sends => (s.calls[i]?).elim s fun c => s.cancelCall i c sends

/-- The ids that were let through on a day. -/
def admittedOn (d : ℤ) : ℕ := ((s.admitted.filter fun a => a.1 == d).map Prod.snd).sum

variable {py batchSize s}

/-! ### What a step does to the counter -/

/-- **The counter after a step**: it is as before, or that of the day, or has let a batch
through. -/
theorem daily_step_cases (py : PyCase) (batchSize : ℤ) (s : IntelProcess) (e : Event) :
    ((step py batchSize s e).daily = s.daily ∧ (step py batchSize s e).admitted = s.admitted ∧
      s.today ≤ (step py batchSize s e).today) ∨
    ((step py batchSize s e).daily = s.daily.rollover s.today ∧
      (step py batchSize s e).admitted = s.admitted ∧
      (step py batchSize s e).today = s.today) ∨
    ∃ n : ℕ, ((s.daily.rollover s.today).count + n : ℤ) ≤ s.daily.limit ∧
      (step py batchSize s e).daily = { s.daily.rollover s.today with
        count := (s.daily.rollover s.today).count + n } ∧
      (step py batchSize s e).admitted = s.admitted ++ [(s.today, n)] ∧
      (step py batchSize s e).today = s.today := by
  cases e with
  | days elapsed => exact Or.inl ⟨rfl, rfl, by simp [step]⟩
  | call cveIds => exact Or.inl ⟨rfl, rfl, le_rfl⟩
  | consume i =>
    rcases hc : s.calls[i]? with _ | c
    · simp [step, hc]
    have hstep : step py batchSize s (.consume i) = s.consumeCall i c := by simp [step, hc]
    rw [hstep]
    rcases hp : c.phase with ⟨_ | ⟨batch, batches⟩, results⟩ | _ | _ | _ | _
    · exact Or.inl (by simp [consumeCall, hp, setPhase])
    · rcases s.daily.consume_cases s.today batch.length with ⟨hle, ht, hd⟩ | ⟨-, hf, hd⟩
      · have hconsume : s.daily.consume s.today batch.length =
            (true, { s.daily.rollover s.today with
              count := (s.daily.rollover s.today).count + batch.length }) := Prod.ext ht hd
        refine Or.inr (Or.inr ⟨batch.length, hle, ?_⟩)
        simp [consumeCall, hp, hconsume, setPhase]
      · have hconsume : s.daily.consume s.today batch.length =
            (false, s.daily.rollover s.today) := Prod.ext hf hd
        refine Or.inr (Or.inl ?_)
        simp [consumeCall, hp, hconsume, setPhase]
    · exact Or.inl (by simp [consumeCall, hp])
    · exact Or.inl (by simp [consumeCall, hp])
    · exact Or.inl (by simp [consumeCall, hp])
    · exact Or.inl (by simp [consumeCall, hp])
  | fetched i exchange clock =>
    refine Or.inl ?_
    rcases hc : s.calls[i]? with _ | c
    · simp [step, hc]
    simp only [step, hc, Option.elim_some, fetchedCall, setPhase]
    split
    · split
      · simp
      · split_ifs <;> simp
    · simp
  | cancel i sends =>
    refine Or.inl ?_
    rcases hc : s.calls[i]? with _ | c
    · simp [step, hc]
    simp only [step, hc, Option.elim_some, cancelCall, setPhase]
    split <;> simp

/-- **The counter is in step with what was let through**: it counts the ids of its day, and no day
has had more than the limit. -/
structure Budgeted (limit : ℤ) (s : IntelProcess) : Prop where
  limit_eq : s.daily.limit = limit
  day_le : s.daily.day ≤ s.today
  logged : ∀ a ∈ s.admitted, a.1 ≤ s.daily.day
  counted : s.admittedOn s.daily.day = s.daily.count
  within : ∀ d, (s.admittedOn d : ℤ) ≤ limit

theorem admittedOn_concat (d today : ℤ) (n : ℕ) (log : List (ℤ × ℕ)) :
    (((log ++ [(today, n)]).filter fun a => a.1 == d).map Prod.snd).sum =
      ((log.filter fun a => a.1 == d).map Prod.snd).sum + if today = d then n else 0 := by
  rw [List.filter_append]
  by_cases h : today = d
  · simp [h]
  · simp [h]

/-- No id was let through after the last day of the log. -/
theorem admittedOn_eq_zero {d d' : ℤ} (hlog : ∀ a ∈ s.admitted, a.1 ≤ d) (h : d < d') :
    s.admittedOn d' = 0 := by
  have hnil : (s.admitted.filter fun a => a.1 == d') = [] := by
    refine List.filter_eq_nil_iff.mpr fun a ha => ?_
    have hne : a.1 ≠ d' := (lt_of_le_of_lt (hlog a ha) h).ne
    simpa using hne
  rw [admittedOn, hnil, List.map_nil, List.sum_nil]

/-- **The counter of the day** is in step, too. -/
theorem Budgeted.rollover {limit : ℤ} (h : s.Budgeted limit) :
    Budgeted limit { s with daily := s.daily.rollover s.today } := by
  by_cases hday : s.daily.day = s.today
  · rw [DailyCounter.rollover_self hday]
    exact h
  · have hlt : s.daily.day < s.today := lt_of_le_of_ne h.day_le hday
    have hroll : s.daily.rollover s.today = ⟨s.daily.limit, 0, s.today⟩ := if_pos (Ne.symm hday)
    refine ⟨?_, ?_, fun a ha => ?_, ?_, h.within⟩
    · rw [hroll]
      exact h.limit_eq
    · rw [hroll]
    · rw [hroll]
      exact (h.logged a ha).trans hlt.le
    · rw [hroll]
      exact admittedOn_eq_zero h.logged hlt

/-- The counter and the log are all that counts, and the day may be over. -/
theorem Budgeted.congr {limit : ℤ} {s s' : IntelProcess} (h : s.Budgeted limit)
    (hd : s'.daily = s.daily) (ha : s'.admitted = s.admitted) (ht : s.today ≤ s'.today) :
    s'.Budgeted limit := by
  refine ⟨?_, ?_, ?_, ?_, ?_⟩
  · rw [hd]
    exact h.limit_eq
  · rw [hd]
    exact h.day_le.trans ht
  · rw [hd, ha]
    exact h.logged
  · rw [admittedOn, hd, ha]
    exact h.counted
  · intro d
    rw [admittedOn, ha]
    exact h.within d

/-- **Every step keeps the budget.** -/
theorem budgeted_step {limit : ℤ} (h : s.Budgeted limit) (e : Event) :
    (step py batchSize s e).Budgeted limit := by
  rcases daily_step_cases py batchSize s e with
    ⟨hd, ha, ht⟩ | ⟨hd, ha, ht⟩ | ⟨n, hle, hd, ha, ht⟩
  · exact h.congr hd ha ht
  · exact h.rollover.congr hd ha ht.ge
  · have hroll := h.rollover
    have hday : (s.daily.rollover s.today).day = s.today := DailyCounter.day_rollover
    have hcount : s.admittedOn s.today = (s.daily.rollover s.today).count := by
      have hcounted := hroll.counted
      rw [hday] at hcounted
      exact hcounted
    refine ⟨?_, ?_, ?_, ?_, ?_⟩
    · rw [hd]
      exact hroll.limit_eq
    · rw [hd, ht]
      exact hday.le
    · rw [hd, ha]
      intro a hmem
      rcases List.mem_append.mp hmem with hmem | hmem
      · exact hroll.logged a hmem
      · rw [List.mem_singleton.mp hmem]
        exact hday.ge
    · rw [admittedOn, hd, ha, admittedOn_concat, if_pos hday.symm]
      change s.admittedOn (s.daily.rollover s.today).day + n = _
      rw [hday, hcount]
    · intro d
      rw [admittedOn, ha, admittedOn_concat]
      change ((s.admittedOn d + if s.today = d then n else 0 : ℕ) : ℤ) ≤ limit
      split_ifs with htoday
      · rw [← htoday, hcount]
        push_cast
        exact h.limit_eq ▸ hle
      · exact h.within d

end IntelProcess

end CveManagement
