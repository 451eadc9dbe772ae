import CveManagement.Ingestion.Checkpoint
import CveManagement.Ingestion.Tiling

/-!
# The windows of consecutive deltas

Run after run, `run_nvd_delta_ingest` asks the NVD for the records modified since its last
checkpoint. A run reads two clocks: the generator of the client reads one when it starts,
and its windows end there; the checkpoint is written later, with a second reading, and the
next run's windows start *there*. What was modified between the two readings is asked for
by neither run.

A request names whole seconds, so the hole closes if both readings fall into the same
second, and only then: `CveManagement.gapFree_requestedWindows_iff`.
-/

namespace CveManagement

open Coverage Trajectory

/-! ### The windows of one run -/

/-- The stretch of time that a request is for: the milliseconds in its text are zero. -/
def asked (w : ℤ × ℤ) : ℤ × ℤ := (w.1 * 1000000, w.2 * 1000000)

/-- A point in time, in the whole seconds of a request. -/
def wholeSecond (t : ℤ) : ℤ := t / 1000000 * 1000000

theorem asked_fmtWindow (w : Instant × Instant) :
    asked (fmtWindow w) = (wholeSecond w.1, wholeSecond w.2) := rfl

theorem wholeSecond_mono {s t : ℤ} (h : s ≤ t) : wholeSecond s ≤ wholeSecond t := by
  have hdiv : s / 1000000 ≤ t / 1000000 := Int.ediv_le_ediv (by decide) h
  exact Int.mul_le_mul_of_nonneg_right hdiv (by decide)

/-- **The windows of one run leave no gap**, from the checkpoint to the generator's clock. -/
theorem spans_deltaWindows {current now : Instant} (h : current < now) :
    Spans (((deltaWindows current now).map fmtWindow).map asked) (wholeSecond current)
      (wholeSecond now) := by
  have hmono : Monotone wholeSecond := fun _ _ hle => wholeSecond_mono hle
  have htiles := tiles_deltaWindows hmono h
  rw [List.map_map]
  exact htiles.spans

/-! ### Runs after runs -/

/-- A run of `run_nvd_delta_ingest`: what its client sees, and the rest of the world. -/
structure NvdTurn where
  client : ClientEnv
  outside : IngestEnv

/-- The environment of the run; the stream is that of the client. -/
def NvdTurn.env (turn : NvdTurn) : IngestEnv :=
  { turn.outside with stream := NvdClient.iterDelta turn.client }

/-- What the runs work on. -/
structure NvdState where
  circuit : CircuitBreaker
  store : IngestStore

/-- One run. -/
def NvdState.run (s : NvdState) (turn : NvdTurn) : IngestRun :=
  runNvdDeltaIngest turn.env s.circuit s.store

/-- The state after a run. -/
def NvdState.step (s : NvdState) (turn : NvdTurn) : NvdState :=
  ⟨(s.run turn).circuit, (s.run turn).store⟩

/-- **The windows that consecutive runs request**, in the order of the requests. -/
def requestedWindows : NvdState → List NvdTurn → List (ℤ × ℤ)
  | _, [] => []
  | s, turn :: l =>
    ((s.run turn).consumed.elim [] RecordStream.requested) ++ requestedWindows (s.step turn) l

/-- Time passes during the runs and between them. -/
def ClocksAdvance : Instant → List NvdTurn → Prop
  | _, [] => True
  | t, turn :: l => t < turn.client.now ∧ turn.client.now < turn.outside.clock ∧
      ClocksAdvance turn.outside.clock l

/-- All runs are successful. -/
def AllSuccessful (s : NvdState) (l : List NvdTurn) : Prop :=
  AllSteps NvdState.step (fun s turn => (s.run turn).Successful) s l

section Runs

variable {s : NvdState} {t : Instant} {turn : NvdTurn} {l : List NvdTurn}

/-- **A successful run with a checkpoint** requests all windows from the checkpoint on,
and replaces it by its own. -/
theorem run_of_successful (hread : getLastModDate s.store.syncState "nvd_api" = some t)
    (hs : (s.run turn).Successful) :
    (s.run turn).consumed.elim [] RecordStream.requested =
        (deltaWindows t turn.client.now).map fmtWindow ∧
      getLastModDate (s.step turn).store.syncState "nvd_api" = some turn.outside.clock := by
  have hstream : deltaStream "nvd_api" turn.env s.store =
      iterWindows turn.client.lastModPages ((deltaWindows t turn.client.now).map fmtWindow) := by
    rw [deltaStream, hread]
    rfl
  constructor
  · have hend := (successful_runSince_iff.mp hs).2.2.1
    rw [hstream] at hend
    rw [NvdState.run, runNvdDeltaIngest, (runSince_of_successful hs).1, Option.elim_some, hstream]
    exact requested_iterWindows hend
  · -- there is a row of the source, since a date has been read from it
    have hrow : HasRow s.store.syncState "nvd_api" := by
      by_contra hno
      rw [getLastModDate_of_not_hasRow hno] at hread
      cases hread
    exact (movesLastMod_runSince.success hs "nvd_api" hrow).trans (if_pos rfl)

/-- **The hole between two runs** closes when both clocks show the same second. -/
theorem wholeSecond_le_add_one_iff {g c : ℤ} (h : g < c) :
    wholeSecond c ≤ wholeSecond g + 1 ↔ g / 1000000 = c / 1000000 := by
  have hdiv : g / 1000000 ≤ c / 1000000 := Int.ediv_le_ediv (by decide) h.le
  rw [wholeSecond, wholeSecond]
  omega

/-- Consecutive runs stretch from the first checkpoint to the last generator's clock, and
cover what is between exactly when every hole is closed. -/
theorem covered_requestedWindows (hread : getLastModDate s.store.syncState "nvd_api" = some t)
    (hs : AllSuccessful s (turn :: l)) (hclock : ClocksAdvance t (turn :: l)) :
    ∃ d, Within ((requestedWindows s (turn :: l)).map asked) (wholeSecond t) d ∧
      (Covered ((requestedWindows s (turn :: l)).map asked) (wholeSecond t) d ↔
        ∀ turn' ∈ (turn :: l).dropLast,
          fmtDate turn'.client.now = fmtDate turn'.outside.clock) := by
  -- on the runs: the first one spans up to its own clock, the others from its checkpoint on
  induction l generalizing s t turn with
  | nil =>
    obtain ⟨hreq, -⟩ := run_of_successful hread hs.1
    have hspans := spans_deltaWindows hclock.1
    refine ⟨wholeSecond turn.client.now, ?_, ?_⟩
    · rw [requestedWindows, hreq, requestedWindows, List.append_nil]
      exact hspans.toWithin
    · rw [requestedWindows, hreq, requestedWindows, List.append_nil]
      exact iff_of_true hspans.covered (by simp)
  | cons next l ih =>
    obtain ⟨hreq, hread'⟩ := run_of_successful hread hs.1
    have hspans := spans_deltaWindows hclock.1
    obtain ⟨d, hwithin, hcov⟩ := ih hread' hs.2 hclock.2.2
    have hgap : wholeSecond turn.client.now ≤ wholeSecond turn.outside.clock :=
      wholeSecond_mono hclock.2.1.le
    refine ⟨d, ?_, ?_⟩
    · rw [requestedWindows, hreq, List.map_append]
      exact hspans.toWithin.append hwithin hgap
    · rw [requestedWindows, hreq, List.map_append, covered_append_iff hspans hwithin hgap, hcov,
        wholeSecond_le_add_one_iff hclock.2.1, List.dropLast_cons_cons, List.forall_mem_cons]
      rfl

end Runs

/-- **The windows of consecutive successful runs leave no gap exactly when every run but
the last writes its checkpoint in the second in which its client read the clock.** -/
theorem gapFree_requestedWindows_iff (s : NvdState) (t : Instant) (l : List NvdTurn)
    (hread : getLastModDate s.store.syncState "nvd_api" = some t) (hs : AllSuccessful s l)
    (hclock : ClocksAdvance t l) :
    GapFree ((requestedWindows s l).map asked) ↔
      ∀ turn ∈ l.dropLast, fmtDate turn.client.now = fmtDate turn.outside.clock := by
  cases l with
  | nil => exact iff_of_true (fun _ _ h => by cases h) (by simp)
  | cons turn l =>
    obtain ⟨d, hwithin, hcov⟩ := covered_requestedWindows hread hs hclock
    rw [hwithin.gapFree_iff, hcov]

/-! ### Two runs of an idle NVD -/

/-- A run of which nothing is new, given its two clocks. -/
def idleTurn (now clock : Instant) : NvdTurn :=
  ⟨⟨now, fun _ => ([], none), fun _ => ([], none)⟩, { quietEnv with clock := clock }⟩

/-- The state in which a checkpoint has been written at time 0. -/
def checkpointed : NvdState :=
  ⟨.new "nvd" 5 120, ⟨fun _ => none, checkpoint 0 "nvd_api" 0 0 (.seeded 0)⟩⟩

/-- Idle runs are successful while the circuit is closed. -/
theorem successful_idleTurn {s : NvdState} (h : s.circuit.state = .closed) (now clock : Instant) :
    (s.run (idleTurn now clock)).Successful := by
  refine successful_runSince_iff.mpr ⟨rfl, fun hr => ?_, ?_, rfl⟩
  · rw [hr.1] at h
    cases h
  · rw [deltaStream]
    cases getLastModDate s.store.syncState "nvd_api" with
    | none => exact failure_iterWindows (fun _ => rfl) _
    | some t => exact failure_iterWindows (fun _ => rfl) _

theorem allSuccessful_idle (clocks : List (Instant × Instant)) {s : NvdState}
    (h : s.circuit.state = .closed) :
    AllSuccessful s (clocks.map fun c => idleTurn c.1 c.2) := by
  induction clocks generalizing s with
  | nil => trivial
  | cons c clocks ih =>
    have hs := successful_idleTurn h c.1 c.2
    exact ⟨hs, ih (closed_of_successful hs)⟩

/-- Two runs within one second each leave no gap. -/
theorem gapFree_quickRuns :
    GapFree ((requestedWindows checkpointed
      [idleTurn 5000000 5000001, idleTurn 7000000 7000001]).map asked) :=
  (gapFree_requestedWindows_iff checkpointed 0 _ (by decide)
    (allSuccessful_idle [(5000000, 5000001), (7000000, 7000001)] rfl)
    ⟨by decide, by decide, by decide, by decide, trivial⟩).mpr (by decide)

/-- **A window can be lost**: the first run takes three seconds, and what is modified
during the second of them is never asked for. -/
theorem exists_not_gapFree :
    ∃ s t l, getLastModDate s.store.syncState "nvd_api" = some t ∧ AllSuccessful s l ∧
      ClocksAdvance t l ∧ ¬GapFree ((requestedWindows s l).map asked) := by
  have hread : getLastModDate checkpointed.store.syncState "nvd_api" = some 0 := by decide
  have hs : AllSuccessful checkpointed [idleTurn 5000000 8000000, idleTurn 20000000 21000000] :=
    allSuccessful_idle [(5000000, 8000000), (20000000, 21000000)] rfl
  have hclock : ClocksAdvance 0 [idleTurn 5000000 8000000, idleTurn 20000000 21000000] :=
    ⟨by decide, by decide, by decide, by decide, trivial⟩
  refine ⟨checkpointed, 0, _, hread, hs, hclock, ?_⟩
  obtain ⟨d, hwithin, hcov⟩ := covered_requestedWindows hread hs hclock
  rw [hwithin.gapFree_iff, hcov]
  decide

end CveManagement
