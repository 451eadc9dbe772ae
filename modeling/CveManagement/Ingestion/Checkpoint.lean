import CveManagement.Ingestion.RunEffects

/-!
# What the checkpoint promises

The last modification date of a source is where its next delta starts, so two things are
wanted of it.

* **It never passes an unstored record**: after a delta, either every record that the
  client yielded is represented in the mirror, or the dates are as before
  (`CveManagement.CheckpointSafe`). `_upsert_batched` swallows the failure of a batch and
  the run goes on to its checkpoint; `CveManagement.checkpointSafe_iff` lists what then
  saves the promise.
* **It is read back**: after successful runs of an entry point, `_get_last_mod_date` with
  its source returns what its last checkpoint wrote. The checkpoint is an `UPDATE` of a row
  that the migration has to have seeded, and it seeded `vulncheck` where two of the entry
  points say `vulncheck_nvd`; see `CveManagement.lastMod_readBack_iff`.
-/

namespace CveManagement

open Trajectory

/-! ### No record is passed -/

section Safe

/-- **The checkpoint has not passed an unstored record**: everything that the client
yielded is represented, or no last modification date has moved. -/
def CheckpointSafe (before : IngestStore) (run : IngestRun) : Prop :=
  (∀ stream, run.consumed = some stream → ∀ r ∈ stream.records, Represented run.store.cves r) ∨
    ∀ src, getLastModDate run.store.syncState src = getLastModDate before.syncState src

/-- The stream of a delta run. -/
def deltaStream (source : String) (env : IngestEnv) (store : IngestStore) : RecordStream :=
  env.stream (getLastModDate store.syncState source)

/-- **The lost batches are made good**: each record in a batch that the database refuses
was represented before the run, or is superseded by a record in a batch that it takes. -/
def LostAreCovered (fails : ℕ → Bool) (records : List NvdCveRecord) (cves : Cves) : Prop :=
  ∀ p r, records[p]? = some r → fails (batchOf p) = true →
    Represented cves r ∨ WrittenIn fails records r

/-- **What saves the promise**: the run never gets to its checkpoint, the checkpoint moves
nothing, or the lost batches are made good. -/
def PromiseKept (source : String) (env : IngestEnv) (circuit : CircuitBreaker)
    (store : IngestStore) : Prop :=
  env.readFails.isSome = true ∨ circuit.Refuses env.call.admittedAt ∨
    (deltaStream source env store).failure.isSome = true ∨ env.checkpointFails.isSome = true ∨
    ¬HasRow store.syncState source ∨ getLastModDate store.syncState source = some env.clock ∨
    LostAreCovered env.fails (deltaStream source env store).records store.cves

variable {source : String} {env : IngestEnv} {circuit : CircuitBreaker} {store : IngestStore}

/-- A delta that gets to its checkpoint. -/
theorem runSince_of_end (hread : env.readFails = none) (h : ¬circuit.Refuses env.call.admittedAt)
    (hend : (deltaStream source env store).failure = none) :
    ∃ c counts, c = (circuit.call env.call (.ok counts)).circuit ∧
      runSince source env circuit store =
        finishRun source env c { store with cves := (upsertBatched source env.clock env.fails
          (deltaStream source env store) store.cves).1 } counts (deltaStream source env store) := by
  rw [runSince, hread]
  exact runProtected_of_end source store (fun _ => store) h hend

/-- **When a delta is successful.** -/
theorem successful_runSince_iff :
    (runSince source env circuit store).Successful ↔
      env.readFails = none ∧ ¬circuit.Refuses env.call.admittedAt ∧
        (deltaStream source env store).failure = none ∧ env.checkpointFails = none := by
  cases hread : env.readFails with
  | some e =>
    rw [runSince, hread]
    exact iff_of_false (fun h => by cases h.1) fun h => by cases h.1
  | none =>
    by_cases href : circuit.Refuses env.call.admittedAt
    · rw [runSince, hread]
      dsimp only
      rw [runProtected_of_refuses href]
      exact iff_of_false (fun h => by cases h.1) fun h => h.2.1 href
    · cases hfail : (deltaStream source env store).failure with
      | some e =>
        obtain ⟨c, hrun⟩ := runProtected_of_failure source store (fun _ => store) href hfail
        rw [runSince, hread]
        refine iff_of_false (fun h => ?_) fun h => by cases h.2.2.1
        obtain ⟨result, hresult⟩ := h.2
        cases (congrArg IngestRun.outcome hrun).symm.trans hresult
      | none =>
        obtain ⟨c, counts, -, hrun⟩ := runSince_of_end hread href hfail
        rw [hrun, finishRun]
        cases hcheck : env.checkpointFails with
        | some e =>
          refine iff_of_false (fun h => ?_) fun h => by cases h.2.2.2
          obtain ⟨result, hresult⟩ := h.2
          cases hresult
        | none => exact iff_of_true ⟨rfl, _, rfl⟩ ⟨rfl, href, rfl, rfl⟩

/-- What a successful delta has consumed, and left in the mirror. -/
theorem runSince_of_successful (h : (runSince source env circuit store).Successful) :
    (runSince source env circuit store).consumed = some (deltaStream source env store) ∧
      ∀ r, Represented (runSince source env circuit store).store.cves r ↔
        Represented store.cves r ∨
          WrittenIn env.fails (deltaStream source env store).records r := by
  obtain ⟨hread, href, hend, hcheck⟩ := successful_runSince_iff.mp h
  obtain ⟨c, counts, -, hrun⟩ := runSince_of_end hread href hend
  rw [hrun, finishRun, hcheck]
  exact ⟨rfl, fun r => represented_upsertBatched hend⟩

/-- A successful delta closes its circuit. -/
theorem closed_of_successful (h : (runSince source env circuit store).Successful) :
    (runSince source env circuit store).circuit.state = .closed := by
  obtain ⟨hread, href, hend, hcheck⟩ := successful_runSince_iff.mp h
  obtain ⟨c, counts, hc, hrun⟩ := runSince_of_end hread href hend
  rw [hrun, finishRun, hcheck, hc]
  exact CircuitBreaker.state_call_ok href counts

/-- A delta that is not successful, or has no row to write, moves no date. -/
theorem lastMod_runSince_of_not
    (h : ¬((runSince source env circuit store).Successful ∧ HasRow store.syncState source))
    (src : String) :
    getLastModDate (runSince source env circuit store).store.syncState src =
      getLastModDate store.syncState src := by
  have hmoves : MovesLastMod source env store (runSince source env circuit store) :=
    movesLastMod_runSince
  by_cases hs : (runSince source env circuit store).Successful
  · by_cases hrow : HasRow store.syncState src
    · rw [hmoves.success hs src hrow, if_neg]
      rintro rfl
      exact h ⟨hs, hrow⟩
    · rw [getLastModDate_of_not_hasRow hrow,
        getLastModDate_of_not_hasRow fun hc => hrow ((hmoves.rows src).mp hc)]
  · exact hmoves.frame hs src

/-- **A delta keeps the promise exactly when one of the cases that save it applies.** -/
theorem checkpointSafe_runSince_iff :
    CheckpointSafe store (runSince source env circuit store) ↔
      PromiseKept source env circuit store := by
  by_cases h : (runSince source env circuit store).Successful ∧ HasRow store.syncState source
  · obtain ⟨hs, hrow⟩ := h
    obtain ⟨hconsumed, hrep⟩ := runSince_of_successful hs
    have hmoves : MovesLastMod source env store (runSince source env circuit store) :=
      movesLastMod_runSince
    have hdate := hmoves.success hs source hrow
    rw [if_pos rfl] at hdate
    obtain ⟨hread, href, hend, hcheck⟩ := successful_runSince_iff.mp hs
    -- only the last two cases are left
    have hkept : PromiseKept source env circuit store ↔
        getLastModDate store.syncState source = some env.clock ∨
          LostAreCovered env.fails (deltaStream source env store).records store.cves := by
      simp [PromiseKept, hread, href, hend, hcheck, hrow]
    rw [hkept]
    constructor
    · rintro (hall | hsame)
      · refine .inr fun p r hp _ => (hrep r).mp (hall _ hconsumed r (List.mem_of_getElem? hp))
      · exact .inl ((hsame source).symm.trans hdate)
    · rintro (hsame | hcovered)
      · refine .inr fun src => ?_
        by_cases hsrc : src = source
        · rw [hsrc, hdate, hsame]
        · by_cases hsrcRow : HasRow store.syncState src
          · rw [hmoves.success hs src hsrcRow, if_neg hsrc]
          · have hafter := mt (hmoves.rows src).mp hsrcRow
            rw [getLastModDate_of_not_hasRow hsrcRow, getLastModDate_of_not_hasRow hafter]
      · refine .inl fun stream hstream r hr => ?_
        obtain rfl := Option.some.inj (hconsumed.symm.trans hstream)
        obtain ⟨p, hp⟩ := List.mem_iff_getElem?.mp hr
        rw [hrep]
        cases hf : env.fails (batchOf p) with
        | true => exact hcovered p r hp hf
        | false => exact .inr ⟨p, r, hp, hf, rfl, le_refl _⟩
  · refine iff_of_true (.inr fun src => lastMod_runSince_of_not h src) ?_
    by_contra hnot
    simp only [PromiseKept, not_or, Option.not_isSome_iff_eq_none, not_not] at hnot
    exact h ⟨successful_runSince_iff.mpr ⟨hnot.1, hnot.2.1, hnot.2.2.1, hnot.2.2.2.1⟩,
      hnot.2.2.2.2.1⟩

/-- **`run_delta_ingest` and `run_nvd_delta_ingest` pass no unstored record exactly when
one of the cases that save the promise applies.** -/
theorem checkpointSafe_iff (env : IngestEnv) (circuit : CircuitBreaker) (store : IngestStore) :
    (CheckpointSafe store (runDeltaIngest env circuit store) ↔
      PromiseKept "vulncheck_nvd" env circuit store) ∧
    (CheckpointSafe store (runNvdDeltaIngest env circuit store) ↔
      PromiseKept "nvd_api" env circuit store) :=
  ⟨checkpointSafe_runSince_iff, checkpointSafe_runSince_iff⟩

/-- A run on a record that the database refuses to take. -/
def refusedEnv : IngestEnv where
  startedAt := 0
  call := ⟨0, 0, 1⟩
  finishedAt := 1
  clock := 10
  stream _ := ⟨[], [⟨"CVE-2024-0001", 1, 5, none, none, none, none, .obj []⟩], none⟩
  fails _ := true
  readFails := none
  checkpointFails := none
  recordErrorFails := false

/-- **A checkpoint can pass an unstored record**: the batch is lost, and the date moves. -/
theorem exists_not_checkpointSafe :
    ∃ env circuit store, ¬CheckpointSafe store (runNvdDeltaIngest env circuit store) := by
  refine ⟨refusedEnv, .new "nvd" 5 120, ⟨fun _ => none, .seeded 0⟩, fun h => ?_⟩
  rcases h with hall | hsame
  · obtain ⟨row, hrow, -⟩ := hall _ rfl _ List.mem_cons_self
    cases hrow
  · have := hsame "nvd_api"
    revert this
    decide

end Safe

/-! ### The date is read back -/

section ReadBack

/-- The circuits of the entry points, and the store. -/
structure IngestWorld where
  vulncheck : CircuitBreaker
  nvd : CircuitBreaker
  store : IngestStore

/-- The circuit that an entry point is given. -/
def IngestWorld.circuit (w : IngestWorld) : EntryPoint → CircuitBreaker
  | .bulk | .delta => w.vulncheck
  | .nvdDelta => w.nvd

/-- The world after a run. -/
def IngestWorld.after (w : IngestWorld) (ep : EntryPoint) (run : IngestRun) : IngestWorld :=
  match ep with
  | .bulk | .delta => { w with vulncheck := run.circuit, store := run.store }
  | .nvdDelta => { w with nvd := run.circuit, store := run.store }

@[simp] theorem store_after (w : IngestWorld) (ep : EntryPoint) (run : IngestRun) :
    (w.after ep run).store = run.store := by
  cases ep <;> rfl

/-- The world, and the timestamp that the last checkpoint of each entry point has written. -/
structure IngestHistory where
  world : IngestWorld
  written : EntryPoint → Option Instant

/-- A world in which nothing has run, with `sync_state` as seeded. -/
def IngestHistory.start (now : Instant) (vulncheck nvd : CircuitBreaker) (cves : Cves) :
    IngestHistory :=
  ⟨⟨vulncheck, nvd, ⟨cves, .seeded now⟩⟩, fun _ => none⟩

/-- **One run**, of an entry point in an environment. -/
def IngestHistory.step (h : IngestHistory) (r : EntryPoint × IngestEnv) :
    IngestHistory :=
  let run := r.1.run r.2 (h.world.circuit r.1) h.world.store
  ⟨h.world.after r.1 run,
    if run.Successful then Function.update h.written r.1 (some r.2.clock) else h.written⟩

/-- What every history keeps: the rows are the seeded ones, and the row of the NVD says
what the last checkpoint of its entry point has written. -/
structure HistoryInvariant (h : IngestHistory) : Prop where
  nvdRow : HasRow h.world.store.syncState "nvd_api"
  noVulncheckRow : ¬HasRow h.world.store.syncState "vulncheck_nvd"
  read : ∀ t, h.written .nvdDelta = some t →
    getLastModDate h.world.store.syncState "nvd_api" = some t

theorem historyInvariant_start (now : Instant) (vulncheck nvd : CircuitBreaker) (cves : Cves) :
    HistoryInvariant (.start now vulncheck nvd cves) where
  nvdRow := ⟨SyncRow.seed "nvd_api" now 2, by simp [IngestHistory.start, SyncState.seeded,
    Table.empty, Table.insert], rfl⟩
  noVulncheckRow := by
    simp [HasRow, IngestHistory.start, SyncState.seeded, Table.empty, Table.insert, SyncRow.seed]
  read t h := by cases h

theorem HistoryInvariant.step {h : IngestHistory} (hI : HistoryInvariant h)
    (r : EntryPoint × IngestEnv) : HistoryInvariant (h.step r) := by
  obtain ⟨ep, env⟩ := r
  have hmoves : MovesLastMod ep.source env h.world.store
      (ep.run env (h.world.circuit ep) h.world.store) := movesLastMod_run ep
  have hstore : (h.step (ep, env)).world.store =
      (ep.run env (h.world.circuit ep) h.world.store).store := store_after _ _ _
  refine ⟨?_, ?_, fun t ht => ?_⟩
  · rw [hstore]
    exact (hmoves.rows _).mpr hI.nvdRow
  · rw [hstore]
    exact fun hc => hI.noVulncheckRow ((hmoves.rows _).mp hc)
  · rw [hstore]
    rw [IngestHistory.step] at ht
    dsimp only at ht
    by_cases hs : (ep.run env (h.world.circuit ep) h.world.store).Successful
    · rw [if_pos hs] at ht
      rw [hmoves.success hs _ hI.nvdRow]
      by_cases hep : ep = .nvdDelta
      · subst hep
        rw [if_pos (by rfl)]
        rw [Function.update_self] at ht
        exact ht
      · have hsource : "nvd_api" ≠ ep.source := by
          cases ep with
          | bulk => decide
          | delta => decide
          | nvdDelta => exact absurd rfl hep
        rw [Function.update_of_ne (Ne.symm hep)] at ht
        rw [if_neg hsource]
        exact hI.read t ht
    · rw [if_neg hs] at ht
      rw [hmoves.frame hs]
      exact hI.read t ht

/-- **What an entry point has written is read back exactly when the entry point is
`run_nvd_delta_ingest`**, in every history of runs from the seeded table in which the
entry point has written a checkpoint. -/
theorem lastMod_readBack_iff (now : Instant) (vulncheck nvd : CircuitBreaker) (cves : Cves)
    (l : List (EntryPoint × IngestEnv)) (ep : EntryPoint) (t : Instant)
    (ht : (run IngestHistory.step (.start now vulncheck nvd cves) l).written ep = some t) :
    getLastModDate (run IngestHistory.step (.start now vulncheck nvd cves) l).world.store.syncState
        ep.source = some t ↔ ep = .nvdDelta := by
  have hstep : ∀ h r, HistoryInvariant h → HistoryInvariant (IngestHistory.step h r) :=
    fun _ r hI => hI.step r
  have hI : HistoryInvariant (run IngestHistory.step (.start now vulncheck nvd cves) l) :=
    (throughout_of_step hstep (historyInvariant_start now vulncheck nvd cves) l).last
  constructor
  · intro hread
    by_contra hep
    have hsource : ep.source = "vulncheck_nvd" := by
      cases ep with
      | bulk => rfl
      | delta => rfl
      | nvdDelta => exact absurd rfl hep
    rw [hsource, getLastModDate_of_not_hasRow hI.noVulncheckRow] at hread
    cases hread
  · rintro rfl
    exact hI.read t ht

/-- A run in which nothing goes wrong, and nothing is new. -/
def quietEnv : IngestEnv where
  startedAt := 0
  call := ⟨0, 0, 1⟩
  finishedAt := 1
  clock := 10
  stream _ := .empty
  fails _ := false
  readFails := none
  checkpointFails := none
  recordErrorFails := false

/-- The history of one quiet run of an entry point. -/
def quietRun (ep : EntryPoint) : IngestHistory :=
  run IngestHistory.step (.start 0 (.new "vulncheck" 5 60) (.new "nvd" 5 120) fun _ => none)
    [(ep, quietEnv)]

/-- One run of `run_nvd_delta_ingest`, and what it has written is read back. -/
theorem lastMod_readBack_quietRun :
    (quietRun .nvdDelta).written .nvdDelta = some 10 ∧
      (getLastModDate (quietRun .nvdDelta).world.store.syncState "nvd_api" = some 10 ↔
        EntryPoint.nvdDelta = .nvdDelta) :=
  ⟨by decide, lastMod_readBack_iff 0 _ _ _ _ .nvdDelta 10 (by decide)⟩

/-- **A checkpoint can be lost**: a successful `run_delta_ingest` reads back nothing. -/
theorem exists_not_readBack :
    ∃ now vulncheck nvd cves l ep t,
      (run IngestHistory.step (.start now vulncheck nvd cves) l).written ep = some t ∧
        getLastModDate (run IngestHistory.step (.start now vulncheck nvd cves)
          l).world.store.syncState ep.source ≠ some t :=
  ⟨0, .new "vulncheck" 5 60, .new "nvd" 5 120, fun _ => none, [(.delta, quietEnv)], .delta, 10,
    by decide, by decide⟩

end ReadBack

end CveManagement
