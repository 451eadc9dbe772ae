import CveManagement.Ingestion.CircuitBreaker
import CveManagement.Ingestion.DeltaClients

/-!
# The ingestion worker

`app/ingestion/ingest_worker.py`: `_upsert_batched` streams the records of a client into
the mirror, five hundred at a time and swallowing the failure of a batch; the entry points
`run_bulk_ingest`, `run_delta_ingest` and `run_nvd_delta_ingest` put it behind a circuit
and write a checkpoint into `sync_state` when it returns; `run_smart_delta` chooses between
the last two.

What the outside world does to a run – the clocks, the stream, which batches the database
refuses, which of the accesses to `sync_state` fail – is collected in
`CveManagement.IngestEnv`.
-/

namespace CveManagement

/-! ### `sync_state` -/

/-- A row of `sync_state`. -/
structure SyncRow where
  id : ℕ
  source : String
  lastSuccessAt : Option Instant
  lastModDate : Option Instant
  totalIngested : ℕ
  lastError : Option String
  updatedAt : Instant

/-- The table `sync_state`. -/
abbrev SyncState := Table SyncRow SyncRow.id

/-- A row as the migration seeds it. -/
def SyncRow.seed (source : String) (now : Instant) (n : ℕ) : SyncRow :=
  ⟨n, source, none, none, 0, none, now⟩

/-- `sync_state` as the migrations create and seed it. -/
def SyncState.seeded (now : Instant) : SyncState :=
  (Table.empty.insert (SyncRow.seed "vulncheck" now)).insert (SyncRow.seed "nvd_api" now)

/-- `_get_last_mod_date`. -/
def getLastModDate (t : SyncState) (source : String) : Option Instant :=
  (t.find fun row => row.source == source).bind SyncRow.lastModDate

/-- The `SET` clause of `_CHECKPOINT_SQL`. -/
def SyncRow.checkpoint (now lastMod : Instant) (count : ℕ) : Table.Assignment SyncRow.id where
  set row := { row with
    lastSuccessAt := some now
    lastModDate := some lastMod
    totalIngested := row.totalIngested + count
    lastError := none
    updatedAt := now }
  key_set _ := rfl

/-- `_checkpoint`: an `UPDATE`, of the row of a source if there is one. -/
def checkpoint (now : Instant) (source : String) (lastMod : Instant) (count : ℕ) (t : SyncState) :
    SyncState :=
  t.update (fun row => row.source == source) (SyncRow.checkpoint now lastMod count)

/-- The `SET` clause of `_ERROR_SQL`. -/
def SyncRow.error (now : Instant) (error : String) : Table.Assignment SyncRow.id where
  set row := { row with
    lastError := some error
    updatedAt := now }
  key_set _ := rfl

/-- `_record_error`, of the first 500 characters. -/
def recordError (now : Instant) (source error : String) (t : SyncState) : SyncState :=
  t.update (fun row => row.source == source)
    (SyncRow.error now (String.ofList (error.toList.take 500)))

/-! ### `_upsert_batched` -/

/-- `_UPSERT_BATCH`. -/
def upsertBatch : ℕ := 500

/-- The local variables of `_upsert_batched`, the mirror, and the number of batches that
have been flushed. -/
structure BatchState where
  cves : Cves
  batch : List NvdCveRecord
  processed : ℕ
  errors : ℕ
  flushed : ℕ

section Upsert

variable (source : String) (now : Instant) (fails : ℕ → Bool)

/-- `_flush`; the database refuses the batches that `fails` names, as a whole. -/
def flush (s : BatchState) : BatchState :=
  if s.batch = [] then s
  else if fails s.flushed then
    { s with batch := [], errors := s.errors + s.batch.length, flushed := s.flushed + 1 }
  else
    { s with
      cves := upsertMany source now s.batch s.cves
      batch := []
      processed := s.processed + s.batch.length
      flushed := s.flushed + 1 }

/-- One round of the loop. -/
def feedRecord (s : BatchState) (r : NvdCveRecord) : BatchState :=
  let s := { s with batch := s.batch ++ [r] }
  -- the batch is full with this record
  if upsertBatch ≤ s.batch.length then flush source now fails s else s

/-- **`_upsert_batched`**: the mirror, and the counts or the exception of the stream. -/
def upsertBatched (stream : RecordStream) (cves : Cves) : Cves × Except String (ℕ × ℕ) :=
  let looped := stream.records.foldl (feedRecord source now fails) ⟨cves, [], 0, 0, 0⟩
  match stream.failure with
  -- an exception of the stream skips the last flush, and what is in the batch is lost
  | some e => (looped.cves, .error e)
  | none =>
    let s := flush source now fails looped
    (s.cves, .ok (s.processed, s.errors))

end Upsert

/-! ### The entry points -/

/-- `IngestResult`. -/
structure IngestResult where
  source : String
  processed : ℕ
  errors : ℕ
  durationMs : ℤ

/-- What the outside world does to a run. -/
structure IngestEnv where
  /-- `t0`, in seconds of the monotonic clock. -/
  startedAt : ℚ
  /-- The clock readings of the circuit. -/
  call : CallClock
  /-- The monotonic clock when the call has returned. -/
  finishedAt : ℚ
  /-- The wall clock when the call has returned. -/
  clock : Instant
  /-- The stream that the client makes of the last modification date. -/
  stream : Option Instant → RecordStream
  /-- The batches that the database refuses. -/
  fails : ℕ → Bool
  /-- The query for the last modification date raises. -/
  readFails : Option String
  /-- The checkpoint raises. -/
  checkpointFails : Option String
  /-- The `UPDATE` of `_record_error` raises, which it swallows. -/
  recordErrorFails : Bool

/-- What a run works on. -/
structure IngestStore where
  cves : Cves
  syncState : SyncState

/-- What a run leaves behind: its result or exception, the circuit, the store, and the
stream it has consumed, if the protected call was invoked. -/
structure IngestRun where
  outcome : Except String IngestResult
  circuit : CircuitBreaker
  store : IngestStore
  consumed : Option RecordStream

section Run

variable (source : String) (env : IngestEnv) (circuit : CircuitBreaker) (store : IngestStore)

/-- `_record_error`, as a run calls it. -/
def IngestStore.recordError (error : String) : IngestStore :=
  if env.recordErrorFails then store
  else { store with syncState := CveManagement.recordError env.clock source error store.syncState }

/-- The end of a run whose call has returned: the checkpoint, with the time at which it is
written. -/
def finishRun (counts : ℕ × ℕ) (consumed : RecordStream) : IngestRun :=
  match env.checkpointFails with
  | some e => ⟨.error e, circuit, store, some consumed⟩
  | none =>
    ⟨.ok ⟨source, counts.1, counts.2, ⌊(env.finishedAt - env.startedAt) * 1000⌋⟩, circuit,
      { store with syncState := checkpoint env.clock source env.clock counts.1 store.syncState },
      some consumed⟩

/-- What the entry points have in common, from the protected call on; `refused` says what
an entry point does when the circuit refuses the call. -/
def runProtected (stream : RecordStream) (refused : CallError → IngestStore) : IngestRun :=
  let written := upsertBatched source env.clock env.fails stream store.cves
  let call := circuit.call env.call written.2
  match call.result with
  | .error (.circuitOpen name retryIn) =>
    ⟨.ok ⟨source, 0, 1, 0⟩, call.circuit, refused (.circuitOpen name retryIn), none⟩
  | .error (.raised e) =>
    ⟨.error e, call.circuit,
      ({ store with cves := written.1 } : IngestStore).recordError source env e, some stream⟩
  | .ok counts =>
    finishRun source env call.circuit { store with cves := written.1 } counts stream

/-- A delta run: it reads the checkpoint, and does nothing when the circuit refuses. -/
def runSince : IngestRun :=
  match env.readFails with
  | some e => ⟨.error e, circuit, store, none⟩
  | none =>
    runProtected source env circuit store (env.stream (getLastModDate store.syncState source))
      fun _ => store

end Run

/-- **`run_bulk_ingest`**; the stream of the environment is `iter_bulk`, which does not
depend on the checkpoint. -/
def runBulkIngest (env : IngestEnv) (circuit : CircuitBreaker) (store : IngestStore) : IngestRun :=
  runProtected "vulncheck_nvd" env circuit store (env.stream none)
    fun e => store.recordError "vulncheck_nvd" env e.text

/-- **`run_delta_ingest`**. -/
def runDeltaIngest (env : IngestEnv) (circuit : CircuitBreaker) (store : IngestStore) : IngestRun :=
  runSince "vulncheck_nvd" env circuit store

/-- **`run_nvd_delta_ingest`**. -/
def runNvdDeltaIngest (env : IngestEnv) (circuit : CircuitBreaker) (store : IngestStore) :
    IngestRun :=
  runSince "nvd_api" env circuit store

/-- The entry points. -/
inductive EntryPoint
  | bulk
  | delta
  | nvdDelta
  deriving DecidableEq, Repr

/-- The source under which an entry point reads and writes. -/
def EntryPoint.source : EntryPoint → String
  | .bulk | .delta => "vulncheck_nvd"
  | .nvdDelta => "nvd_api"

/-- A run of an entry point. -/
def EntryPoint.run : EntryPoint → IngestEnv → CircuitBreaker → IngestStore → IngestRun
  | .bulk => runBulkIngest
  | .delta => runDeltaIngest
  | .nvdDelta => runNvdDeltaIngest

/-! ### `run_smart_delta` -/

/-- What a smart delta leaves behind; `vulncheck` is the run of the VulnCheck delta, if
there was one. -/
structure SmartRun where
  outcome : Except String IngestResult
  circuits : CircuitBreakers
  store : IngestStore
  vulncheck : Option IngestRun
  nvd : Option IngestRun

/-- The second half of `run_smart_delta`. -/
def usingNvd (nvd : IngestEnv) (circuits : CircuitBreakers) (store : IngestStore)
    (vulncheck : Option IngestRun) : SmartRun :=
  let run := runNvdDeltaIngest nvd circuits.nvd store
  ⟨run.outcome, { circuits with nvd := run.circuit }, run.store, vulncheck, some run⟩

/-- **`run_smart_delta`**, with a VulnCheck client if its environment is given. -/
def runSmartDelta (vulncheck : Option IngestEnv) (nvd : IngestEnv) (circuits : CircuitBreakers)
    (store : IngestStore) : SmartRun :=
  match vulncheck with
  | none => usingNvd nvd circuits store none
  | some env =>
    if circuits.vulncheck.state ≠ .opened then
      let run := runDeltaIngest env circuits.vulncheck store
      let circuits := { circuits with vulncheck := run.circuit }
      match run.outcome with
      | .ok result => ⟨.ok result, circuits, run.store, some run, none⟩
      | .error _ => usingNvd nvd circuits run.store (some run)
    else usingNvd nvd circuits store none

end CveManagement
