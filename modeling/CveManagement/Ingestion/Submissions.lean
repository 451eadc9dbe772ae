import CveManagement.Ingestion.Worker
import CveManagement.Library.Batching

/-!
# What `_upsert_batched` submits

The calls of `executemany` that `_upsert_batched` of `app/ingestion/ingest_worker.py` makes, with
the batch that each gets and whether it raises. The batch is one list, which `_flush` clears whether
the call has raised or not; so a failure loses its own batch and touches no other, and the batches
are the slices of the stream (`CveManagement.rows_upsertCalls`). The mirror and the counts are those
of the calls (`CveManagement.booked_upsertLog`).
-/

namespace CveManagement

/-- A call of `executemany`: the batch, and whether it raises. -/
structure Executemany where
  rows : List NvdCveRecord
  raised : Bool

/-- The records of some calls. -/
def recordCount (calls : List Executemany) : ℕ := (calls.map fun c => c.rows.length).sum

/-- **`_upsert_batched` with a log** of its calls of `executemany`. -/
structure UpsertLog where
  state : BatchState
  calls : List Executemany

section Log

variable (source : String) (now : Instant) (fails : ℕ → Bool)

/-- `_flush`, which calls `executemany` unless the batch is empty. -/
def UpsertLog.flush (s : UpsertLog) : UpsertLog :=
  if s.state.batch = [] then s
  else ⟨CveManagement.flush source now fails s.state,
    s.calls ++ [⟨s.state.batch, fails s.state.flushed⟩]⟩

/-- One round of the loop. -/
def UpsertLog.feed (s : UpsertLog) (r : NvdCveRecord) : UpsertLog :=
  let s := { s with state := { s.state with batch := s.state.batch ++ [r] } }
  if upsertBatch ≤ s.state.batch.length then s.flush source now fails else s

/-- The loop of a stream. -/
def UpsertLog.loop (cves : Cves) (records : List NvdCveRecord) : UpsertLog :=
  records.foldl (UpsertLog.feed source now fails) ⟨⟨cves, [], 0, 0, 0⟩, []⟩

/-- `_upsert_batched`, where it ends. -/
def upsertLog (stream : RecordStream) (cves : Cves) : UpsertLog :=
  match stream.failure with
  | some _ => .loop source now fails cves stream.records
  | none => (UpsertLog.loop source now fails cves stream.records).flush source now fails

/-- **The calls of `executemany`** that `_upsert_batched` makes. -/
def upsertCalls (stream : RecordStream) (cves : Cves) : List Executemany :=
  (upsertLog source now fails stream cves).calls

end Log

/-! ### The log is beside the run -/

section Erasure

variable (source : String) (now : Instant) (fails : ℕ → Bool)

theorem state_flush (s : UpsertLog) :
    (s.flush source now fails).state = flush source now fails s.state := by
  rw [UpsertLog.flush]
  split_ifs with hempty
  · exact (if_pos hempty).symm
  · rfl

theorem state_feed (s : UpsertLog) (r : NvdCveRecord) :
    (s.feed source now fails r).state = feedRecord source now fails s.state r := by
  rw [UpsertLog.feed, feedRecord]
  dsimp only
  split_ifs
  · exact state_flush source now fails _
  · rfl

theorem state_loop (cves : Cves) (records : List NvdCveRecord) :
    (UpsertLog.loop source now fails cves records).state =
      records.foldl (feedRecord source now fails) ⟨cves, [], 0, 0, 0⟩ :=
  (List.foldl_hom UpsertLog.state fun s r => (state_feed source now fails s r).symm).symm

/-- **What `_upsert_batched` returns** is what the log ends with. -/
theorem upsertBatched_eq (stream : RecordStream) (cves : Cves) :
    upsertBatched source now fails stream cves =
      ((upsertLog source now fails stream cves).state.cves,
        stream.failure.elim
          (.ok ((upsertLog source now fails stream cves).state.processed,
            (upsertLog source now fails stream cves).state.errors)) .error) := by
  rw [upsertBatched, upsertLog]
  cases stream.failure with
  | none =>
    dsimp only
    rw [state_flush, state_loop]
    rfl
  | some e =>
    dsimp only
    rw [state_loop]
    rfl

end Erasure

/-! ### The batches -/

section Batches

variable (source : String) (now : Instant) (fails : ℕ → Bool)

/-- The batches that have been submitted, and the open one. -/
def UpsertLog.batching (s : UpsertLog) : Batching.State NvdCveRecord :=
  ⟨s.calls.map Executemany.rows, s.state.batch⟩

theorem batching_flush (s : UpsertLog) :
    (s.flush source now fails).batching = Batching.flush s.batching := by
  by_cases hempty : s.batching.batch = []
  · rw [Batching.flush, if_pos hempty]
    exact congrArg UpsertLog.batching (if_pos hempty)
  · have hcleared : (flush source now fails s.state).batch = [] := by
      rw [flush]
      split_ifs with h
      · exact absurd h hempty
      · rfl
      · rfl
    have hflush : s.flush source now fails = ⟨flush source now fails s.state,
        s.calls ++ [⟨s.state.batch, fails s.state.flushed⟩]⟩ := if_neg hempty
    rw [Batching.flush_of_ne_nil hempty, hflush, UpsertLog.batching, hcleared, List.map_append]
    rfl

theorem batching_feed (s : UpsertLog) (r : NvdCveRecord) :
    (s.feed source now fails r).batching = Batching.feed upsertBatch s.batching r := by
  rw [UpsertLog.feed, Batching.feed]
  dsimp only
  rw [apply_ite UpsertLog.batching, batching_flush]
  rfl

/-- The loop fills batches. -/
theorem batching_loop (cves : Cves) (records : List NvdCveRecord) :
    (UpsertLog.loop source now fails cves records).batching =
      records.foldl (Batching.feed upsertBatch) .start :=
  (List.foldl_hom UpsertLog.batching fun s r => (batching_feed source now fails s r).symm).symm

/-- **A stream that ends is submitted in slices.** -/
theorem rows_upsertCalls {stream : RecordStream} (hend : stream.failure = none) (cves : Cves) :
    (upsertCalls source now fails stream cves).map Executemany.rows =
      stream.records.slices upsertBatch := by
  have hdone : (upsertCalls source now fails stream cves).map Executemany.rows =
      ((UpsertLog.loop source now fails cves stream.records).flush source now
        fails).batching.done := by
    rw [upsertCalls, upsertLog, hend]
    rfl
  rw [hdone, batching_flush, batching_loop]
  exact Batching.batches_eq_slices (by decide) stream.records

/-- Each record of it is submitted once, and in order. -/
theorem flatMap_upsertCalls {stream : RecordStream} (hend : stream.failure = none) (cves : Cves) :
    (upsertCalls source now fails stream cves).flatMap Executemany.rows = stream.records := by
  rw [List.flatMap_def, rows_upsertCalls source now fails hend]
  exact List.flatten_slices (by decide) stream.records

/-- **A stream that raises** is submitted up to the open batch. -/
theorem rows_upsertCalls_of_failure {stream : RecordStream} {e : String}
    (hend : stream.failure = some e) (cves : Cves) :
    ∃ lost, lost.length < upsertBatch ∧
      (upsertCalls source now fails stream cves).flatMap Executemany.rows ++ lost =
        stream.records := by
  have hfilled := Batching.filled_foldl (by decide : 0 < upsertBatch) stream.records
  rw [← batching_loop source now fails cves] at hfilled
  refine ⟨_, hfilled.room, ?_⟩
  rw [upsertCalls, upsertLog, hend]
  exact hfilled.flatten_eq

end Batches

/-! ### The books -/

variable {source : String} {now : Instant} {fails : ℕ → Bool} {cves : Cves} {s : UpsertLog}

/-- The calls that have not raised, or those that have. -/
def callsWith (raised : Bool) (calls : List Executemany) : List Executemany :=
  calls.filter fun c => c.raised == raised

/-- **The books are those of the calls**: the mirror has the batches that were taken, the counts are
those of the batches that were taken and of those that were not, and the calls raise as they are
to. -/
structure Booked (source : String) (now : Instant) (fails : ℕ → Bool) (cves : Cves)
    (s : UpsertLog) : Prop where
  cves_eq : s.state.cves = (callsWith false s.calls).foldl
    (fun cves c => upsertMany source now c.rows cves) cves
  processed_eq : s.state.processed = recordCount (callsWith false s.calls)
  errors_eq : s.state.errors = recordCount (callsWith true s.calls)
  flushed_eq : s.state.flushed = s.calls.length
  raised_eq : s.calls.map Executemany.raised = (List.range s.calls.length).map fails

@[simp] theorem recordCount_concat (calls : List Executemany) (c : Executemany) :
    recordCount (calls ++ [c]) = recordCount calls + c.rows.length := by
  simp [recordCount]

@[simp] theorem callsWith_concat (raised : Bool) (calls : List Executemany) (c : Executemany) :
    callsWith raised (calls ++ [c]) =
      callsWith raised calls ++ if c.raised = raised then [c] else [] := by
  simp [callsWith, List.filter_cons]

/-- The records of all calls are those of the calls that have not raised and of those that have. -/
theorem recordCount_callsWith (calls : List Executemany) :
    recordCount (callsWith false calls) + recordCount (callsWith true calls) =
      recordCount calls := by
  induction calls using List.reverseRecOn with
  | nil => rfl
  | append_singleton calls c ih =>
    rw [recordCount_concat, callsWith_concat, callsWith_concat, ← ih]
    cases c.raised with
    | false =>
      rw [if_pos rfl, if_neg Bool.false_ne_true, List.append_nil, recordCount_concat]
      omega
    | true =>
      rw [if_pos rfl, if_neg Bool.false_ne_true.symm, List.append_nil, recordCount_concat]
      omega

/-- **A flush keeps the books.** -/
theorem Booked.flush (h : Booked source now fails cves s) :
    Booked source now fails cves (s.flush source now fails) := by
  rw [UpsertLog.flush]
  split_ifs with hempty
  · exact h
  have hraised : (s.calls ++ [(⟨s.state.batch, fails s.state.flushed⟩ : Executemany)]).map
      Executemany.raised =
        (List.range (s.calls.length + 1)).map fails := by
    rw [List.map_append, h.raised_eq, List.range_succ, List.map_append, h.flushed_eq]
    rfl
  rw [CveManagement.flush, if_neg hempty]
  cases hfails : fails s.state.flushed with
  | true =>
    rw [hfails] at hraised
    rw [if_pos rfl]
    refine ⟨?_, ?_, ?_, ?_, ?_⟩
    · simpa using h.cves_eq
    · simpa using h.processed_eq
    · simpa using h.errors_eq
    · simpa using h.flushed_eq
    · simpa using hraised
  | false =>
    rw [hfails] at hraised
    rw [if_neg Bool.false_ne_true]
    refine ⟨?_, ?_, ?_, ?_, ?_⟩
    · simpa using congrArg (upsertMany source now s.state.batch) h.cves_eq
    · simpa using h.processed_eq
    · simpa using h.errors_eq
    · simpa using h.flushed_eq
    · simpa using hraised

/-- **A record keeps the books.** -/
theorem Booked.feed (h : Booked source now fails cves s) (r : NvdCveRecord) :
    Booked source now fails cves (s.feed source now fails r) := by
  -- the books are not about what is in the batch
  have hfed : Booked source now fails cves
      { s with state := { s.state with batch := s.state.batch ++ [r] } } :=
    ⟨h.cves_eq, h.processed_eq, h.errors_eq, h.flushed_eq, h.raised_eq⟩
  rw [UpsertLog.feed]
  dsimp only
  split_ifs
  · exact hfed.flush
  · exact hfed

theorem booked_loop (source : String) (now : Instant) (fails : ℕ → Bool) (cves : Cves)
    (records : List NvdCveRecord) :
    Booked source now fails cves (UpsertLog.loop source now fails cves records) := by
  induction records using List.reverseRecOn with
  | nil => exact ⟨rfl, rfl, rfl, rfl, rfl⟩
  | append_singleton records r ih =>
    rw [UpsertLog.loop, List.foldl_append]
    exact ih.feed r

/-- **At its end the books are those of the calls**, however the stream ends. -/
theorem booked_upsertLog (source : String) (now : Instant) (fails : ℕ → Bool)
    (stream : RecordStream) (cves : Cves) :
    Booked source now fails cves (upsertLog source now fails stream cves) := by
  have hloop := booked_loop source now fails cves stream.records
  rw [upsertLog]
  cases stream.failure with
  | none => exact hloop.flush
  | some e => exact hloop

/-! ### No call raises -/

/-- Batches, one after the other, are one batch. -/
theorem foldl_upsertMany (calls : List Executemany) (cves : Cves) :
    calls.foldl (fun cves c => upsertMany source now c.rows cves) cves =
      upsertMany source now (calls.flatMap Executemany.rows) cves := by
  induction calls generalizing cves with
  | nil => rfl
  | cons c calls ih =>
    rw [List.foldl_cons, ih, List.flatMap_cons]
    simp [upsertMany]

/-- **A stream that ends is written as it is**, if no call raises. -/
theorem upsertBatched_of_ok (source : String) (now : Instant) {stream : RecordStream}
    (hend : stream.failure = none) (cves : Cves) :
    upsertBatched source now (fun _ => false) stream cves =
      (upsertMany source now stream.records cves, .ok (stream.records.length, 0)) := by
  have hbooked := booked_upsertLog source now (fun _ => false) stream cves
  have hflat := flatMap_upsertCalls source now (fun _ => false) hend cves
  have hnone : ∀ c ∈ (upsertLog source now (fun _ => false) stream cves).calls,
      c.raised = false := by
    intro c hc
    have hmem := List.mem_map_of_mem (f := Executemany.raised) hc
    rw [hbooked.raised_eq] at hmem
    obtain ⟨-, -, hraised⟩ := List.mem_map.mp hmem
    exact hraised.symm
  have hall : callsWith false (upsertLog source now (fun _ => false) stream cves).calls =
      (upsertLog source now (fun _ => false) stream cves).calls :=
    List.filter_eq_self.mpr fun c hc => beq_iff_eq.mpr (hnone c hc)
  have hempty : callsWith true (upsertLog source now (fun _ => false) stream cves).calls = [] :=
    List.filter_eq_nil_iff.mpr fun c hc => by simp [hnone c hc]
  have hcount : recordCount (upsertLog source now (fun _ => false) stream cves).calls =
      stream.records.length := by
    rw [← hflat, List.length_flatMap]
    rfl
  rw [upsertBatched_eq, hend, hbooked.cves_eq, hbooked.processed_eq, hbooked.errors_eq, hall,
    hempty, foldl_upsertMany, hcount]
  exact congrArg (fun rows => (upsertMany source now rows cves, _)) hflat

/-! ### The accounts -/

/-- **Batch accounting**: a stream that ends is submitted record by record, each once and in order,
in batches that are neither empty nor too long; and whatever calls raise, the two counts add up to
the stream, the errors being the records of the calls that have raised. -/
theorem upsertBatched_accounts (source : String) (now : Instant) (fails : ℕ → Bool)
    {stream : RecordStream} (hend : stream.failure = none) (cves : Cves) :
    let calls := upsertCalls source now fails stream cves
    calls.flatMap Executemany.rows = stream.records ∧
      (∀ c ∈ calls, c.rows ≠ [] ∧ c.rows.length ≤ upsertBatch) ∧
      calls.map Executemany.raised = (List.range calls.length).map fails ∧
      ∃ processed errors,
        (upsertBatched source now fails stream cves).2 = .ok (processed, errors) ∧
        processed + errors = stream.records.length ∧
        errors = recordCount (calls.filter Executemany.raised) := by
  have hbooked := booked_upsertLog source now fails stream cves
  have hrows := rows_upsertCalls source now fails hend cves
  have hflat := flatMap_upsertCalls source now fails hend cves
  have hresult : (upsertBatched source now fails stream cves).2 =
      .ok ((upsertLog source now fails stream cves).state.processed,
        (upsertLog source now fails stream cves).state.errors) := by
    rw [upsertBatched_eq, hend]
    rfl
  refine ⟨hflat, fun c hc => ?_, hbooked.raised_eq, _, _, hresult, ?_, ?_⟩
  · have hslice : c.rows ∈ stream.records.slices upsertBatch := by
      rw [← hrows]
      exact List.mem_map_of_mem hc
    exact ⟨List.ne_nil_of_mem_slices (by decide) hslice, List.length_le_of_mem_slices hslice⟩
  · rw [hbooked.processed_eq, hbooked.errors_eq, recordCount_callsWith, ← hflat,
      List.length_flatMap]
    rfl
  · rw [hbooked.errors_eq, callsWith]
    simp only [beq_true]
    rfl

/-- A record that says no more than its id. -/
def bareRecord : NvdCveRecord := ⟨"CVE-2025-1000", 0, 0, none, none, none, none, .null⟩

/-- One record more than a batch has. -/
def overfull : RecordStream := ⟨[], List.replicate 501 bareRecord, none⟩

/-- The first batch raises. -/
theorem upsertBatched_accounts_overfull :
    let calls := upsertCalls "nvd_api" 0 (fun k => k == 0) overfull fun _ => none
    calls.flatMap Executemany.rows = List.replicate 501 bareRecord ∧
      (∀ c ∈ calls, c.rows ≠ [] ∧ c.rows.length ≤ upsertBatch) ∧
      calls.map Executemany.raised = (List.range calls.length).map (fun k => k == 0) ∧
      ∃ processed errors,
        (upsertBatched "nvd_api" 0 (fun k => k == 0) overfull fun _ => none).2 =
          .ok (processed, errors) ∧
        processed + errors = (List.replicate 501 bareRecord).length ∧
        errors = recordCount (calls.filter Executemany.raised) :=
  upsertBatched_accounts "nvd_api" 0 (fun k => k == 0) rfl fun _ => none

end CveManagement
