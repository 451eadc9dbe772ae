import CveManagement.Ingestion.Worker

/-!
# What a run of the worker does

Two things are asked of a run. What becomes of the last modification dates
(`CveManagement.movesLastMod_run`): they are left alone, except that a successful run writes
its clock into the row of its source – *if there is such a row*. And what becomes of the
records that the client yields (`CveManagement.represented_upsertBatched`): those of the
batches that the database takes are represented, and nothing else is added.
-/

namespace CveManagement

/-! ### The last modification dates -/

/-- `sync_state` has a row for the source. -/
def HasRow (t : SyncState) (source : String) : Prop := ∃ row ∈ t.rows, row.source = source

theorem find_isSome_iff {t : SyncState} {source : String} :
    (t.find fun row => row.source == source).isSome = true ↔ HasRow t source := by
  simp [Table.find, HasRow]

/-- A source without a row has no date. -/
theorem getLastModDate_of_not_hasRow {t : SyncState} {source : String} (h : ¬HasRow t source) :
    getLastModDate t source = none := by
  rw [← find_isSome_iff] at h
  rw [getLastModDate, Option.not_isSome_iff_eq_none.mp h]
  rfl

section SyncState

variable {t : SyncState} {source src error : String} {now lastMod : Instant} {count : ℕ}

/-- No `UPDATE` of the worker adds or removes a source. -/
theorem hasRow_update {p : SyncRow → Bool} {c : Table.Assignment SyncRow.id}
    (hc : ∀ row, (c.set row).source = row.source) :
    HasRow (t.update p c) source ↔ HasRow t source := by
  have hset : ∀ row : SyncRow, (if p row then c.set row else row).source = row.source := by
    intro row
    by_cases hp : p row
    · rw [if_pos hp, hc]
    · rw [if_neg hp]
  constructor
  · rintro ⟨row', hrow', rfl⟩
    obtain ⟨row, hrow, rfl⟩ := Table.mem_update.mp hrow'
    exact ⟨row, hrow, (hset row).symm⟩
  · rintro ⟨row, hrow, rfl⟩
    exact ⟨_, Table.mem_update.mpr ⟨row, hrow, rfl⟩, hset row⟩

theorem getLastModDate_recordError :
    getLastModDate (recordError now source error t) src = getLastModDate t src := by
  rw [getLastModDate, recordError, Table.find_update]
  · rw [getLastModDate]
    cases t.find fun row => row.source == src with
    | none => rfl
    | some row =>
      simp only [Option.map_some, Option.bind_some]
      split <;> rfl
  · exact fun row => rfl

/-- **A checkpoint is read back** if there is a row for its source, and lost otherwise. -/
theorem getLastModDate_checkpoint :
    getLastModDate (checkpoint now source lastMod count t) src =
      open Classical in if src = source ∧ HasRow t source then some lastMod
      else getLastModDate t src := by
  rw [getLastModDate, checkpoint, Table.find_update]
  · rw [getLastModDate]
    cases hfind : t.find fun row => row.source == src with
    | none =>
      rw [if_neg]
      · rfl
      · rintro ⟨rfl, hrow⟩
        rw [← find_isSome_iff, hfind] at hrow
        cases hrow
    | some row =>
      have hsrc : row.source = src := by simpa using Table.of_find hfind
      by_cases heq : src = source
      · subst heq
        rw [if_pos ⟨rfl, find_isSome_iff.mp (by rw [hfind]; rfl)⟩]
        simp [hsrc, SyncRow.checkpoint]
      · rw [if_neg fun h => heq h.1]
        simp [hsrc, heq]
  · exact fun row => rfl

end SyncState

/-! ### Runs -/

/-- **The run was successful**: the protected call was invoked, and the run returned. -/
def IngestRun.Successful (run : IngestRun) : Prop :=
  run.consumed.isSome = true ∧ ∃ result, run.outcome = .ok result

instance (run : IngestRun) : Decidable run.Successful :=
  decidable_of_iff (run.consumed.isSome = true ∧ run.outcome.toBool = true) (by
    rw [IngestRun.Successful]
    cases run.outcome <;> simp [Except.toBool])

section Run

variable {source : String} {env : IngestEnv} {circuit : CircuitBreaker} {store : IngestStore}
  {stream : RecordStream} {refused : CallError → IngestStore}

/-- What is consumed ends as the stream does. -/
theorem upsertBatched_snd_isOk {now : Instant} {fails : ℕ → Bool} {cves : Cves} :
    (∃ counts, (upsertBatched source now fails stream cves).2 = .ok counts) ↔
      stream.failure = none := by
  rw [upsertBatched]
  cases stream.failure <;> simp

/-- A refused run. -/
theorem runProtected_of_refuses (h : circuit.Refuses env.call.admittedAt) :
    runProtected source env circuit store stream refused =
      ⟨.ok ⟨source, 0, 1, 0⟩, circuit,
        refused (.circuitOpen circuit.name (circuit.openUntil - env.call.refusedAt)), none⟩ := by
  rw [runProtected, CircuitBreaker.call_of_refuses h]

variable (source store refused) in
/-- A run whose stream ends in an exception. -/
theorem runProtected_of_failure (h : ¬circuit.Refuses env.call.admittedAt) {e : String}
    (hfail : stream.failure = some e) :
    ∃ c, runProtected source env circuit store stream refused =
      ⟨.error e, c, ({ store with cves := (upsertBatched source env.clock env.fails stream
        store.cves).1 } : IngestStore).recordError source env e, some stream⟩ := by
  have hcall : (circuit.call env.call
      (upsertBatched source env.clock env.fails stream store.cves).2).result =
        (upsertBatched source env.clock env.fails stream store.cves).2.mapError .raised :=
    (CircuitBreaker.call_of_not_refuses h).2
  have hresult : (upsertBatched source env.clock env.fails stream store.cves).2 = .error e := by
    rw [upsertBatched, hfail]
  rw [runProtected, hcall, hresult]
  exact ⟨_, rfl⟩

variable (source store refused) in
/-- A run whose stream ends. -/
theorem runProtected_of_end (h : ¬circuit.Refuses env.call.admittedAt)
    (hend : stream.failure = none) :
    ∃ c counts, c = (circuit.call env.call (.ok counts)).circuit ∧
      runProtected source env circuit store stream refused =
        finishRun source env c { store with cves := (upsertBatched source env.clock env.fails stream
          store.cves).1 } counts stream := by
  have hcall : (circuit.call env.call
      (upsertBatched source env.clock env.fails stream store.cves).2).result =
        (upsertBatched source env.clock env.fails stream store.cves).2.mapError .raised :=
    (CircuitBreaker.call_of_not_refuses h).2
  obtain ⟨counts, hcounts⟩ := upsertBatched_snd_isOk.mpr hend
  rw [runProtected, hcall, hcounts]
  exact ⟨_, counts, rfl, rfl⟩

theorem getLastModDate_storeRecordError {e src : String} :
    getLastModDate (store.recordError source env e).syncState src =
      getLastModDate store.syncState src := by
  rw [IngestStore.recordError]
  split
  · rfl
  · exact getLastModDate_recordError

theorem hasRow_storeRecordError {e src : String} :
    HasRow (store.recordError source env e).syncState src ↔ HasRow store.syncState src := by
  rw [IngestStore.recordError]
  split
  · rfl
  · exact hasRow_update fun _ => rfl

/-- What a run does to the last modification dates. -/
structure MovesLastMod (source : String) (env : IngestEnv) (store : IngestStore)
    (run : IngestRun) : Prop where
  /-- A successful run writes its clock, into the row of its source. -/
  success : run.Successful → ∀ src, HasRow store.syncState src →
    getLastModDate run.store.syncState src =
      if src = source then some env.clock else getLastModDate store.syncState src
  /-- Any other run writes nothing. -/
  frame : ¬run.Successful → ∀ src,
    getLastModDate run.store.syncState src = getLastModDate store.syncState src
  /-- The sources stay. -/
  rows : ∀ src, HasRow run.store.syncState src ↔ HasRow store.syncState src

variable (source env store stream) in
theorem movesLastMod_finishRun (c : CircuitBreaker) (counts : ℕ × ℕ) :
    MovesLastMod source env store (finishRun source env c store counts stream) := by
  rw [finishRun]
  cases env.checkpointFails with
  | some e =>
    exact ⟨fun h => absurd h.2 (by simp), fun _ _ => rfl, fun _ => Iff.rfl⟩
  | none =>
    refine ⟨fun _ src hrow => ?_, fun h => absurd ⟨rfl, _, rfl⟩ h,
      fun src => hasRow_update fun _ => rfl⟩
    rw [getLastModDate_checkpoint]
    by_cases hsrc : src = source
    · subst hsrc
      rw [if_pos ⟨rfl, hrow⟩, if_pos rfl]
    · rw [if_neg fun h => hsrc h.1, if_neg hsrc]

theorem movesLastMod_runProtected
    (hrefused : ∀ e src, getLastModDate (refused e).syncState src =
      getLastModDate store.syncState src)
    (hrows : ∀ e src, HasRow (refused e).syncState src ↔ HasRow store.syncState src) :
    MovesLastMod source env store (runProtected source env circuit store stream refused) := by
  by_cases h : circuit.Refuses env.call.admittedAt
  · rw [runProtected_of_refuses h]
    exact ⟨fun hs => absurd hs.1 (by simp), fun _ src => hrefused _ src, fun src => hrows _ src⟩
  · cases hfail : stream.failure with
    | some e =>
      obtain ⟨c, hrun⟩ := runProtected_of_failure source store refused h hfail
      rw [hrun]
      exact ⟨fun hs => absurd hs.2 (by simp), fun _ src => getLastModDate_storeRecordError,
        fun src => hasRow_storeRecordError⟩
    | none =>
      obtain ⟨c, counts, -, hrun⟩ := runProtected_of_end source store refused h hfail
      rw [hrun]
      -- the mirror has no part in this
      obtain ⟨hsuccess, hframe, hkeep⟩ := movesLastMod_finishRun source env { store with cves :=
        (upsertBatched source env.clock env.fails stream store.cves).1 } stream c counts
      exact ⟨hsuccess, hframe, hkeep⟩

theorem movesLastMod_runSince :
    MovesLastMod source env store (runSince source env circuit store) := by
  rw [runSince]
  cases env.readFails with
  | some e => exact ⟨fun h => absurd h.1 (by simp), fun _ _ => rfl, fun _ => Iff.rfl⟩
  | none => exact movesLastMod_runProtected (fun _ _ => rfl) fun _ _ => Iff.rfl

/-- **What a run of an entry point does to the last modification dates.** -/
theorem movesLastMod_run (ep : EntryPoint) :
    MovesLastMod ep.source env store (ep.run env circuit store) := by
  cases ep with
  | bulk =>
    exact movesLastMod_runProtected (fun _ _ => getLastModDate_storeRecordError)
      fun _ _ => hasRow_storeRecordError
  | delta => exact movesLastMod_runSince
  | nvdDelta => exact movesLastMod_runSince

end Run

/-! ### The records -/

/-- The batch that a position of the stream is written in. -/
def batchOf (p : ℕ) : ℕ := p / upsertBatch

/-- **A batch that the database takes supersedes the record.** -/
def WrittenIn (fails : ℕ → Bool) (records : List NvdCveRecord) (r : NvdCveRecord) : Prop :=
  ∃ q r', records[q]? = some r' ∧ fails (batchOf q) = false ∧ r.SupersededBy r'

/-- **The invariant of the loop** after the records `l`: what has been flushed are whole
batches from the front, and the mirror represents what it did and what was written. -/
structure LoopInvariant (fails : ℕ → Bool) (cves : Cves) (l : List NvdCveRecord)
    (s : BatchState) : Prop where
  split : ∃ done, l = done ++ s.batch ∧ done.length = upsertBatch * s.flushed ∧
    ∀ r, Represented s.cves r ↔ Represented cves r ∨ WrittenIn fails done r
  small : s.batch.length ≤ upsertBatch

section Loop

variable {source : String} {now : Instant} {fails : ℕ → Bool} {cves : Cves}
  {l done batch : List NvdCveRecord} {s : BatchState} {r : NvdCveRecord}

/-- Every position of the batch behind `n` whole ones is in batch `n`. -/
theorem batchOf_add {n i : ℕ} (h : i < upsertBatch) : batchOf (upsertBatch * n + i) = n := by
  rw [batchOf, Nat.mul_add_div (by decide), Nat.div_eq_of_lt h, Nat.add_zero]

/-- What one more batch writes. -/
theorem writtenIn_append {n : ℕ} (hdone : done.length = upsertBatch * n)
    (hbatch : batch.length ≤ upsertBatch) :
    WrittenIn fails (done ++ batch) r ↔
      WrittenIn fails done r ∨ fails n = false ∧ ∃ r' ∈ batch, r.SupersededBy r' := by
  have hindex : ∀ {q}, done.length ≤ q → q < done.length + batch.length → batchOf q = n := by
    intro q hlo hhi
    obtain ⟨i, rfl⟩ := Nat.exists_eq_add_of_le hlo
    rw [hdone]
    exact batchOf_add (by omega)
  constructor
  · rintro ⟨q, r', hq, hf, hsup⟩
    by_cases hlo : q < done.length
    · rw [List.getElem?_append_left hlo] at hq
      exact .inl ⟨q, r', hq, hf, hsup⟩
    · -- the position is one of the new batch, which is batch `n`
      have hmem := hq
      rw [List.getElem?_append_right (by omega)] at hmem
      have hlt := (List.getElem?_eq_some_iff.mp hq).1
      rw [List.length_append] at hlt
      rw [hindex (by omega) hlt] at hf
      exact .inr ⟨hf, r', List.mem_of_getElem? hmem, hsup⟩
  · rintro (⟨q, r', hq, hf, hsup⟩ | ⟨hf, r', hmem, hsup⟩)
    · have hlt := (List.getElem?_eq_some_iff.mp hq).1
      exact ⟨q, r', by rw [List.getElem?_append_left hlt]; exact hq, hf, hsup⟩
    · obtain ⟨i, hi⟩ := List.mem_iff_getElem?.mp hmem
      have hlt := (List.getElem?_eq_some_iff.mp hi).1
      refine ⟨done.length + i, r', ?_, ?_, hsup⟩
      · rw [List.getElem?_append_right (by omega), Nat.add_sub_cancel_left]
        exact hi
      · rw [hindex (by omega) (by omega)]
        exact hf

variable (source now) in
/-- **A flush keeps the invariant**, and empties the batch. -/
theorem LoopInvariant.flush (h : LoopInvariant fails cves l s) :
    (flush source now fails s).batch = [] ∧
      ∀ r, Represented (flush source now fails s).cves r ↔
        Represented cves r ∨ WrittenIn fails l r := by
  obtain ⟨done, rfl, hlen, hrep⟩ := h.split
  rw [CveManagement.flush]
  by_cases hempty : s.batch = []
  · rw [if_pos hempty, hempty, List.append_nil]
    exact ⟨rfl, hrep⟩
  · rw [if_neg hempty]
    -- a batch that is refused is dropped as well, and nothing of it is written
    by_cases hf : fails s.flushed
    · rw [if_pos hf]
      refine ⟨rfl, fun r => ?_⟩
      rw [hrep r, writtenIn_append hlen h.small, hf]
      simp
    · rw [if_neg hf]
      refine ⟨rfl, fun r => ?_⟩
      rw [represented_upsertMany, hrep r, writtenIn_append hlen h.small, or_assoc]
      simp [hf]

/-- **One record keeps the invariant.** -/
theorem LoopInvariant.feed (h : LoopInvariant fails cves l s)
    (hsmall : s.batch.length < upsertBatch) (r : NvdCveRecord) :
    LoopInvariant fails cves (l ++ [r]) (feedRecord source now fails s r) ∧
      (feedRecord source now fails s r).batch.length < upsertBatch := by
  have hfed : LoopInvariant fails cves (l ++ [r]) { s with batch := s.batch ++ [r] } := by
    obtain ⟨done, rfl, hlen, hrep⟩ := h.split
    refine ⟨⟨done, List.append_assoc _ _ _, hlen, hrep⟩, ?_⟩
    rw [List.length_append, List.length_singleton]
    exact hsmall
  rw [feedRecord]
  dsimp only
  by_cases hfull : upsertBatch ≤ (s.batch ++ [r]).length
  · rw [if_pos hfull]
    obtain ⟨hempty, hrep⟩ := hfed.flush source now
    rw [hempty]
    refine ⟨⟨⟨l ++ [r], by rw [hempty, List.append_nil], ?_, hrep⟩, ?_⟩,
      show 0 < upsertBatch by decide⟩
    obtain ⟨done, hl, hlen, -⟩ := hfed.split
    have hsize : (s.batch ++ [r]).length = upsertBatch := by
      rw [List.length_append, List.length_singleton] at hfull ⊢
      omega
    have hflushed : (CveManagement.flush source now fails
        { s with batch := s.batch ++ [r] }).flushed = s.flushed + 1 := by
      rw [CveManagement.flush, if_neg (by simp)]
      split <;> rfl
    · rw [hflushed, hl, List.length_append, hlen]
      dsimp only
      rw [hsize, Nat.mul_succ]
    · rw [hempty]
      exact Nat.zero_le _
  · rw [if_neg hfull]
    exact ⟨hfed, Nat.lt_of_not_le hfull⟩

theorem loopInvariant_foldl (l : List NvdCveRecord) :
    LoopInvariant fails cves l (l.foldl (feedRecord source now fails) ⟨cves, [], 0, 0, 0⟩) ∧
      (l.foldl (feedRecord source now fails) ⟨cves, [], 0, 0, 0⟩).batch.length < upsertBatch := by
  induction l using List.reverseRecOn with
  | nil =>
    refine ⟨⟨⟨[], rfl, rfl, fun r => ?_⟩, Nat.zero_le _⟩, show 0 < upsertBatch by decide⟩
    simp [WrittenIn]
  | append_singleton l r ih =>
    rw [List.foldl_append]
    exact ih.1.feed ih.2 r

/-- **What a stream that ends leaves in the mirror**: what was there, and the records of
the batches that the database takes. -/
theorem represented_upsertBatched {stream : RecordStream} (hend : stream.failure = none) :
    Represented (upsertBatched source now fails stream cves).1 r ↔
      Represented cves r ∨ WrittenIn fails stream.records r := by
  rw [upsertBatched, hend]
  exact ((loopInvariant_foldl stream.records).1.flush source now).2 r

end Loop

end CveManagement
