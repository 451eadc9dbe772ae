import CveManagement.Governance.Requests
import CveManagement.Priority.CallSites
import CveManagement.Sync.Payloads
import Mathlib

/-!
# The database the sync works on

Around the governance tables the sync reads the mirror of CVEs and writes two more columns
of `products`, and the queue `sync_jobs` says which products are to be synced.

The columns of `cves` here are those that the sync and the recomputes read; `sync_status` and
`last_synced_at` of `products` are kept beside the table, by the id of the product.
-/

namespace CveManagement

/-! ### Rows -/

/-- A row of `cves`. -/
structure MirrorRow extends CveSignals where
  cveId : String
  rawPayload : Json

/-- The table `cves`, with its `UNIQUE (cve_id)`. -/
structure Mirror where
  rows : List MirrorRow
  uniqueCve : (rows.map MirrorRow.cveId).Nodup

namespace Mirror

/-- The row of a CVE. -/
def get? (m : Mirror) (cveId : String) : Option MirrorRow := m.rows.find? fun c => c.cveId == cveId

theorem get?_eq_some {m : Mirror} {cveId : String} {c : MirrorRow} :
    m.get? cveId = some c ↔ c ∈ m.rows ∧ c.cveId = cveId := by
  constructor
  · intro h
    exact ⟨List.mem_of_find?_eq_some h, by simpa using List.find?_some h⟩
  · rintro ⟨hc, rfl⟩
    cases hf : m.get? c.cveId with
    | none => exact absurd (List.find?_eq_none.mp hf c hc) (by simp)
    | some c' =>
      have hc' := List.mem_of_find?_eq_some hf
      have he : c'.cveId = c.cveId := by simpa using List.find?_some hf
      rw [List.inj_on_of_nodup_map m.uniqueCve hc' hc he]

theorem get?_of_mem {m : Mirror} {c : MirrorRow} (hc : c ∈ m.rows) : m.get? c.cveId = some c :=
  get?_eq_some.mpr ⟨hc, rfl⟩

theorem get?_eq_none {m : Mirror} {cveId : String} :
    m.get? cveId = none ↔ ∀ c ∈ m.rows, c.cveId ≠ cveId := by
  simp [get?, List.find?_eq_none]

/-- `INSERT … ON CONFLICT (cve_id) DO NOTHING`. -/
def insertMissing (m : Mirror) (row : MirrorRow) : Mirror :=
  if h : row.cveId ∈ m.rows.map MirrorRow.cveId then m
  else
    { rows := m.rows ++ [row]
      uniqueCve := by
        rw [List.map_append, List.map_singleton]
        refine List.Nodup.append m.uniqueCve (List.nodup_singleton _) ?_
        rwa [List.disjoint_singleton] }

/-- **A row is kept, and a missing one inserted.** -/
theorem get?_insertMissing (m : Mirror) (row : MirrorRow) (cveId : String) :
    (m.insertMissing row).get? cveId =
      (m.get? cveId).or (if row.cveId = cveId then some row else none) := by
  unfold insertMissing
  split_ifs with hmem hid hid
  · -- the row that is there wins
    obtain ⟨c, hc, hcid⟩ := List.mem_map.mp hmem
    rw [get?_eq_some.mpr ⟨hc, hcid.trans hid⟩]
    rfl
  · rw [Option.or_none]
  · simp [get?, List.find?_append, hid]
  · simp [get?, List.find?_append, hid]

end Mirror

/-- The values of `products.sync_status`. -/
inductive SyncStatus
  | pending
  | syncing
  | synced
  | error
  deriving DecidableEq, Repr

/-- The columns of a product that only the sync writes. -/
structure SyncColumns where
  syncStatus : SyncStatus
  lastSyncedAt : Option Instant

/-- The values of `sync_jobs.status`. -/
inductive JobStatus
  | pending
  | running
  | completed
  | failed
  | dead
  deriving DecidableEq, Repr

/-- A row of `sync_jobs` of type `product_sync`; `target_id` is the text of the number. -/
structure SyncJob where
  id : ℕ
  targetId : ℕ
  status : JobStatus
  priority : ℕ
  attempts : ℕ
  maxAttempts : ℕ
  scheduledAt : Instant
  lockedUntil : Option Instant

/-- The job waits, or runs. -/
def SyncJob.active (j : SyncJob) : Bool := j.status == .pending || j.status == .running

/-- **The database**. -/
structure System where
  db : Db
  cves : Mirror
  syncColumns : ℕ → SyncColumns
  syncJobs : Table SyncJob SyncJob.id

/-! ### The columns of a product -/

/-- `SET updated_at = NOW()`. -/
def Product.touched (now : Instant) : Table.Assignment Product.id where
  set p := { p with updatedAt := now }
  key_set _ := rfl

/-- `SET cve_count = …, critical_count = …, updated_at = NOW()`. -/
def Product.recounted (cveCount criticalCount : ℕ) (now : Instant) :
    Table.Assignment Product.id where
  set p := { p with cveCount := cveCount, criticalCount := criticalCount, updatedAt := now }
  key_set _ := rfl

/-- `f.status NOT IN ('closed', 'false_positive')`. -/
def Finding.counted (productId : ℕ) (f : Finding) : Bool :=
  f.productId == productId && !([.closed, .falsePositive].contains f.status)

namespace System

variable (s : System)

/-- The `cve_count` that `_STATS_UPDATE_SQL` computes. -/
def cveCount (productId : ℕ) : ℕ := s.db.findings.rows.countP (Finding.counted productId)

/-- The finding's CVE has the severity `CRITICAL`. -/
def critical (f : Finding) : Bool :=
  (s.cves.get? f.cveId).any fun c => decide (c.severity = some .critical)

/-- The `critical_count` that `_STATS_UPDATE_SQL` computes. -/
def criticalCount (productId : ℕ) : ℕ :=
  s.db.findings.rows.countP fun f => f.counted productId && s.critical f

/-! ### Statements -/

/-- `_STATUS_UPDATE_SQL`. -/
def updateStatus (now : Instant) (status : SyncStatus) (productId : ℕ) : System :=
  { s with
    db := { s.db with
      products := s.db.products.update (fun p => p.id == productId) (Product.touched now) }
    syncColumns := Function.update s.syncColumns productId
      { s.syncColumns productId with syncStatus := status } }

/-- `_STATS_UPDATE_SQL`. -/
def updateStats (now : Instant) (productId : ℕ) : System :=
  { s with
    db := { s.db with
      products := s.db.products.update (fun p => p.id == productId)
        (Product.recounted (s.cveCount productId) (s.criticalCount productId) now) }
    syncColumns := Function.update s.syncColumns productId
      { syncStatus := .synced, lastSyncedAt := some now } }

/-- `_enqueue_sync`: a job, unless one for the product is active. -/
def enqueueSync (now : Instant) (productId priority : ℕ) : System :=
  if s.syncJobs.rows.any fun j => j.targetId == productId && j.active then s
  else
    { s with syncJobs := s.syncJobs.insert fun n =>
        ⟨n, productId, .pending, priority, 0, 3, now, none⟩ }

theorem db_enqueueSync (productId priority : ℕ) (now : Instant) :
    (s.enqueueSync now productId priority).db = s.db := by
  unfold enqueueSync
  split_ifs <;> rfl

end System

end CveManagement
