import CveManagement.Governance.Schema
import CveManagement.Library.Latest
import CveManagement.Library.Trajectory
import CveManagement.Payload.Json
import Mathlib.Algebra.Order.Ring.Int

/-!
# The local mirror of CVE records

The table `cves` as the ingestion writes it, a map from `cve_id` by the column's
`UNIQUE`, and `_UPSERT_SQL`: a record is stored if it is new, or modified later than the
stored one. This is an offer in the sense of `Latest.Offer`, stamped with
`last_modified_at`, so a batch of upserts covers a record exactly when it was covered
before or the batch has one under its id that is at least as late
(`CveManagement.represented_upsertMany`).
-/

namespace CveManagement

/-- `NvdCveRecord`. -/
structure NvdCveRecord where
  cveId : String
  publishedAt : Instant
  lastModifiedAt : Instant
  cvssV3Score : Option ℚ
  cvssV3Vector : Option String
  cvssV2Score : Option ℚ
  severity : Option String
  rawPayload : Json

/-- A row of `cves`. -/
structure CveRow where
  cveId : String
  source : String
  rawPayload : Json
  cvssV3Score : Option ℚ
  cvssV3Vector : Option String
  cvssV2Score : Option ℚ
  severity : Option String
  epssScore : Option ℚ
  isKev : Bool
  publishedAt : Instant
  lastModifiedAt : Instant
  createdAt : Instant
  updatedAt : Instant

/-- The table `cves`. -/
abbrev Cves := String → Option CveRow

/-- The row that `_UPSERT_SQL` inserts. -/
def NvdCveRecord.toRow (r : NvdCveRecord) (source : String) (now : Instant) : CveRow :=
  ⟨r.cveId, source, r.rawPayload, r.cvssV3Score, r.cvssV3Vector, r.cvssV2Score, r.severity, none,
    false, r.publishedAt, r.lastModifiedAt, now, now⟩

/-- **`_UPSERT_SQL`** of one record. The `IS NULL` of its condition cannot hold, as the
column is `NOT NULL`. -/
def NvdCveRecord.offer (source : String) (now : Instant) (r : NvdCveRecord) :
    Latest.Offer (κ := String) CveRow.lastModifiedAt where
  key := r.cveId
  time := r.lastModifiedAt
  create := r.toRow source now
  replace old := { old with
    rawPayload := r.rawPayload
    cvssV3Score := r.cvssV3Score
    cvssV3Vector := r.cvssV3Vector
    cvssV2Score := r.cvssV2Score
    severity := r.severity
    lastModifiedAt := r.lastModifiedAt
    source := source
    updatedAt := now }
  stamp_create := rfl
  stamp_replace _ := rfl

/-- `executemany(_UPSERT_SQL, batch)`. -/
def upsertMany (source : String) (now : Instant) (batch : List NvdCveRecord) (cves : Cves) : Cves :=
  (batch.map (NvdCveRecord.offer source now)).foldl Latest.take cves

/-- **The record is represented**: there is a row of it, at least as late. -/
def Represented (cves : Cves) (r : NvdCveRecord) : Prop :=
  Latest.Covers CveRow.lastModifiedAt cves r.cveId r.lastModifiedAt

/-- The record is superseded by another one: the same id, and at least as late. -/
def NvdCveRecord.SupersededBy (r r' : NvdCveRecord) : Prop :=
  r'.cveId = r.cveId ∧ r.lastModifiedAt ≤ r'.lastModifiedAt

/-- **What a batch of upserts represents.** -/
theorem represented_upsertMany {source : String} {now : Instant} {batch : List NvdCveRecord}
    {cves : Cves} {r : NvdCveRecord} :
    Represented (upsertMany source now batch cves) r ↔
      Represented cves r ∨ ∃ r' ∈ batch, r.SupersededBy r' := by
  rw [Represented, upsertMany, Latest.covers_foldl, Represented]
  simp only [List.mem_map, exists_exists_and_eq_and]
  rfl

end CveManagement
