import CveManagement.Ingestion.Submissions
import Mathlib.Data.List.MinMax

/-!
# The mirror does not depend on the order of its feed

`_UPSERT_SQL` replaces a row by a later record, whole but for `published_at`. So what the
mirror holds of a CVE is the record with the greatest `lastModified` among those fed to it:
in whatever order they come, however often, and however `executemany` splits them
(`CveManagement.mirrorOf_applyBatches`). What was fed once is not written again
(`CveManagement.applyUpserts_replay`), and a stored date never goes back
(`CveManagement.lastModified_mono`).

The records that `_upsert_batched` streams are such a feed, in batches of five hundred
(`CveManagement.upsertBatched_eq_applyBatches`).
-/

namespace CveManagement

/-! ### Feeds -/

/-- One `_UPSERT_SQL`: the source and the time of its run, and the record. -/
structure Upsert where
  source : String
  now : Instant
  record : NvdCveRecord

/-- An `executemany` of `_UPSERT_SQL`. -/
structure UpsertBatch where
  source : String
  now : Instant
  records : List NvdCveRecord

/-- The upsert as an offer to the mirror. -/
def Upsert.offer (u : Upsert) : Latest.Offer (κ := String) CveRow.lastModifiedAt :=
  u.record.offer u.source u.now

/-- The statements of a batch. -/
def UpsertBatch.upserts (b : UpsertBatch) : List Upsert :=
  b.records.map fun r => ⟨b.source, b.now, r⟩

/-- Upserts, one after the other. -/
def applyUpserts (l : List Upsert) (cves : Cves) : Cves :=
  (l.map Upsert.offer).foldl Latest.take cves

/-- Batches, one after the other. -/
def applyBatches (batches : List UpsertBatch) (cves : Cves) : Cves :=
  batches.foldl (fun cves b => upsertMany b.source b.now b.records cves) cves

/-- The mirror before anything was ingested. -/
def Cves.empty : Cves := fun _ => none

/-- **The columns that a record decides.** -/
structure CveColumns where
  rawPayload : Json
  cvssV3Score : Option ℚ
  cvssV3Vector : Option String
  cvssV2Score : Option ℚ
  severity : Option String
  lastModifiedAt : Instant
  source : String

/-- These columns of a row. -/
def CveRow.columns (row : CveRow) : CveColumns :=
  ⟨row.rawPayload, row.cvssV3Score, row.cvssV3Vector, row.cvssV2Score, row.severity,
    row.lastModifiedAt, row.source⟩

/-- The values that an upsert has for them. -/
def Upsert.columns (u : Upsert) : CveColumns :=
  ⟨u.record.rawPayload, u.record.cvssV3Score, u.record.cvssV3Vector, u.record.cvssV2Score,
    u.record.severity, u.record.lastModifiedAt, u.source⟩

/-- Two upserts submit the same record under the same source. -/
def Upsert.Same (u u' : Upsert) : Prop := u.source = u'.source ∧ u.record = u'.record

/-- **The records of a CVE have distinct dates**: two upserts of one CVE with one date submit
the same record. -/
def DistinctDates (l : List Upsert) : Prop :=
  ∀ u ∈ l, ∀ u' ∈ l, u.record.cveId = u'.record.cveId →
    u.record.lastModifiedAt = u'.record.lastModifiedAt → u.Same u'

/-- The upsert is the latest of its CVE. -/
def LatestIn (l : List Upsert) (u : Upsert) : Prop :=
  u ∈ l ∧ ∀ u' ∈ l, u'.record.cveId = u.record.cveId →
    u'.record.lastModifiedAt ≤ u.record.lastModifiedAt

section Feed

variable {l l' : List Upsert} {batches : List UpsertBatch} {cves : Cves} {u : Upsert}
  {cveId : String}

theorem applyUpserts_append :
    applyUpserts (l ++ l') cves = applyUpserts l' (applyUpserts l cves) := by
  simp [applyUpserts]

/-- **How the records are split does not matter.** -/
theorem applyBatches_eq :
    applyBatches batches cves = applyUpserts (batches.flatMap UpsertBatch.upserts) cves := by
  induction batches generalizing cves with
  | nil => rfl
  | cons b batches ih =>
    have hbatch : upsertMany b.source b.now b.records cves = applyUpserts b.upserts cves := by
      rw [upsertMany, applyUpserts, UpsertBatch.upserts, List.map_map]
      rfl
    rw [List.flatMap_cons, applyUpserts_append, ← ih, ← hbatch]
    rfl

/-- What an upsert writes has its columns. -/
theorem columns_of_writes {row : CveRow} (h : u.offer.Writes row) : row.columns = u.columns := by
  rcases h with rfl | ⟨old, rfl⟩
  · rfl
  · rfl

/-- The row that an upsert writes is of its CVE, if what it replaces was. -/
def Cves.Keyed (cves : Cves) : Prop := ∀ cveId row, cves cveId = some row → row.cveId = cveId

theorem keyed_take (h : cves.Keyed) : Cves.Keyed (Latest.take cves u.offer) := by
  intro cveId row hrow
  rw [Latest.take] at hrow
  cases hm : cves u.offer.key with
  | none =>
    rw [hm] at hrow
    by_cases hk : cveId = u.offer.key
    · subst hk
      dsimp only at hrow
      rw [Function.update_self] at hrow
      obtain rfl := Option.some.inj hrow
      rfl
    · dsimp only at hrow
      rw [Function.update_of_ne hk] at hrow
      exact h cveId row hrow
  | some old =>
    rw [hm] at hrow
    dsimp only at hrow
    split_ifs at hrow
    · by_cases hk : cveId = u.offer.key
      · subst hk
        rw [Function.update_self] at hrow
        obtain rfl := Option.some.inj hrow
        exact h _ old hm
      · rw [Function.update_of_ne hk] at hrow
        exact h cveId row hrow
    · exact h cveId row hrow

/-- The rows stay under their ids. -/
theorem keyed_applyUpserts (h : cves.Keyed) : (applyUpserts l cves).Keyed := by
  induction l generalizing cves with
  | nil => exact h
  | cons u l ih => exact ih (keyed_take h)

/-- What the mirror covers after a feed. -/
theorem covers_applyUpserts {t : Instant} :
    Latest.Covers CveRow.lastModifiedAt (applyUpserts l cves) cveId t ↔
      Latest.Covers CveRow.lastModifiedAt cves cveId t ∨
        ∃ u ∈ l, u.record.cveId = cveId ∧ t ≤ u.record.lastModifiedAt := by
  rw [applyUpserts, Latest.covers_foldl]
  simp only [List.mem_map, exists_exists_and_eq_and]
  rfl

/-- **The latest upsert decides the columns**, if it is later than what was there. -/
theorem columns_applyUpserts (hdistinct : DistinctDates l) (hu : LatestIn l u)
    (hlater : ∀ row, cves u.record.cveId = some row →
      row.lastModifiedAt < u.record.lastModifiedAt) :
    ∃ row, applyUpserts l cves u.record.cveId = some row ∧ row.columns = u.columns := by
  have hgreatest : ∀ o' ∈ l.map Upsert.offer, o'.key = u.offer.key → o'.time ≤ u.offer.time := by
    intro o' ho' hkey
    obtain ⟨u', hu', rfl⟩ := List.mem_map.mp ho'
    exact hu.2 u' hu' hkey
  obtain ⟨row, hrow, o', ho', hkey, htime, hwrites⟩ :=
    Latest.written_of_greatest (List.mem_map_of_mem hu.1) hgreatest hlater
  obtain ⟨u', hu', rfl⟩ := List.mem_map.mp ho'
  -- the writer has the date of the latest upsert, so it submits the same record
  obtain ⟨hsource, hrecord⟩ := hdistinct u' hu' u hu.1 hkey htime
  refine ⟨row, hrow, ?_⟩
  rw [columns_of_writes hwrites, Upsert.columns, Upsert.columns, hsource, hrecord]

/-- A CVE without records has no row. -/
theorem isSome_applyUpserts_empty :
    (applyUpserts l Cves.empty cveId).isSome = true ↔ ∃ u ∈ l, u.record.cveId = cveId := by
  constructor
  · intro h
    obtain ⟨row, hrow⟩ := Option.isSome_iff_exists.mp h
    rcases covers_applyUpserts.mp ⟨row, hrow, le_refl _⟩ with ⟨_, hnone, _⟩ | ⟨u, hu, hid, _⟩
    · exact absurd hnone (Option.some_ne_none _).symm
    · exact ⟨u, hu, hid⟩
  · rintro ⟨u, hu, hid⟩
    have hcovers : Latest.Covers CveRow.lastModifiedAt (applyUpserts l Cves.empty) cveId
        u.record.lastModifiedAt :=
      covers_applyUpserts.mpr (.inr ⟨u, hu, hid, le_rfl⟩)
    obtain ⟨row, hrow, -⟩ := hcovers
    rw [hrow]
    rfl

/-- A CVE with records has a latest one. -/
theorem exists_latestIn (h : ∃ u ∈ l, u.record.cveId = cveId) :
    ∃ u, LatestIn l u ∧ u.record.cveId = cveId := by
  let time : Upsert → Instant := fun u => u.record.lastModifiedAt
  let mine := l.filter fun u => u.record.cveId == cveId
  have hmine : ∀ u, u ∈ mine ↔ u ∈ l ∧ u.record.cveId = cveId := fun u => by
    rw [List.mem_filter, beq_iff_eq]
  obtain ⟨u₀, hu₀⟩ := h
  cases hmax : mine.argmax time with
  | none =>
    rw [List.argmax_eq_none.mp hmax] at hmine
    exact absurd ((hmine u₀).mpr hu₀) List.not_mem_nil
  | some u =>
    obtain ⟨hu, hid⟩ := (hmine u).mp (List.argmax_mem hmax)
    have hle : ∀ u' ∈ mine, time u' ≤ time u := fun u' hu' => List.le_of_mem_argmax hu' hmax
    exact ⟨u, ⟨hu, fun u' hu' hid' => hle u' ((hmine u').mpr ⟨hu', hid'.trans hid⟩)⟩, hid⟩

/-- **What was fed is not written again.** -/
theorem applyUpserts_replay
    (h : ∀ u ∈ l', ∃ u' ∈ l, u.Same u') :
    applyUpserts l' (applyUpserts l cves) = applyUpserts l cves := by
  refine Latest.foldl_take_of_covered fun o ho => ?_
  obtain ⟨u, hu, rfl⟩ := List.mem_map.mp ho
  obtain ⟨u', hu', -, hrecord⟩ := h u hu
  refine covers_applyUpserts.mpr (.inr ⟨u', hu', ?_, ?_⟩)
  · rw [← hrecord]
    rfl
  · rw [← hrecord]
    exact le_refl _

/-- **A stored date never goes back.** -/
theorem lastModified_mono {row : CveRow} (h : cves cveId = some row) :
    ∃ row', applyUpserts l cves cveId = some row' ∧ row.lastModifiedAt ≤ row'.lastModifiedAt :=
  covers_applyUpserts.mpr (.inl ⟨row, h, le_refl _⟩)

/-- **`_upsert_batched` feeds its stream**, each record once and in order, if no write fails and
the stream does not either. -/
theorem upsertBatched_eq_applyBatches (source : String) (now : Instant) {stream : RecordStream}
    (hend : stream.failure = none) (cves : Cves) :
    upsertBatched source now (fun _ => false) stream cves =
      (applyBatches [⟨source, now, stream.records⟩] cves, .ok (stream.records.length, 0)) := by
  rw [upsertBatched_of_ok source now hend]
  rfl

end Feed

/-! ### The law -/

/-- **The mirror of a feed**: one row for each CVE, with the columns of its latest record. -/
structure MirrorOf (l : List Upsert) (cves : Cves) : Prop where
  keyed : cves.Keyed
  isSome_iff : ∀ cveId, (cves cveId).isSome = true ↔ ∃ u ∈ l, u.record.cveId = cveId
  columns_of_latest : ∀ u, LatestIn l u →
    ∃ row, cves u.record.cveId = some row ∧ row.columns = u.columns

theorem mirrorOf_applyBatches {batches : List UpsertBatch}
    (hdistinct : DistinctDates (batches.flatMap UpsertBatch.upserts)) :
    MirrorOf (batches.flatMap UpsertBatch.upserts) (applyBatches batches Cves.empty) where
  keyed := by
    rw [applyBatches_eq]
    exact keyed_applyUpserts fun _ _ h => absurd h (Option.some_ne_none _).symm
  isSome_iff _ := by
    rw [applyBatches_eq]
    exact isSome_applyUpserts_empty
  columns_of_latest u hu := by
    rw [applyBatches_eq]
    exact columns_applyUpserts hdistinct hu fun _ h => absurd h (Option.some_ne_none _).symm

/-- Two feeds submit the same records. -/
def SameRecords (l l' : List Upsert) : Prop :=
  (∀ u ∈ l, ∃ u' ∈ l', u.Same u') ∧ ∀ u' ∈ l', ∃ u ∈ l, u'.Same u

/-- **Two mirrors of the same records agree**, whatever the feeds. -/
theorem columns_eq_of_sameRecords {l l' : List Upsert} {cves cves' : Cves} (h : MirrorOf l cves)
    (h' : MirrorOf l' cves') (hsame : SameRecords l l') (cveId : String) :
    (cves cveId).map CveRow.columns = (cves' cveId).map CveRow.columns := by
  by_cases hsome : ∃ u ∈ l, u.record.cveId = cveId
  · obtain ⟨u, hu, rfl⟩ := exists_latestIn hsome
    obtain ⟨u', hu', hsource, hrecord⟩ := hsame.1 u hu.1
    -- the latest record of the one feed is the latest of the other
    have hlatest : LatestIn l' u' := by
      refine ⟨hu', fun v' hv' hid => ?_⟩
      obtain ⟨v, hv, -, hv'v⟩ := hsame.2 v' hv'
      rw [hv'v, ← hrecord] at hid ⊢
      exact hu.2 v hv hid
    obtain ⟨row, hrow, hcolumns⟩ := h.columns_of_latest u hu
    obtain ⟨row', hrow', hcolumns'⟩ := h'.columns_of_latest u' hlatest
    rw [← hrecord] at hrow'
    rw [hrow, hrow', Option.map_some, Option.map_some, hcolumns, hcolumns', Upsert.columns,
      Upsert.columns, hsource, hrecord]
  · have hnone : cves cveId = none := by
      rw [← Option.not_isSome_iff_eq_none, h.isSome_iff]
      exact hsome
    have hnone' : cves' cveId = none := by
      rw [← Option.not_isSome_iff_eq_none, h'.isSome_iff]
      rintro ⟨u', hu', rfl⟩
      obtain ⟨u, hu, -, hrecord⟩ := hsame.2 u' hu'
      exact hsome ⟨u, hu, by rw [hrecord]⟩
    rw [hnone, hnone']

theorem DistinctDates.of_sameRecords {l l' : List Upsert} (h : DistinctDates l)
    (hsame : SameRecords l l') : DistinctDates l' := by
  intro u' hu' v' hv' hid hdate
  obtain ⟨u, hu, hsource, hrecord⟩ := hsame.2 u' hu'
  obtain ⟨v, hv, hsource', hrecord'⟩ := hsame.2 v' hv'
  rw [hrecord, hrecord'] at hid hdate
  obtain ⟨hs, hr⟩ := h u hu v hv hid hdate
  exact ⟨hsource.trans (hs.trans hsource'.symm), hrecord.trans (hr.trans hrecord'.symm)⟩

/-- **The feed of the mirror is confluent and idempotent**: whatever the order, the repetitions
and the batches, each CVE ends with the columns of its latest record; what was fed changes
nothing when it is fed again; and no upsert takes a stored date back. -/
theorem mirror_confluent (batches : List UpsertBatch)
    (hdistinct : DistinctDates (batches.flatMap UpsertBatch.upserts)) :
    MirrorOf (batches.flatMap UpsertBatch.upserts) (applyBatches batches Cves.empty) ∧
      (∀ batches' : List UpsertBatch,
        SameRecords (batches.flatMap UpsertBatch.upserts) (batches'.flatMap UpsertBatch.upserts) →
        ∀ cveId, (applyBatches batches Cves.empty cveId).map CveRow.columns =
          (applyBatches batches' Cves.empty cveId).map CveRow.columns) ∧
      (∀ replay : List UpsertBatch, (∀ u ∈ replay.flatMap UpsertBatch.upserts,
          ∃ u' ∈ batches.flatMap UpsertBatch.upserts, u.Same u') →
        applyBatches replay (applyBatches batches Cves.empty) = applyBatches batches Cves.empty) ∧
      ∀ before u after, batches.flatMap UpsertBatch.upserts = before ++ u :: after →
        ∀ cveId row, applyUpserts before Cves.empty cveId = some row →
          ∃ row', applyUpserts (before ++ [u]) Cves.empty cveId = some row' ∧
            row.lastModifiedAt ≤ row'.lastModifiedAt := by
  refine ⟨mirrorOf_applyBatches hdistinct, fun batches' hsame cveId => ?_, fun replay hsub => ?_,
    fun before u after _ cveId row hrow => ?_⟩
  · exact columns_eq_of_sameRecords (mirrorOf_applyBatches hdistinct)
      (mirrorOf_applyBatches (hdistinct.of_sameRecords hsame)) hsame cveId
  · simp only [applyBatches_eq]
    exact applyUpserts_replay hsub
  · rw [applyUpserts_append]
    exact lastModified_mono hrow

/-- A record without scores. -/
def NvdCveRecord.plain (cveId : String) (lastModifiedAt : Instant) (payload : Json) :
    NvdCveRecord :=
  ⟨cveId, 0, lastModifiedAt, none, none, none, none, payload⟩

/-- A CVE from VulnCheck, and a later record of it from NVD. -/
def twoSources : List UpsertBatch :=
  [⟨"vulncheck_nvd", 10, [.plain "CVE-2024-1" 1 .null]⟩,
    ⟨"nvd_api", 20, [.plain "CVE-2024-1" 2 (.bool true)]⟩]

theorem distinctDates_twoSources : DistinctDates (twoSources.flatMap UpsertBatch.upserts) := by
  intro u hu u' hu' _ hdate
  have hmem : ∀ v ∈ twoSources.flatMap UpsertBatch.upserts,
      v = ⟨"vulncheck_nvd", 10, .plain "CVE-2024-1" 1 .null⟩ ∨
        v = ⟨"nvd_api", 20, .plain "CVE-2024-1" 2 (.bool true)⟩ := fun v hv => by
    simpa [twoSources, UpsertBatch.upserts] using hv
  rcases hmem u hu with rfl | rfl <;> rcases hmem u' hu' with rfl | rfl
  · exact ⟨rfl, rfl⟩
  · exact absurd hdate (by decide)
  · exact absurd hdate (by decide)
  · exact ⟨rfl, rfl⟩

/-- Of two sources the later one is mirrored. -/
theorem mirror_confluent_twoSources :
    MirrorOf (twoSources.flatMap UpsertBatch.upserts) (applyBatches twoSources Cves.empty) :=
  (mirror_confluent twoSources distinctDates_twoSources).1

end CveManagement
