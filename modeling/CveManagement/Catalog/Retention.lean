import CveManagement.Dashboard.Dataset
import CveManagement.Ingestion.DeltaClients
import CveManagement.Ingestion.EpssRefresh
import CveManagement.Library.Deletion
import Mathlib

/-!
# The retention of CVEs

`_retention_cleanup` of `app/workers/scheduler.py` deletes, in one transaction, the CVEs that were
published before the current year and are not in KEV. Their findings go with them, and so do the
acceptances of these, as migrations 0001 and 0007 declare. `findings_history` refers to findings
without `ON DELETE CASCADE`: one row of it, of a finding of such a CVE, and the transaction is
rolled back.

So the job does what it is for exactly if no history is kept of the findings that it would delete
(`CveManagement.retentionCleanup_iff`).
-/

namespace CveManagement

/-! ### The tables -/

/-- **The database with `epss_history`**, and the foreign key of migration 0004. -/
structure RetentionData extends Dataset where
  epssHistory : List EpssRow
  epss_cve : ∀ e ∈ epssHistory, (cves.get? e.cveId).isSome

theorem Table.isSome_get?_iff {ρ : Type} {key : ρ → ℕ} {t : Table ρ key} {k : ℕ} :
    (t.get? k).isSome ↔ ∃ r ∈ t.rows, key r = k := by
  rw [Option.isSome_iff_exists]
  simp only [Table.get?_eq_some]

theorem Mirror.isSome_get?_iff {m : Mirror} {cveId : String} :
    (m.get? cveId).isSome ↔ ∃ c ∈ m.rows, c.cveId = cveId := by
  rw [Option.isSome_iff_exists]
  simp only [Mirror.get?_eq_some]

/-- `DELETE FROM cves WHERE …`, of the table alone. -/
def Mirror.delete (m : Mirror) (p : MirrorRow → Bool) : Mirror where
  rows := m.rows.filter fun c => !p c
  uniqueCve := (List.filter_sublist.map MirrorRow.cveId).nodup m.uniqueCve

namespace RetentionData

variable (s : RetentionData) (p : MirrorRow → Bool)

/-- The finding is one of a CVE that is deleted. -/
def losesCve (f : Finding) : Bool :=
  Deletion.refersTo Finding.cveId MirrorRow.cveId s.cves.rows p f

/-- The acceptance is one of a finding that is deleted. -/
def losesFinding (a : RiskAcceptance) : Bool :=
  Deletion.refersTo RiskAcceptance.findingId Finding.id s.db.findings.rows (s.losesCve p) a

/-- The row of the history refers to a finding that is deleted. -/
def dangles (h : HistoryRow) : Bool :=
  Deletion.refersTo HistoryRow.findingId Finding.id s.db.findings.rows (s.losesCve p) h

/-- **`DELETE FROM cves WHERE …`**, with all that it cascades to; none if the database refuses
it. -/
def deleteCves : Option RetentionData :=
  if hrefused : ∃ h ∈ s.db.findingsHistory.rows, s.dangles p h = true then none
  else some
    { db := { s.db with
        findings := s.db.findings.delete (s.losesCve p)
        riskAcceptances := s.db.riskAcceptances.delete (s.losesFinding p)
        uniqueFinding := (List.filter_sublist.map Finding.target).nodup s.db.uniqueFinding }
      cves := s.cves.delete p
      syncColumns := s.syncColumns
      syncJobs := s.syncJobs
      productDetails := s.productDetails
      cveDetails := s.cveDetails
      epssHistory := s.epssHistory.filter fun e =>
        !Deletion.refersTo EpssRow.cveId MirrorRow.cveId s.cves.rows p e
      finding_product f hf := s.finding_product f (Table.mem_delete.mp hf).1
      finding_cve f hf := Mirror.isSome_get?_iff.mpr <| Deletion.Refers.cascade
        (fun f hf => Mirror.isSome_get?_iff.mp (s.finding_cve f hf)) f hf
      acceptance_finding a ha := Table.isSome_get?_iff.mpr <| Deletion.Refers.cascade
        (fun a ha => Table.isSome_get?_iff.mp (s.acceptance_finding a ha)) a ha
      history_finding h hh := Table.isSome_get?_iff.mpr <| Deletion.Refers.restrict
        (fun h hh => Table.isSome_get?_iff.mp (s.history_finding h hh))
        (fun h hh => Bool.eq_false_of_not_eq_true fun hdangles => hrefused ⟨h, hh, hdangles⟩) h hh
      epss_cve e he := Mirror.isSome_get?_iff.mpr <| Deletion.Refers.cascade
        (fun e he => Mirror.isSome_get?_iff.mp (s.epss_cve e he)) e he }

/-- `DELETE FROM epss_history WHERE cve_id IN …`. -/
def deleteEpssHistory : RetentionData :=
  { s with
    epssHistory := s.epssHistory.filter fun e => !(s.cves.rows.any fun c =>
      p c && c.cveId == e.cveId)
    epss_cve := fun e he => s.epss_cve e (List.mem_filter.mp he).1 }

end RetentionData

/-! ### The job -/

/-- `EXTRACT(YEAR FROM …)`, in UTC. -/
def Instant.year (t : Instant) : ℤ := yearOfOrdinal (t.date + epochOrdinal)

/-- `EXTRACT(YEAR FROM published_at) < EXTRACT(YEAR FROM NOW()) AND is_kev = FALSE`. -/
def MirrorRow.retired (now : Instant) (c : MirrorRow) : Bool :=
  decide (c.publishedAt.year < now.year) && !c.isKev

/-- **`_retention_cleanup`**: an error rolls both statements back, and is logged. -/
def retentionCleanup (now : Instant) (s : RetentionData) : RetentionData :=
  ((s.deleteEpssHistory (MirrorRow.retired now)).deleteCves (MirrorRow.retired now)).getD s

/-- In KEV, or published in the current year. -/
def MirrorRow.retained (now : Instant) (c : MirrorRow) : Bool :=
  c.isKev || c.publishedAt.year == now.year

/-- The finding is one of a CVE that is to be kept. -/
def RetentionData.ofRetained (s : RetentionData) (now : Instant) (f : Finding) : Bool :=
  (s.cves.get? f.cveId).any (MirrorRow.retained now)

/-- **What the job is for.** -/
structure Retention (now : Instant) (s s' : RetentionData) : Prop where
  retired : ∀ c ∈ s'.cves.rows, c.publishedAt.year < now.year → c.isKev = true
  cves : s'.cves.rows.filter (MirrorRow.retained now) = s.cves.rows.filter (MirrorRow.retained now)
  findings : (s'.db.findings.select fun f => s.ofRetained now f) =
    s.db.findings.select fun f => s.ofRetained now f

section Cleanup

variable {now : Instant} {s s' : RetentionData}

theorem dangles_iff {p : MirrorRow → Bool} {h : HistoryRow} :
    s.dangles p h = true ↔ ∃ f ∈ s.db.findings.rows, f.id = h.findingId ∧
      ∃ c ∈ s.cves.rows, c.cveId = f.cveId ∧ p c = true := by
  rw [RetentionData.dangles, Deletion.refersTo_iff]
  simp only [RetentionData.losesCve, Deletion.refersTo_iff]
  constructor
  · rintro ⟨f, hf, ⟨c, hc, hp, hcve⟩, hid⟩
    exact ⟨f, hf, hid, c, hc, hcve, hp⟩
  · rintro ⟨f, hf, hid, c, hc, hcve, hp⟩
    exact ⟨f, hf, ⟨c, hc, hp, hcve⟩, hid⟩

/-- **A refused deletion** has a row of the history to blame. -/
theorem deleteCves_eq_none_iff {p : MirrorRow → Bool} :
    s.deleteCves p = none ↔ ∃ h ∈ s.db.findingsHistory.rows, s.dangles p h = true := by
  rw [RetentionData.deleteCves]
  split_ifs with hrefused
  · exact iff_of_true rfl hrefused
  · exact iff_of_false id hrefused

/-- What a deletion leaves of the CVEs and of their findings. -/
theorem of_deleteCves {p : MirrorRow → Bool} (h : s.deleteCves p = some s') :
    s'.cves.rows = s.cves.rows.filter (fun c => !p c) ∧
      s'.db.findings.rows = s.db.findings.rows.filter fun f => !s.losesCve p f := by
  unfold RetentionData.deleteCves at h
  split_ifs at h
  cases h
  exact ⟨rfl, rfl⟩

/-- What is to be kept is not retired. -/
theorem retired_of_retained {c : MirrorRow} (h : c.retained now = true) :
    c.retired now = false := by
  rw [MirrorRow.retained, Bool.or_eq_true, beq_iff_eq] at h
  rw [MirrorRow.retired, Bool.and_eq_false_iff]
  rcases h with hkev | hyear
  · exact .inr (by rw [hkev, Bool.not_true])
  · exact .inl (decide_eq_false hyear.not_lt)

/-- A finding of a CVE that is to be kept does not lose it. -/
theorem losesCve_of_ofRetained {f : Finding} (h : s.ofRetained now f = true) :
    s.losesCve (MirrorRow.retired now) f = false := by
  obtain ⟨c, hget, hretained⟩ := (Option.any_eq_true _ _).mp h
  obtain ⟨hc, hcve⟩ := Mirror.get?_eq_some.mp hget
  refine Bool.eq_false_of_not_eq_true fun hloses => ?_
  obtain ⟨c', hc', hretired, hcve'⟩ := Deletion.refersTo_iff.mp hloses
  -- the id belongs to one CVE
  have hsame : c' = c :=
    List.inj_on_of_nodup_map s.cves.uniqueCve hc' hc (hcve'.trans hcve.symm)
  rw [hsame, retired_of_retained hretained] at hretired
  cases hretired

/-- **A deletion of the retired CVEs is what the job is for.** -/
theorem retention_of_deleteCves (h : s.deleteCves (MirrorRow.retired now) = some s') :
    Retention now s s' := by
  obtain ⟨hcves, hfindings⟩ := of_deleteCves h
  refine ⟨fun c hc hyear => ?_, ?_, ?_⟩
  · rw [hcves, List.mem_filter, Bool.not_eq_true', MirrorRow.retired] at hc
    rw [decide_eq_true hyear, Bool.true_and, Bool.not_eq_false'] at hc
    exact hc.2
  · rw [hcves, List.filter_filter]
    refine List.filter_congr fun c _ => ?_
    cases hretained : c.retained now with
    | false => rfl
    | true => rw [retired_of_retained hretained, Bool.not_false, Bool.and_true]
  · rw [Table.select, Table.select, hfindings, List.filter_filter]
    refine List.filter_congr fun f _ => ?_
    cases hretained : s.ofRetained now f with
    | false => rfl
    | true => rw [losesCve_of_ofRetained hretained, Bool.not_false, Bool.and_true]

/-- **When the daily job works**: the CVEs of past years are gone, and the others are there with
their findings, exactly if no row of `findings_history` refers to a finding of one that is to be
deleted. -/
theorem retentionCleanup_iff (now : Instant) (s : RetentionData) :
    Retention now s (retentionCleanup now s) ↔
      ∀ h ∈ s.db.findingsHistory.rows, ∀ f ∈ s.db.findings.rows, f.id = h.findingId →
        ∀ c ∈ s.cves.rows, c.cveId = f.cveId →
          ¬(c.publishedAt.year < now.year ∧ c.isKev = false) := by
  have hretired_iff : ∀ c : MirrorRow, c.retired now = true ↔
      c.publishedAt.year < now.year ∧ c.isKev = false := by
    intro c
    rw [MirrorRow.retired, Bool.and_eq_true, decide_eq_true_eq, Bool.not_eq_true']
  constructor
  · intro hdone h hh f hf hid c hc hcve hretired
    -- the deletion is refused, and the CVE stays
    have hnone : (s.deleteEpssHistory (MirrorRow.retired now)).deleteCves
        (MirrorRow.retired now) = none :=
      deleteCves_eq_none_iff.mpr
        ⟨h, hh, dangles_iff.mpr ⟨f, hf, hid, c, hc, hcve, (hretired_iff c).mpr hretired⟩⟩
    rw [retentionCleanup, hnone, Option.getD_none] at hdone
    have hkev := hdone.retired c hc hretired.1
    rw [hretired.2] at hkev
    cases hkev
  · intro hfree
    cases hdelete : (s.deleteEpssHistory (MirrorRow.retired now)).deleteCves
        (MirrorRow.retired now) with
    | none =>
      obtain ⟨h, hh, hdangles⟩ := deleteCves_eq_none_iff.mp hdelete
      obtain ⟨f, hf, hid, c, hc, hcve, hretired⟩ := dangles_iff.mp hdangles
      exact absurd ((hretired_iff c).mp hretired) (hfree h hh f hf hid c hc hcve)
    | some s' =>
      have hretention := retention_of_deleteCves hdelete
      rw [retentionCleanup, hdelete, Option.getD_some]
      exact ⟨hretention.retired, hretention.cves, hretention.findings⟩

end Cleanup

/-! ### A history that keeps a CVE -/

/-- A CVE of 2025 that is not in KEV. -/
def lastYearsCve : MirrorRow where
  cvssV3Score := some 7
  cvssV2Score := none
  severity := some .high
  epssScore := none
  isKev := false
  publishedAt := 1748736000000000
  hasPublicPoc := none
  hasNucleiTemplate := none
  cveId := "CVE-2025-1000"
  rawPayload := .obj []

/-- A product with a finding of that CVE. -/
def foundDb : Db :=
  Db.insertFinding
    (.ofProducts (Table.empty.insert fun n =>
      ⟨n, "nginx", none, none, none, 0, 0, 1748736000000000, false, none, none⟩))
    (newFinding 1748736000000000 1 "CVE-2025-1000" .uncertain "circl_fallback" none)

/-- An analyst has closed the finding. -/
def closedDb : Db :=
  match updateFinding 1748736000000000 1 "CVE-2025-1000"
    ⟨some "closed", none, none, none, none, none⟩ ⟨1, "ana@example.org", "analyst"⟩ foundDb with
  | .ok (_, db) => db
  | .error _ => foundDb

/-- The database then. -/
def closedData : RetentionData where
  db := closedDb
  cves := ⟨[lastYearsCve], List.nodup_singleton _⟩
  syncColumns _ := ⟨.pending, none⟩
  syncJobs := Table.empty
  productDetails _ := ⟨none, 1748736000000000⟩
  cveDetails _ := ⟨none, none, none, 1748736000000000⟩
  finding_product := by decide +kernel
  finding_cve := by decide +kernel
  acceptance_finding := by decide +kernel
  history_finding := by decide +kernel
  epssHistory := []
  epss_cve _ h := absurd h List.not_mem_nil

/-- **A finding that was closed keeps its CVE** for good. -/
theorem not_retention_closed :
    ¬Retention 1780272000000000 closedData (retentionCleanup 1780272000000000 closedData) := by
  intro hdone
  have hrefused : ∃ h ∈ closedDb.findingsHistory.rows, ∃ f ∈ closedDb.findings.rows,
      f.id = h.findingId ∧ f.cveId = "CVE-2025-1000" := by decide +kernel
  obtain ⟨h, hh, f, hf, hid, hcve⟩ := hrefused
  have hyear : lastYearsCve.publishedAt.year < Instant.year 1780272000000000 := by decide +kernel
  have hnone : (closedData.deleteEpssHistory (MirrorRow.retired 1780272000000000)).deleteCves
      (MirrorRow.retired 1780272000000000) = none :=
    deleteCves_eq_none_iff.mpr ⟨h, hh, dangles_iff.mpr
      ⟨f, hf, hid, lastYearsCve, List.mem_singleton_self _, hcve.symm, by decide +kernel⟩⟩
  rw [retentionCleanup, hnone, Option.getD_none] at hdone
  exact Bool.false_ne_true (hdone.retired lastYearsCve (List.mem_singleton_self _) hyear)

end CveManagement
