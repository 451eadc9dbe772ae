import CveManagement.Priority.Recompute
import CveManagement.Sync.Entries
import Mathlib

/-!
# The freshness of the stored scores

`findings.priority_score` is a copy: what `compute_priority_score` made of the CVE when it was
written. Here the writers of `cves` and of findings run one after the other at a fixed time,
and a copy is fresh if it is what the score of the CVE would be now
(`CveManagement.Fresh`).

Only the two vulnx refreshes recompute, and only if nothing fails between the transaction of
the flags and that of the scores. The refreshes of EPSS and KEV, the upserts of CVEs and the
intel endpoint leave the copies alone, so each of them keeps the copies fresh exactly if it
changes no score. The sync writes copies of its own, which leave out two signals
(`CveManagement.fresh_write_iff`).
-/

namespace CveManagement

open Register Trajectory

/-! ### Writers of `cves` -/

/-- **A `SET` clause on `cves`**, which does not assign to the id. -/
structure MirrorRow.Assignment where
  set : MirrorRow → MirrorRow
  cveId_set : ∀ c, (set c).cveId = c.cveId

attribute [simp] MirrorRow.Assignment.cveId_set

namespace MirrorRow

/-- `UPDATE … WHERE cve_id = …`. -/
def Assignment.ofCve (cveId : String) (set : MirrorRow → MirrorRow)
    (hset : ∀ c, (set c).cveId = c.cveId := by intro _; rfl) : Assignment where
  set c := if c.cveId = cveId then set c else c
  cveId_set c := by
    split_ifs
    · exact hset c
    · rfl

/-- The statements of an `executemany`, one after the other. -/
def Assignment.each {α : Type} (params : List α) (statement : α → Assignment) : Assignment where
  set c := params.foldl (fun c p => (statement p).set c) c
  cveId_set c := by
    induction params generalizing c with
    | nil => rfl
    | cons p params ih => rw [List.foldl_cons, ih, (statement p).cveId_set]

/-- `_UPDATE_KEV_SQL`; where its condition fails, `is_kev` is set already. -/
def kev (catalog : List String) : Assignment :=
  .each catalog fun cveId => .ofCve cveId fun c => { c with isKev := true }

/-- `_UPDATE_EPSS_SQL`. -/
def epss (scores : List (String × ℚ)) : Assignment :=
  .each scores fun score => .ofCve score.1 fun c => { c with epssScore := some score.2 }

/-- `_UPDATE_SQL` of the exploitability flags. -/
def flags (intel : List (String × IntelRecord)) : Assignment :=
  .each intel fun rec => .ofCve rec.1 fun c => { c with
    hasPublicPoc := some rec.2.hasPublicPoc
    hasNucleiTemplate := some rec.2.hasNucleiTemplate }

end MirrorRow

/-- The values of `_UPSERT_SQL`, as the columns of `cves` hold them. -/
structure CveRecord where
  cveId : String
  rawPayload : Json
  cvssV3Score : Option ℚ
  cvssV2Score : Option ℚ
  severity : Option Severity
  publishedAt : Instant
  lastModifiedAt : Instant

namespace CveRecord

/-- The row that is inserted. -/
def row (r : CveRecord) : MirrorRow :=
  ⟨⟨r.cvssV3Score, r.cvssV2Score, r.severity, none, false, r.publishedAt, none, none⟩, r.cveId,
    r.rawPayload⟩

/-- The `DO UPDATE SET` clause of `_UPSERT_SQL`, which does not assign to `published_at`. -/
def replace (r : CveRecord) : MirrorRow.Assignment :=
  .ofCve r.cveId fun c => { c with
    rawPayload := r.rawPayload
    cvssV3Score := r.cvssV3Score
    cvssV2Score := r.cvssV2Score
    severity := r.severity }

end CveRecord

namespace Mirror

/-- `UPDATE cves SET …`. -/
def update (m : Mirror) (a : MirrorRow.Assignment) : Mirror where
  rows := m.rows.map a.set
  uniqueCve := by
    rw [List.map_map, show MirrorRow.cveId ∘ a.set = MirrorRow.cveId from funext a.cveId_set]
    exact m.uniqueCve

@[simp] theorem get?_update (m : Mirror) (a : MirrorRow.Assignment) (cveId : String) :
    (m.update a).get? cveId = (m.get? cveId).map a.set := by
  have hkey : ((fun c : MirrorRow => c.cveId == cveId) ∘ a.set) = fun c => c.cveId == cveId :=
    funext fun c => by rw [Function.comp_apply, a.cveId_set]
  rw [get?, update, List.find?_map, hkey, get?]

end Mirror

/-! ### Runs of writers -/

/-- The database, with `cves.last_modified_at`. -/
structure Replica where
  system : System
  lastModifiedAt : String → Instant

/-- What writes the signals of a CVE or the score of a finding. The CVEs that a refresh is
about are those that it has an answer for; a vulnx refresh fails before it recomputes, or not. -/
inductive Writer
  | syncProduct (ctx : SyncContext) (productId : ℕ)
  | kevRefresh (catalog : List String)
  | epssRefresh (scores : List (String × ℚ))
  | upsertCve (record : CveRecord)
  | insertStub (record : CveRecord)
  | vulnxRefresh (r : Recompute) (intel : List (String × IntelRecord)) (fails : Bool)
  | intelRefresh (cveId : String) (intelRecord : IntelRecord)

/-- An update of `cves`. -/
def System.updateCves (s : System) (a : MirrorRow.Assignment) : System :=
  { s with cves := s.cves.update a }

/-- A new row of `cves`. -/
def Replica.insertCve (d : Replica) (record : CveRecord) : Replica where
  system := { d.system with cves := d.system.cves.insertMissing record.row }
  lastModifiedAt := Function.update d.lastModifiedAt record.cveId record.lastModifiedAt

/-- **One writer**, at a fixed time. -/
def Replica.write (now : Instant) (d : Replica) : Writer → Replica
  | .syncProduct ctx p => { d with system := (CveManagement.syncProduct ctx now p d.system).2 }
  | .kevRefresh catalog => { d with system := d.system.updateCves (MirrorRow.kev catalog) }
  | .epssRefresh scores => { d with system := d.system.updateCves (MirrorRow.epss scores) }
  | .upsertCve record =>
    if (d.system.cves.get? record.cveId).isNone then d.insertCve record
    -- a record is taken if it is later than the row
    else if d.lastModifiedAt record.cveId < record.lastModifiedAt then
      { system := d.system.updateCves record.replace
        lastModifiedAt := Function.update d.lastModifiedAt record.cveId record.lastModifiedAt }
    else d
  | .insertStub record =>
    if (d.system.cves.get? record.cveId).isNone then d.insertCve record else d
  | .vulnxRefresh r intel fails =>
    -- two transactions: the flags are committed before the scores are looked at
    let flagged := d.system.updateCves (MirrorRow.flags intel)
    { d with
      system := if fails then flagged
        else flagged.recomputeFindingPriorities now r (intel.map Prod.fst) }
  | .intelRefresh cveId intelRecord =>
    { d with system := d.system.updateCves (MirrorRow.flags [(cveId, intelRecord)]) }

/-- **Every score of an active finding is the score of its CVE.** -/
def Fresh (now : Instant) (s : System) : Prop :=
  ∀ f ∈ s.db.findings.rows, f.status.active = true → ∀ x, f.priorityScore = some x →
    ∀ c, s.cves.get? f.cveId = some c → x = (c.recomputePriority now : ℚ)

/-- `findings.cve_id REFERENCES cves(cve_id)`. -/
def System.ForeignKey (s : System) : Prop :=
  ∀ f ∈ s.db.findings.rows, (s.cves.get? f.cveId).isSome = true

/-- **The update changes no score** of a CVE that an active finding has a score for. -/
def KeepsScores (now : Instant) (s : System) (a : MirrorRow.Assignment) : Prop :=
  ∀ f ∈ s.db.findings.rows, f.status.active = true → f.priorityScore.isSome = true →
    ∀ c, s.cves.get? f.cveId = some c →
      (a.set c).recomputePriority now = c.recomputePriority now

/-- **The writer makes no score stale.** A sync scores as the recompute does each CVE for which
it writes an active finding; and any other writer that does not recompute changes no score. -/
def KeepsFresh (now : Instant) (d : Replica) : Writer → Prop
  | .syncProduct ctx p => ∀ cveId ∈ d.system.affecting ctx now p,
      (∀ f, d.system.db.findingAt p cveId = some f → f.status.active = true) →
      ∀ c, d.system.cves.get? cveId = some c → c.syncPriority now = c.recomputePriority now
  | .kevRefresh catalog => KeepsScores now d.system (MirrorRow.kev catalog)
  | .epssRefresh scores => KeepsScores now d.system (MirrorRow.epss scores)
  | .upsertCve record => d.lastModifiedAt record.cveId < record.lastModifiedAt →
      KeepsScores now d.system record.replace
  | .insertStub _ => True
  | .vulnxRefresh _ intel fails => fails = true →
      KeepsScores now d.system (MirrorRow.flags intel)
  | .intelRefresh cveId intelRecord =>
    KeepsScores now d.system (MirrorRow.flags [(cveId, intelRecord)])

/-! ### Updates of `cves` -/

section Updates

variable {now : Instant} {s : System} {a : MirrorRow.Assignment}

/-- **An update without a recompute keeps the scores fresh exactly if it changes none.** -/
theorem fresh_updateCves_iff (h : Fresh now s) :
    Fresh now (s.updateCves a) ↔ KeepsScores now s a := by
  constructor
  · -- the copy is the score before the update and after it
    intro hafter f hf hactive hscore c hc
    obtain ⟨x, hx⟩ := Option.isSome_iff_exists.mp hscore
    have hnew := hafter f hf hactive x hx (a.set c) (by
      rw [System.updateCves, Mirror.get?_update, hc, Option.map_some])
    have hold := h f hf hactive x hx c hc
    exact_mod_cast hnew.symm.trans hold
  · intro hkeep f hf hactive x hx c' hc'
    rw [System.updateCves, Mirror.get?_update] at hc'
    obtain ⟨c, hc, rfl⟩ := Option.map_eq_some_iff.mp hc'
    rw [hkeep f hf hactive (by rw [hx]; rfl) c hc]
    exact h f hf hactive x hx c hc

/-- A new row belongs to no finding. -/
theorem fresh_insertCve {d : Replica} {record : CveRecord} (hfk : d.system.ForeignKey)
    (h : Fresh now d.system) : Fresh now (d.insertCve record).system := by
  intro f hf hactive x hx c hc
  obtain ⟨c₀, hc₀⟩ := Option.isSome_iff_exists.mp (hfk f hf)
  have hsame : (d.insertCve record).system.cves.get? f.cveId = some c₀ := by
    rw [Replica.insertCve, Mirror.get?_insertMissing, hc₀, Option.some_or]
  have heq : c₀ = c := Option.some.inj (hsame.symm.trans hc)
  exact h f hf hactive x hx c (heq ▸ hc₀)

/-- A row of another CVE is not rewritten. -/
theorem set_each_of_notMem {α : Type} {params : List α} {key : α → String}
    {set : α → MirrorRow → MirrorRow} {hset : ∀ p c, (set p c).cveId = c.cveId} {c : MirrorRow}
    (hc : c.cveId ∉ params.map key) :
    (MirrorRow.Assignment.each params fun p =>
      MirrorRow.Assignment.ofCve (key p) (set p) (hset p)).set c = c := by
  rw [MirrorRow.Assignment.each]
  dsimp only
  induction params with
  | nil => rfl
  | cons p params ih =>
    obtain ⟨hp, hrest⟩ := not_or.mp (List.mem_cons.not.mp (List.map_cons ▸ hc))
    rw [List.foldl_cons, MirrorRow.Assignment.ofCve]
    dsimp only
    rw [if_neg hp]
    exact ih hrest

end Updates

/-! ### The recompute -/

section Recompute

variable {now : Instant} {s : System}

@[simp] theorem truncateScore_intCast (n : ℤ) : truncateScore (n : ℚ) = n := by
  rw [truncateScore, Int.floor_intCast, Int.ceil_intCast, ite_self]

/-- What a finding has become: its score is the old one, or one that was written for it. -/
def Rescored (us : List Rescoring) (f f' : Finding) : Prop :=
  f'.id = f.id ∧ f'.cveId = f.cveId ∧ f'.status = f.status ∧
    (f'.priorityScore = f.priorityScore ∧ (∀ u ∈ us, u.findingId ≠ f.id) ∨
      ∃ u ∈ us, u.findingId = f.id ∧ f'.priorityScore = some (u.newScore : ℚ))

/-- **The findings after the updates of a recompute.** -/
theorem rescored_of_mem (us : List Rescoring) {f' : Finding}
    (h : f' ∈ (us.foldl (fun s u => s.updatePriority now u) s).db.findings.rows) :
    ∃ f ∈ s.db.findings.rows, Rescored us f f' := by
  induction us generalizing s with
  | nil => exact ⟨f', h, rfl, rfl, rfl, .inl ⟨rfl, by simp⟩⟩
  | cons u us ih =>
    obtain ⟨g, hg, hid, hcve, hst, hscore⟩ := ih h
    obtain ⟨f, hf, rfl⟩ := Table.mem_update.mp hg
    refine ⟨f, hf, ?_⟩
    -- of several updates of one finding the last one counts
    by_cases hu : f.id = u.findingId
    · rw [if_pos (beq_iff_eq.mpr hu)] at hid hcve hst hscore
      refine ⟨hid, hcve, hst, .inr ?_⟩
      rcases hscore with ⟨hold, -⟩ | ⟨v, hv, hvid, hnew⟩
      · exact ⟨u, List.mem_cons_self, hu.symm, hold⟩
      · exact ⟨v, List.mem_cons_of_mem u hv, hvid, hnew⟩
    · rw [if_neg (by simpa using hu)] at hid hcve hst hscore
      refine ⟨hid, hcve, hst, ?_⟩
      rcases hscore with ⟨hold, hnone⟩ | ⟨v, hv, hvid, hnew⟩
      · exact .inl ⟨hold, List.forall_mem_cons.mpr ⟨fun h => hu h.symm, hnone⟩⟩
      · exact .inr ⟨v, List.mem_cons_of_mem u hv, hvid, hnew⟩

theorem cves_updatePriorities (us : List Rescoring) (s : System) :
    (us.foldl (fun s u => s.updatePriority now u) s).cves = s.cves := by
  induction us generalizing s with
  | nil => rfl
  | cons u us ih => exact ih _

/-- **A recompute makes the scores of its CVEs fresh**, if the others are fresh already and
no score has a fraction. -/
theorem fresh_recompute (r : Recompute) (cveIds : List String)
    (hothers : ∀ f ∈ s.db.findings.rows, f.cveId ∉ cveIds → f.status.active = true →
      ∀ x, f.priorityScore = some x → ∀ c, s.cves.get? f.cveId = some c →
        x = (c.recomputePriority now : ℚ))
    (hintegral : ∀ f ∈ s.db.findings.rows, f.status.active = true →
      ∀ x, f.priorityScore = some x → ∃ n : ℤ, x = n) :
    Fresh now (s.recomputeFindingPriorities now r cveIds) := by
  intro f' hf' hactive x hx c hc
  rw [System.recomputeFindingPriorities, cves_updatePriorities] at hc
  obtain ⟨f, hf, hid, hcve, hst, hscore⟩ := rescored_of_mem _ hf'
  rw [hcve] at hc
  rw [hst] at hactive
  rw [r.score_eq] at hscore
  rcases hscore with ⟨hold, hnone⟩ | ⟨u, hu, huid, hnew⟩
  · rw [hold] at hx
    by_cases hids : f.cveId ∈ cveIds
    · -- the score was what the recompute would have written
      have hselect : f ∈ s.db.findings.select fun f =>
          cveIds.contains f.cveId && f.status.active :=
        Table.mem_select.mpr ⟨hf, by simp [hids, hactive]⟩
      obtain ⟨n, rfl⟩ := hintegral f hf hactive x hx
      by_contra hne
      have hupdate : f.rescoring (CveSignals.recomputePriority now) s.cves =
          some ⟨c.recomputePriority now, f.id⟩ := by
        rw [Finding.rescoring, hc, Option.bind_some]
        dsimp only
        rw [if_neg]
        rw [hx, Option.map_some, truncateScore_intCast]
        exact fun h => hne (by exact_mod_cast Option.some.inj h)
      exact hnone _ (List.mem_filterMap.mpr ⟨f, hselect, hupdate⟩) rfl
    · exact hothers f hf hids hactive x hx c hc
  · -- the score was written, from the row of this CVE
    obtain ⟨g, hg, hrescoring⟩ := List.mem_filterMap.mp hu
    obtain ⟨hgmem, -⟩ := Table.mem_select.mp hg
    obtain ⟨c', hc', hupdate⟩ := Option.bind_eq_some_iff.mp hrescoring
    dsimp only at hupdate
    split_ifs at hupdate
    cases hupdate
    obtain rfl : g = f := Table.eq_of_key hgmem hf huid
    obtain rfl : c' = c := Option.some.inj (hc'.symm.trans hc)
    rw [hnew] at hx
    exact (Option.some.inj hx).symm

/-- **A vulnx refresh that does not fail keeps the scores fresh.** -/
theorem fresh_vulnxRefresh (r : Recompute) (intel : List (String × IntelRecord))
    (h : Fresh now s) (hfk : s.ForeignKey) :
    Fresh now ((s.updateCves (MirrorRow.flags intel)).recomputeFindingPriorities now r
      (intel.map Prod.fst)) := by
  refine fresh_recompute r _ (fun f hf hids hactive x hx c hc => ?_)
    fun f hf hactive x hx => ?_
  · -- a CVE without an answer has the flags that it had
    rw [System.updateCves, Mirror.get?_update] at hc
    obtain ⟨c₀, hc₀, rfl⟩ := Option.map_eq_some_iff.mp hc
    have hsame : (MirrorRow.flags intel).set c₀ = c₀ :=
      set_each_of_notMem (by rwa [(Mirror.get?_eq_some.mp hc₀).2])
    rw [hsame]
    exact h f hf hactive x hx c₀ hc₀
  · obtain ⟨c₀, hc₀⟩ := Option.isSome_iff_exists.mp (hfk f hf)
    exact ⟨_, h f hf hactive x hx c₀ hc₀⟩

end Recompute

/-! ### The sync -/

section Sync

variable {now : Instant} {ctx : SyncContext} {productId : ℕ} {s : System}

/-- A finding that no row of the sync is about is as it was. -/
theorem mem_of_mem_upsertFindings (rows : List FindingRow) {s : System} {f : Finding}
    (h : f ∈ (s.upsertFindings now productId rows).db.findings.rows) :
    f ∈ s.db.findings.rows ∨ f.productId = productId ∧ ∃ row ∈ rows, f.cveId = row.cveId := by
  induction rows generalizing s with
  | nil => exact .inl h
  | cons row rows ih =>
    rcases ih h with hmem | ⟨hp, row', hrow', hc⟩
    · rw [db_upsertFinding] at hmem
      rcases hat : s.db.findingAt productId row.cveId with _ | g
      · rw [rows_upsertRow_of_none hat] at hmem
        rcases List.mem_append.mp hmem with hold | hnew
        · exact .inl hold
        · rw [List.mem_singleton.mp hnew]
          exact .inr ⟨rfl, row, List.mem_cons_self, rfl⟩
      · rw [rows_upsertRow_of_some hat] at hmem
        obtain ⟨f₀, hf₀, rfl⟩ := List.mem_map.mp hmem
        unfold Finding.upserted
        split_ifs with hcond
        · exact .inr ⟨hcond.1, row, List.mem_cons_self, hcond.2.1⟩
        · exact .inl hf₀
    · exact .inr ⟨hp, row', List.mem_cons_of_mem row hrow', hc⟩

/-- The status of a finding after the upserts is the one it had, or `open`. -/
theorem status_of_mem_upsertFindings {rows : List FindingRow} {f : Finding}
    (h : f ∈ (s.upsertFindings now productId rows).db.findings.rows) :
    (∃ g, s.db.findingAt f.productId f.cveId = some g ∧ g.status = f.status) ∨
      s.db.findingAt f.productId f.cveId = none ∧ f.status = .opened := by
  have hentry : (f.target, f.status) ∈ (s.upsertFindings now productId rows).db.column .status :=
    List.mem_map.mpr ⟨f, h, rfl⟩
  rw [column_upsertFindings] at hentry
  rcases mem_enterAll.mp hentry with hold | ⟨-, hnot, hopen⟩
  · obtain ⟨g, hg, heq⟩ := List.mem_map.mp hold
    obtain ⟨htarget, hst⟩ := Prod.mk.inj heq
    exact .inl ⟨g, findingAt_of_mem hg htarget, hst⟩
  · refine .inr ⟨?_, hopen⟩
    cases hat : s.db.findingAt f.productId f.cveId with
    | none => rfl
    | some g => exact absurd (mem_keys_column.mpr (by rw [hat]; rfl)) hnot

/-- A finding is active after the upserts exactly if it was before, or is new. -/
theorem active_iff_of_mem_upsertFindings {rows : List FindingRow} {f : Finding}
    (h : f ∈ (s.upsertFindings now productId rows).db.findings.rows) :
    f.status.active = true ↔
      ∀ g, s.db.findingAt f.productId f.cveId = some g → g.status.active = true := by
  rcases status_of_mem_upsertFindings h with ⟨g, hg, hst⟩ | ⟨hnone, hopen⟩
  · simp only [hg, hst, Option.some.injEq, forall_eq']
  · rw [hnone, hopen]
    refine iff_of_true rfl fun g hg => ?_
    cases hg

/-- An active finding of a row that is in place has the row's priority. -/
theorem score_of_settled {db : Db} {row : FindingRow} {f : Finding} (h : Settled productId db row)
    (hf : f ∈ db.findings.rows) (hp : f.productId = productId) (hc : f.cveId = row.cveId)
    (hactive : f.status.active = true) : f.priorityScore = some (row.priority : ℚ) := by
  rcases h.2 f hf hp hc with hheld | ⟨-, -, hscore⟩
  · rw [FindingStatus.not_held_of_active hactive] at hheld
    cases hheld
  · exact hscore

/-- **The upserts of a sync keep the scores fresh exactly if** they write, to active findings,
what the recompute would write. -/
theorem fresh_upsertFindings_iff {rows : List FindingRow} (hone : OneRowEach rows)
    (hrows : ∀ row ∈ rows, ∃ c ∈ s.cves.rows, c.cveId = row.cveId ∧
      row.priority = c.syncPriority now) (h : Fresh now s) :
    Fresh now (s.upsertFindings now productId rows) ↔ ∀ row ∈ rows,
      (∀ f, s.db.findingAt productId row.cveId = some f → f.status.active = true) →
      ∀ c, s.cves.get? row.cveId = some c → c.syncPriority now = c.recomputePriority now := by
  have hcves : (s.upsertFindings now productId rows).cves = s.cves :=
    (frame_upsertFindings s now productId rows).2.1
  have hset : ∀ row ∈ rows, Settled productId (s.upsertFindings now productId rows).db row :=
    settled_upsertFindings hone (List.Subset.refl rows) s
  have hpriority : ∀ row ∈ rows, ∀ c, s.cves.get? row.cveId = some c →
      row.priority = c.syncPriority now := by
    intro row hrow c hc
    obtain ⟨c₀, hmem, hid, hp⟩ := hrows row hrow
    obtain rfl : c₀ = c := Option.some.inj ((Mirror.get?_eq_some.mpr ⟨hmem, hid⟩).symm.trans hc)
    exact hp
  constructor
  · -- the row has been written to an active finding, and that one is fresh
    intro hafter row hrow hact c hc
    obtain ⟨f, hf, hfp, hfc⟩ := (hset row hrow).1
    have hactive : f.status.active = true := by
      rw [active_iff_of_mem_upsertFindings hf, hfp, hfc]
      exact hact
    have hscore := score_of_settled (hset row hrow) hf hfp hfc hactive
    have hfresh := hafter f hf hactive _ hscore c (by rw [hcves, hfc, hc])
    rw [← hpriority row hrow c hc]
    exact_mod_cast hfresh
  · -- a finding is as it was, or has the values of a row
    intro hcond f hf hactive x hx c hc
    rw [hcves] at hc
    rcases mem_of_mem_upsertFindings rows hf with hold | ⟨hp, row, hrow, hfc⟩
    · exact h f hold hactive x hx c hc
    · have hact := (active_iff_of_mem_upsertFindings hf).mp hactive
      rw [hp, hfc] at hact
      rw [hfc] at hc
      rw [score_of_settled (hset row hrow) hf hp hfc hactive] at hx
      rw [← Option.some.inj hx, hpriority row hrow c hc, hcond row hrow hact c hc]

/-- **When a sync keeps the scores fresh.** -/
theorem fresh_syncProduct_iff (h : Fresh now s) :
    Fresh now (syncProduct ctx now productId s).2 ↔ ∀ cveId ∈ s.affecting ctx now productId,
      (∀ f, s.db.findingAt productId cveId = some f → f.status.active = true) →
      ∀ c, s.cves.get? cveId = some c → c.syncPriority now = c.recomputePriority now := by
  rcases syncProduct_affecting s ctx now productId with
    ⟨hnone, hfindings, hcves⟩ | ⟨product, rows, hmatches, hrows, hend⟩
  · rw [hnone, Fresh, hfindings, hcves]
    exact iff_of_true h (by simp)
  · obtain ⟨candidates, hsubset, hmem⟩ := matches_eq_ok hmatches
    have hpriority : ∀ row ∈ rows, ∃ c ∈ s.cves.rows, c.cveId = row.cveId ∧
        row.priority = c.syncPriority now := by
      intro row hrow
      obtain ⟨c, hc, result, -, -, rfl⟩ := (hmem row).mp hrow
      exact ⟨c, hsubset hc, rfl, rfl⟩
    rw [hrows, hend, List.forall_mem_map]
    exact fresh_upsertFindings_iff (s := s.updateStatus now .syncing productId)
      (oneRowEach_of_matches hmatches) hpriority h

/-- A sync writes findings of rows of the mirror. -/
theorem foreignKey_syncProduct (hfk : s.ForeignKey) :
    (syncProduct ctx now productId s).2.ForeignKey := by
  rcases syncProduct_affecting s ctx now productId with
    ⟨-, hfindings, hcves⟩ | ⟨product, rows, hmatches, -, hend⟩
  · rw [System.ForeignKey, hfindings, hcves]
    exact hfk
  · obtain ⟨candidates, hsubset, hmem⟩ := matches_eq_ok hmatches
    have hcves := (frame_upsertFindings (s.updateStatus now .syncing productId) now productId
      rows).2.1
    intro f hf
    rw [hend] at hf ⊢
    have hget : ((s.updateStatus now .syncing productId).upsertFindings now productId
        rows).cves.get? f.cveId = s.cves.get? f.cveId := by rw [hcves]; rfl
    refine (congrArg Option.isSome hget).trans ?_
    rcases mem_of_mem_upsertFindings rows hf with hold | ⟨-, row, hrow, hfc⟩
    · exact hfk f hold
    · obtain ⟨c, hc, result, -, -, rfl⟩ := (hmem row).mp hrow
      rw [hfc]
      exact Option.isSome_iff_exists.mpr ⟨c, Mirror.get?_of_mem (hsubset hc)⟩

end Sync

/-! ### All writers -/

section Write

variable {now : Instant} {d : Replica}

theorem foreignKey_updateCves {s : System} {a : MirrorRow.Assignment} (hfk : s.ForeignKey) :
    (s.updateCves a).ForeignKey := by
  intro f hf
  rw [System.updateCves, Mirror.get?_update, Option.isSome_map]
  exact hfk f hf

theorem foreignKey_insertCve {record : CveRecord} (hfk : d.system.ForeignKey) :
    (d.insertCve record).system.ForeignKey := by
  intro f hf
  rw [Replica.insertCve, Mirror.get?_insertMissing, Option.isSome_or, hfk f hf, Bool.true_or]

/-- The foreign key holds in every state. -/
theorem foreignKey_write (w : Writer) (hfk : d.system.ForeignKey) :
    (d.write now w).system.ForeignKey := by
  cases w with
  | syncProduct ctx p => exact foreignKey_syncProduct hfk
  | kevRefresh catalog => exact foreignKey_updateCves hfk
  | epssRefresh scores => exact foreignKey_updateCves hfk
  | upsertCve record =>
    rw [Replica.write]
    split_ifs
    · exact foreignKey_insertCve hfk
    · exact foreignKey_updateCves hfk
    · exact hfk
  | insertStub record =>
    rw [Replica.write]
    split_ifs
    · exact foreignKey_insertCve hfk
    · exact hfk
  | vulnxRefresh r intel fails =>
    rw [Replica.write]
    dsimp only
    split_ifs
    · exact foreignKey_updateCves hfk
    · intro f' hf'
      obtain ⟨f, hf, -, hcve, -, -⟩ := rescored_of_mem _ hf'
      rw [System.recomputeFindingPriorities, cves_updatePriorities, hcve]
      exact foreignKey_updateCves hfk f hf
  | intelRefresh cveId intelRecord => exact foreignKey_updateCves hfk

/-- An upsert of a CVE without row changes no score. -/
theorem keepsScores_replace {s : System} {record : CveRecord}
    (hnone : s.cves.get? record.cveId = none) : KeepsScores now s record.replace := by
  intro f _ _ _ c hc
  have hne : c.cveId ≠ record.cveId :=
    Mirror.get?_eq_none.mp hnone c (Mirror.get?_eq_some.mp hc).1
  have hsame : record.replace.set c = c := if_neg hne
  rw [hsame]

/-- **One writer keeps the scores fresh exactly if** it makes none stale. -/
theorem fresh_write_iff (w : Writer) (hfk : d.system.ForeignKey) (h : Fresh now d.system) :
    Fresh now (d.write now w).system ↔ KeepsFresh now d w := by
  cases w with
  | syncProduct ctx p => exact fresh_syncProduct_iff h
  | kevRefresh catalog => exact fresh_updateCves_iff h
  | epssRefresh scores => exact fresh_updateCves_iff h
  | upsertCve record =>
    rw [Replica.write, KeepsFresh]
    split_ifs with hnone hlater
    · exact iff_of_true (fresh_insertCve hfk h) fun _ =>
        keepsScores_replace (Option.isNone_iff_eq_none.mp hnone)
    · exact (fresh_updateCves_iff h).trans ⟨fun hkeep _ => hkeep, fun hkeep => hkeep hlater⟩
    · exact iff_of_true h fun hlater' => absurd hlater' hlater
  | insertStub record =>
    refine iff_of_true ?_ trivial
    rw [Replica.write]
    split_ifs
    · exact fresh_insertCve hfk h
    · exact h
  | vulnxRefresh r intel fails =>
    rw [Replica.write, KeepsFresh]
    dsimp only
    cases fails with
    | true =>
      rw [if_pos rfl]
      exact (fresh_updateCves_iff h).trans ⟨fun hkeep _ => hkeep, fun hkeep => hkeep rfl⟩
    | false =>
      rw [if_neg Bool.false_ne_true]
      exact iff_of_true (fresh_vulnxRefresh r intel h hfk) fun hfails => nomatch hfails
  | intelRefresh cveId intelRecord => exact fresh_updateCves_iff h

end Write

/-- **The scores are fresh throughout a run exactly if no writer of the run makes one stale.** -/
theorem fresh_run_iff (now : Instant) (d : Replica) (hfk : d.system.ForeignKey)
    (hfresh : Fresh now d.system) (l : List Writer) :
    Throughout (Replica.write now) (fun d => Fresh now d.system) d l ↔
      AllSteps (Replica.write now) (KeepsFresh now) d l := by
  have hstep : ∀ (d : Replica) (w : Writer), d.system.ForeignKey → Fresh now d.system →
      (Fresh now (d.write now w).system ↔ KeepsFresh now d w) :=
    fun _ w hd h => fresh_write_iff w hd h
  have hkey : ∀ (d : Replica) (w : Writer), d.system.ForeignKey →
      (d.write now w).system.ForeignKey := fun _ w hd => foreignKey_write w hd
  exact throughout_iff_allSteps hkey hstep hfk hfresh

/-! ### A score that gets stale -/

/-- A product with an open finding, of a CVE that was published on this day and nothing more
is known of. -/
def Replica.scored : Replica where
  system :=
    { db := upsertFinding 0 1 "CVE-2024-0001" .certain "" 10 .sample
      cves := .single (.bare "CVE-2024-0001")
      syncColumns := fun _ => ⟨.synced, some 0⟩
      syncJobs := .empty }
  lastModifiedAt _ := 0

theorem foreignKey_scored : Replica.scored.system.ForeignKey := by
  intro f hf
  obtain rfl := List.mem_singleton.mp hf
  rfl

theorem fresh_scored : Fresh 10 Replica.scored.system := by
  intro f hf _ x hx c hc
  obtain rfl := List.mem_singleton.mp hf
  obtain rfl := Option.some.inj hx
  obtain rfl := Option.some.inj hc
  decide +kernel

/-- **The CVE gets into the KEV catalog, and its finding keeps the score.** -/
theorem not_fresh_run : Replica.scored.system.ForeignKey ∧ Fresh 10 Replica.scored.system ∧
    ¬Throughout (Replica.write 10) (fun d => Fresh 10 d.system) .scored
      [.kevRefresh ["CVE-2024-0001"]] := by
  refine ⟨foreignKey_scored, fresh_scored, fun hrun => ?_⟩
  have hstale := hrun.last _ List.mem_cons_self rfl _ rfl _ rfl
  exact absurd hstale (by decide +kernel)

/-- The characterisation, at that run. -/
theorem fresh_run_scored :
    Throughout (Replica.write 10) (fun d => Fresh 10 d.system) .scored
        [.kevRefresh ["CVE-2024-0001"]] ↔
      AllSteps (Replica.write 10) (KeepsFresh 10) .scored [.kevRefresh ["CVE-2024-0001"]] :=
  fresh_run_iff 10 .scored foreignKey_scored fresh_scored _

end CveManagement
