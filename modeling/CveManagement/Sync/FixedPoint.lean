import CveManagement.Sync.Automation
import Mathlib

/-!
# A sync is a fixed point

A second `sync_product` at the same instant, on the same mirror, writes what is there
already. The query may return tied candidates in another order, so the findings may be
written in another order; but as long as no candidate is cut off, they are the same findings
(`CveManagement.matches_of_order`), and each finds its values in place
(`CveManagement.Settled`).
-/

namespace CveManagement

open Trajectory

/-! ### The same database, up to timestamps -/

/-- A finding without the time of its last update. -/
def Finding.untimed (f : Finding) : Finding := { f with updatedAt := 0 }

/-- A product without the time of its last update. -/
def Product.untimed (p : Product) : Product := { p with updatedAt := 0 }

/-- **No column differs, timestamps apart.** -/
structure SameButTimes (s s' : System) : Prop where
  products : s'.db.products.rows.map Product.untimed = s.db.products.rows.map Product.untimed
  findings : s'.db.findings.rows.map Finding.untimed = s.db.findings.rows.map Finding.untimed
  findingsHistory : s'.db.findingsHistory = s.db.findingsHistory
  riskAcceptances : s'.db.riskAcceptances = s.db.riskAcceptances
  auditLog : s'.db.auditLog = s.db.auditLog
  cves : s'.cves = s.cves
  syncStatus : ∀ p, (s'.syncColumns p).syncStatus = (s.syncColumns p).syncStatus
  syncJobs : s'.syncJobs = s.syncJobs

/-! ### One finding, written twice -/

section Upsert

variable {now : Instant} {productId : ℕ} {row row' : FindingRow} {db : Db}

/-- `_FINDING_UPSERT_SQL` with the values of a row. -/
def Db.upsertRow (now : Instant) (productId : ℕ) (row : FindingRow) (db : Db) : Db :=
  upsertFinding now productId row.cveId row.confidence row.reason row.priority db

/-- The finding has the values of the row. -/
def FindingRow.SetOn (row : FindingRow) (f : Finding) : Prop :=
  f.matchConfidence = some row.confidence ∧ f.matchReason = some row.reason ∧
    f.priorityScore = some (row.priority : ℚ)

/-- **The row is in place**: its finding exists, and has its values unless it is held. -/
def Settled (productId : ℕ) (db : Db) (row : FindingRow) : Prop :=
  (∃ f ∈ db.findings.rows, f.productId = productId ∧ f.cveId = row.cveId) ∧
    ∀ f ∈ db.findings.rows, f.productId = productId → f.cveId = row.cveId →
      f.status.held = true ∨ row.SetOn f

theorem findingAt_eq_none_iff {cveId : String} : db.findingAt productId cveId = none ↔
    ∀ f ∈ db.findings.rows, f.productId = productId → f.cveId ≠ cveId := by
  simp [Db.findingAt, Table.find, List.find?_eq_none]

/-- The rows that an insertion of a new finding leaves. -/
theorem rows_insertFinding {new : ℕ → Finding} {hid : ∀ n, (new n).id = n}
    (h : (new db.findings.seq).target ∉ db.findings.rows.map Finding.target) :
    (db.insertFinding new hid).findings.rows = db.findings.rows ++ [new db.findings.seq] := by
  unfold Db.insertFinding
  rw [dif_neg h]
  rfl

/-- The rows that an upsert of a new finding leaves. -/
theorem rows_upsertRow_of_none (h : db.findingAt productId row.cveId = none) :
    (db.upsertRow now productId row).findings.rows = db.findings.rows ++
      [newFinding now productId row.cveId row.confidence row.reason (some (row.priority : ℚ))
        db.findings.seq] := by
  have hfresh : (productId, row.cveId) ∉ db.findings.rows.map Finding.target := by
    intro hmem
    obtain ⟨f, hf, hft⟩ := List.mem_map.mp hmem
    obtain ⟨hp, hc⟩ := Prod.mk.inj hft
    exact findingAt_eq_none_iff.mp h f hf hp hc
  rw [Db.upsertRow, upsertFinding, h]
  exact rows_insertFinding hfresh

/-- What an upsert makes of a finding that exists. -/
def Finding.upserted (now : Instant) (productId : ℕ) (row : FindingRow) (f : Finding) : Finding :=
  if f.productId = productId ∧ f.cveId = row.cveId ∧ f.status.held = false then
    (Finding.rematch now row.confidence row.reason row.priority).set f
  else f

/-- The rows that an upsert of an existing finding leaves. -/
theorem rows_upsertRow_of_some {f : Finding} (h : db.findingAt productId row.cveId = some f) :
    (db.upsertRow now productId row).findings.rows =
      db.findings.rows.map (Finding.upserted now productId row) := by
  rw [Db.upsertRow, upsertFinding, h]
  refine List.map_congr_left fun g _ => ?_
  rw [Finding.upserted]
  refine if_congr ?_ rfl rfl
  rw [Bool.and_eq_true, Bool.and_eq_true, beq_iff_eq, beq_iff_eq, Bool.not_eq_true',
    FindingStatus.held, and_assoc]

theorem target_upserted (f : Finding) :
    (f.upserted now productId row).productId = f.productId ∧
      (f.upserted now productId row).cveId = f.cveId ∧
      (f.upserted now productId row).status = f.status := by
  unfold Finding.upserted
  split_ifs <;> exact ⟨rfl, rfl, rfl⟩

/-- **An upsert puts its row in place.** -/
theorem settled_upsertRow : Settled productId (db.upsertRow now productId row) row := by
  rcases hf : db.findingAt productId row.cveId with _ | f
  · have hnone := findingAt_eq_none_iff.mp hf
    -- the inserted finding is the only one of its target
    rw [Settled, rows_upsertRow_of_none hf]
    refine ⟨⟨_, List.mem_append_right _ (List.mem_singleton_self _), rfl, rfl⟩, ?_⟩
    intro g hg hp hc
    rcases List.mem_append.mp hg with hg | hg
    · exact absurd hc (hnone g hg hp)
    · rw [List.mem_singleton.mp hg]
      exact .inr ⟨rfl, rfl, rfl⟩
  · obtain ⟨hmem, hp, hc⟩ := Db.findingAt_mem hf
    rw [Settled, rows_upsertRow_of_some hf]
    constructor
    · exact ⟨_, List.mem_map_of_mem hmem, (target_upserted f).1.trans hp,
        (target_upserted f).2.1.trans hc⟩
    · -- the finding is held, or has been given the values
      intro g hg hgp hgc
      obtain ⟨g₀, -, rfl⟩ := List.mem_map.mp hg
      rw [(target_upserted g₀).1] at hgp
      rw [(target_upserted g₀).2.1] at hgc
      rw [(target_upserted g₀).2.2]
      rcases Bool.eq_false_or_eq_true g₀.status.held with hheld | hheld
      · exact .inl hheld
      · rw [Finding.upserted, if_pos ⟨hgp, hgc, hheld⟩]
        exact .inr ⟨rfl, rfl, rfl⟩

/-- An upsert of another CVE leaves the row in place. -/
theorem settled_upsertRow_of_ne (hne : row.cveId ≠ row'.cveId) (h : Settled productId db row') :
    Settled productId (db.upsertRow now productId row) row' := by
  obtain ⟨⟨f, hf, hfp, hfc⟩, hall⟩ := h
  rcases hat : db.findingAt productId row.cveId with _ | g
  · rw [Settled, rows_upsertRow_of_none hat]
    refine ⟨⟨f, List.mem_append_left _ hf, hfp, hfc⟩, ?_⟩
    intro g hg hp hc
    rcases List.mem_append.mp hg with hg | hg
    · exact hall g hg hp hc
    · rw [List.mem_singleton.mp hg] at hc
      exact absurd hc hne
  · -- a finding of the other CVE is not rewritten
    have hsame : ∀ g : Finding, g.cveId = row'.cveId → g.upserted now productId row = g := by
      intro g hg
      rw [Finding.upserted, if_neg]
      exact fun h => hne (h.2.1.symm.trans hg)
    rw [Settled, rows_upsertRow_of_some hat]
    refine ⟨⟨f, List.mem_map.mpr ⟨f, hf, hsame f hfc⟩, hfp, hfc⟩, ?_⟩
    intro g hg hp hc
    obtain ⟨g₀, hg₀, rfl⟩ := List.mem_map.mp hg
    have hc₀ : g₀.cveId = row'.cveId := (target_upserted g₀).2.1.symm.trans hc
    rw [hsame g₀ hc₀] at hp ⊢
    exact hall g₀ hg₀ hp hc₀

/-- **An upsert of a row in place changes nothing but timestamps.** -/
theorem untimed_upsertRow (h : Settled productId db row) :
    (db.upsertRow now productId row).findings.rows.map Finding.untimed =
      db.findings.rows.map Finding.untimed := by
  obtain ⟨⟨f, hf, hfp, hfc⟩, hall⟩ := h
  rcases hat : db.findingAt productId row.cveId with _ | g
  · exact absurd hfc (findingAt_eq_none_iff.mp hat f hf hfp)
  · rw [rows_upsertRow_of_some hat, List.map_map]
    refine List.map_congr_left fun g hg => ?_
    rw [Function.comp_apply, Finding.upserted]
    split_ifs with hcond
    · obtain ⟨hp, hc, hheld⟩ := hcond
      rcases hall g hg hp hc with hh | ⟨hconfidence, hreason, hscore⟩
      · exact absurd (hh.symm.trans hheld) (by decide)
      · simp only [Finding.untimed, Finding.rematch, ← hconfidence, ← hreason, ← hscore]
    · rfl

end Upsert

/-! ### Many findings, written twice -/

section Upserts

variable {now : Instant} {productId : ℕ} {rows : List FindingRow} {s : System}

theorem db_upsertFinding (row : FindingRow) :
    (s.upsertFinding now productId row).db = s.db.upsertRow now productId row := rfl

/-- The rows of one sync: a CVE has one row. -/
def OneRowEach (rows : List FindingRow) : Prop :=
  ∀ row ∈ rows, ∀ row' ∈ rows, row.cveId = row'.cveId → row = row'

/-- A row in place stays so under the upserts of one sync. -/
theorem settled_upsertFinding {row row' : FindingRow} (hone : OneRowEach rows) (hrow : row ∈ rows)
    (hrow' : row' ∈ rows) (h : Settled productId s.db row') :
    Settled productId (s.upsertFinding now productId row).db row' := by
  rw [db_upsertFinding]
  by_cases hc : row.cveId = row'.cveId
  · rw [hone row hrow row' hrow' hc]
    exact settled_upsertRow
  · exact settled_upsertRow_of_ne hc h

/-- **The upserts of a sync put all its rows in place.** -/
theorem settled_upsertFindings (hone : OneRowEach rows) {l : List FindingRow} (hl : l ⊆ rows)
    (s : System) : ∀ row ∈ l, Settled productId (s.upsertFindings now productId l).db row := by
  -- from the last upsert backwards: it sets its own row, and spares those set before
  induction l using List.reverseRecOn with
  | nil => exact fun row h => absurd h List.not_mem_nil
  | append_singleton l last ih =>
    intro row hrow
    have hlast : last ∈ rows := hl (List.mem_append_right l (List.mem_singleton_self last))
    rw [System.upsertFindings, List.foldl_append, List.foldl_cons, List.foldl_nil]
    rcases List.mem_append.mp hrow with h | h
    · have hset := ih (fun r hr => hl (List.mem_append_left _ hr)) row h
      exact settled_upsertFinding hone hlast (hl hrow) hset
    · rw [List.mem_singleton.mp h]
      exact settled_upsertRow

/-- **Upserts of rows in place change nothing but timestamps.** -/
theorem untimed_upsertFindings (hone : OneRowEach rows)
    (hset : ∀ row ∈ rows, Settled productId s.db row) {l : List FindingRow} (hl : l ⊆ rows) :
    (s.upsertFindings now productId l).db.findings.rows.map Finding.untimed =
      s.db.findings.rows.map Finding.untimed := by
  induction l generalizing s with
  | nil => rfl
  | cons row l ih =>
    have hrow : row ∈ rows := hl List.mem_cons_self
    have hnext : ∀ row' ∈ rows,
        Settled productId (s.upsertFinding now productId row).db row' := fun row' hrow' =>
      settled_upsertFinding hone hrow hrow' (hset row' hrow')
    exact (ih hnext fun r hr => hl (List.mem_cons_of_mem row hr)).trans
      (untimed_upsertRow (hset row hrow))

/-- What upserts do not write. -/
theorem tables_upsertFindings (l : List FindingRow) (s : System) :
    (s.upsertFindings now productId l).db.findingsHistory = s.db.findingsHistory ∧
      (s.upsertFindings now productId l).db.riskAcceptances = s.db.riskAcceptances ∧
      (s.upsertFindings now productId l).db.auditLog = s.db.auditLog := by
  have hinsert : ∀ (db : Db) (new : ℕ → Finding) (hid : ∀ n, (new n).id = n),
      (db.insertFinding new hid).findingsHistory = db.findingsHistory ∧
        (db.insertFinding new hid).riskAcceptances = db.riskAcceptances ∧
        (db.insertFinding new hid).auditLog = db.auditLog := by
    intro db new hid
    unfold Db.insertFinding
    split_ifs <;> exact ⟨rfl, rfl, rfl⟩
  have hone : ∀ (db : Db) (row : FindingRow),
      (db.upsertRow now productId row).findingsHistory = db.findingsHistory ∧
        (db.upsertRow now productId row).riskAcceptances = db.riskAcceptances ∧
        (db.upsertRow now productId row).auditLog = db.auditLog := by
    intro db row
    unfold Db.upsertRow upsertFinding
    split
    · exact hinsert db _ _
    · exact ⟨rfl, rfl, rfl⟩
  induction l generalizing s with
  | nil => exact ⟨rfl, rfl, rfl⟩
  | cons row l ih =>
    obtain ⟨hhistory, hacceptances, haudit⟩ := ih (s.upsertFinding now productId row)
    obtain ⟨hhistory', hacceptances', haudit'⟩ := hone s.db row
    exact ⟨hhistory.trans hhistory', hacceptances.trans hacceptances', haudit.trans haudit'⟩

end Upserts

/-! ### The same candidates, in another order -/

section Candidates

variable {py : PyText} {now : Instant} {product product' : Product}

/-- The columns of a product that the matcher reads are the same. -/
structure SameIdentity (product product' : Product) : Prop where
  name : product'.name = product.name
  vendor : product'.vendor = product.vendor
  version : product'.version = product.version
  normalizedCpe : product'.normalizedCpe = product.normalizedCpe

theorem buildSearchPattern_congr (h : SameIdentity product product') :
    buildSearchPattern py product' = buildSearchPattern py product := by
  have hfields : searchFields py product' = searchFields py product := by
    unfold searchFields
    rw [h.name, h.vendor, h.normalizedCpe]
  exact congrArg (fun fields : Text × Text => "cpe:2.3:%:".toList ++ fields.1 ++ ":".toList ++
    fields.2 ++ ":%".toList) hfields

theorem judgeEntries_congr (h : SameIdentity product product') (installed : Text) (found : Bool)
    (cpes : List Json) : judgeEntries py product' installed found cpes =
      judgeEntries py product installed found cpes := by
  have hmatches : productMatchesCpe py product' = productMatchesCpe py product := by
    funext cpe
    simp only [productMatchesCpe, slugsMatch, h.name, h.vendor, h.normalizedCpe]
  have hentry : judgeEntry py product' = judgeEntry py product := by
    funext installed entry
    simp only [judgeEntry, hmatches]
  induction cpes generalizing found with
  | nil => rfl
  | cons entry rest ih => simp only [judgeEntries, hentry, ih]

theorem judgeCandidate_congr (h : SameIdentity product product') (c : MirrorRow) :
    judgeCandidate py product' c = judgeCandidate py product c := by
  simp only [judgeCandidate, isCveAffectingProduct, h.version, judgeEntries_congr h]

/-- A query that has a result returns rows of the table. -/
theorem subset_of_candidateRows {ρ : Type} {cf : CaseFold} {pattern : Text} {payload : ρ → Json}
    {rows found : List ρ} (h : candidateRows cf pattern payload rows = .ok found) :
    found ⊆ rows := by
  induction rows generalizing found with
  | nil =>
    cases h
    exact List.Subset.refl _
  | cons r rows ih =>
    rw [candidateRows] at h
    rcases hr : existsEntry cf pattern (payload r) with e | fits
    · rw [hr] at h
      cases h
    · rcases hrest : candidateRows cf pattern payload rows with e | rest
      · rw [hr, hrest] at h
        cases h
      · rw [hr, hrest] at h
        obtain rfl := Except.ok.inj h
        split_ifs
        · exact List.cons_subset_cons r (ih hrest)
        · exact List.subset_cons_of_subset r (ih hrest)

theorem perm_insertionSort_arrange (order : RowOrder MirrorRow) (rows : List MirrorRow) :
    ((order.arrange rows).insertionSort fun a b => v3Before a b = true).Perm rows :=
  (List.perm_insertionSort _ _).trans (order.perm rows)

/-- The limit drops rows and adds none. -/
theorem subset_sorted (ctx : SyncContext) (rows : List MirrorRow) : ctx.sorted rows ⊆ rows :=
  fun _ hc => (perm_insertionSort_arrange ctx.order rows).mem_iff.mp (List.mem_of_mem_take hc)

/-- Within the limit it drops none. -/
theorem mem_sorted {ctx : SyncContext} {rows : List MirrorRow} (h : rows.length ≤ maxCandidates)
    {c : MirrorRow} : c ∈ ctx.sorted rows ↔ c ∈ rows := by
  have hperm := perm_insertionSort_arrange ctx.order rows
  rw [SyncContext.sorted, List.take_of_length_le (hperm.length_eq ▸ h)]
  exact hperm.mem_iff

/-- The candidates of a product, all of them. -/
def WithinLimit (ctx : SyncContext) (productId : ℕ) (s : System) : Prop :=
  ∀ product found, s.db.products.get? productId = some product →
    candidateRows ctx.cf (buildSearchPattern ctx.py product) MirrorRow.rawPayload s.cves.rows =
      .ok found → found.length ≤ maxCandidates

/-- **The findings of a sync**: those of the candidates that affect the product, each of them
a row of the mirror. -/
theorem matches_eq_ok {ctx : SyncContext} {s : System} {rows : List FindingRow}
    (h : s.matches ctx now product = .ok rows) :
    ∃ candidates, candidates ⊆ s.cves.rows ∧
      ∀ row, row ∈ rows ↔ ∃ c ∈ candidates, ∃ result,
        judgeCandidate ctx.py product c = .ok result ∧ result.affected = true ∧
          row = c.findingRow now result := by
  obtain ⟨candidates, hcandidates, hrows⟩ := System.matches_eq_ok_iff.mp h
  rw [Mirror.candidates] at hcandidates
  cases hfound : candidateRows ctx.cf (buildSearchPattern ctx.py product) MirrorRow.rawPayload
      s.cves.rows with
  | error e =>
    rw [hfound] at hcandidates
    cases hcandidates
  | ok found =>
    rw [hfound] at hcandidates
    obtain rfl := Except.ok.inj hcandidates
    refine ⟨ctx.sorted found,
      fun c hc => subset_of_candidateRows hfound (subset_sorted ctx found hc), ?_⟩
    rcases findingRows_cases ctx.py now product (ctx.sorted found) with
      ⟨e, he, -⟩ | ⟨rows', hrows', -, hmem⟩
    · rw [he] at hrows
      cases hrows
    · obtain rfl := Except.ok.inj (hrows'.symm.trans hrows)
      exact hmem

/-- A sync has one row of a CVE, since the mirror has. -/
theorem oneRowEach_of_matches {ctx : SyncContext} {s : System} {rows : List FindingRow}
    (h : s.matches ctx now product = .ok rows) : OneRowEach rows := by
  obtain ⟨candidates, hsubset, hmem⟩ := matches_eq_ok h
  intro row hrow row' hrow' hcve
  obtain ⟨c, hc, result, hresult, -, rfl⟩ := (hmem row).mp hrow
  obtain ⟨c', hc', result', hresult', -, rfl⟩ := (hmem row').mp hrow'
  -- two rows of one CVE come from one row of the mirror
  obtain rfl : c = c' :=
    List.inj_on_of_nodup_map s.cves.uniqueCve (hsubset hc) (hsubset hc') hcve
  rw [Except.ok.inj (hresult.symm.trans hresult')]

/-- **A sync in another order of ties writes the same findings**, as long as no candidate is
cut off – or raises as well. -/
theorem matches_of_order {ctx : SyncContext} {s s' : System} {productId : ℕ}
    (order : RowOrder MirrorRow) (hproduct : s.db.products.get? productId = some product)
    (hlimit : WithinLimit ctx productId s) (hcves : s'.cves = s.cves)
    (hid : SameIdentity product product') :
    (∃ e e', s.matches ctx now product = .error e ∧
      s'.matches { ctx with order := order } now product' = .error e') ∨
    ∃ rows rows', s.matches ctx now product = .ok rows ∧
      s'.matches { ctx with order := order } now product' = .ok rows' ∧
      ∀ row, row ∈ rows' ↔ row ∈ rows := by
  simp only [System.matches, Mirror.candidates, hcves, buildSearchPattern_congr hid]
  cases hfound : candidateRows ctx.cf (buildSearchPattern ctx.py product) MirrorRow.rawPayload
      s.cves.rows with
  | error e => exact .inl ⟨_, _, rfl, rfl⟩
  | ok found =>
    have hlen := hlimit product found hproduct hfound
    have hsame : ∀ c, c ∈ SyncContext.sorted { ctx with order := order } found ↔
        c ∈ ctx.sorted found := fun c => (mem_sorted hlen).trans (mem_sorted hlen).symm
    simp only [Except.map]
    rcases findingRows_cases ctx.py now product (ctx.sorted found)
      with ⟨e, he, c, hc, hraise⟩ | ⟨rows, hrows, hall, hmem⟩
    · -- a candidate on which the matcher raises is one in either order
      rcases findingRows_cases ctx.py now product'
        (SyncContext.sorted { ctx with order := order } found)
        with ⟨e', he', -⟩ | ⟨rows', -, hall', -⟩
      · rw [he, he']
        exact .inl ⟨_, _, rfl, rfl⟩
      · obtain ⟨result, hresult⟩ := hall' c ((hsame c).mpr hc)
        rw [judgeCandidate_congr hid] at hresult
        obtain ⟨e, he⟩ := hraise
        rw [he] at hresult
        cases hresult
    · rcases findingRows_cases ctx.py now product'
        (SyncContext.sorted { ctx with order := order } found)
        with ⟨e', -, c, hc, e, he⟩ | ⟨rows', hrows', -, hmem'⟩
      · obtain ⟨result, hresult⟩ := hall c ((hsame c).mp hc)
        rw [judgeCandidate_congr hid, hresult] at he
        cases he
      · rw [hrows, hrows']
        refine .inr ⟨rows, rows', rfl, rfl, fun row => ?_⟩
        rw [hmem, hmem']
        simp only [hsame, judgeCandidate_congr hid]

end Candidates

/-! ### The second sync -/

section Twice

variable {now : Instant} {productId : ℕ} {s s' : System}

theorem countP_untimed {l l' : List Finding} (h : l'.map Finding.untimed = l.map Finding.untimed)
    {g : Finding → Bool} (hg : ∀ f, g f.untimed = g f) : l'.countP g = l.countP g := by
  have hmap : ∀ l : List Finding, l.countP g = (l.map Finding.untimed).countP g := by
    intro l
    rw [List.countP_map]
    exact List.countP_congr fun f _ => by rw [Function.comp_apply, hg]
  rw [hmap l', h, ← hmap l]

/-- The counts do not depend on timestamps. -/
theorem counts_congr
    (hfindings : s'.db.findings.rows.map Finding.untimed = s.db.findings.rows.map Finding.untimed)
    (hcves : s'.cves = s.cves) :
    s'.cveCount productId = s.cveCount productId ∧
      s'.criticalCount productId = s.criticalCount productId := by
  refine ⟨countP_untimed hfindings fun f => rfl, ?_⟩
  have hcritical : s'.critical = s.critical := by
    funext f
    rw [System.critical, hcves, ← System.critical]
  rw [System.criticalCount, hcritical]
  exact countP_untimed hfindings fun f => rfl

/-- A change of the status leaves the products alone, timestamps apart. -/
theorem untimed_updateStatus (status : SyncStatus) (s : System) :
    (s.updateStatus now status productId).db.products.rows.map Product.untimed =
      s.db.products.rows.map Product.untimed := by
  simp only [System.updateStatus, Table.update, List.map_map]
  refine List.map_congr_left fun p _ => ?_
  rw [Function.comp_apply]
  split_ifs <;> rfl

/-- A change of the status is one of `sync_status`, of this product. -/
theorem syncStatus_updateStatus (now : Instant) (productId : ℕ) (status : SyncStatus) (s : System)
    (p : ℕ) : ((s.updateStatus now status productId).syncColumns p).syncStatus =
      if p = productId then status else (s.syncColumns p).syncStatus := by
  simp only [System.updateStatus, Function.update_apply]
  split_ifs <;> rfl

/-- A database that differs in its products alone. -/
theorem sameButTimes_of_products {products : Table Product Product.id}
    {columns : ℕ → SyncColumns}
    (hproducts : products.rows.map Product.untimed = s.db.products.rows.map Product.untimed)
    (hstatus : ∀ p, (columns p).syncStatus = (s.syncColumns p).syncStatus) :
    SameButTimes s { s with db := { s.db with products := products }, syncColumns := columns } :=
  ⟨hproducts, rfl, rfl, rfl, rfl, rfl, hstatus, rfl⟩

/-- The same status set again. -/
theorem sameButTimes_updateStatus (status : SyncStatus)
    (hstatus : (s.syncColumns productId).syncStatus = status) :
    SameButTimes s (s.updateStatus now status productId) := by
  refine sameButTimes_of_products (untimed_updateStatus status s) fun p => ?_
  refine (syncStatus_updateStatus now productId status s p).trans ?_
  split_ifs with hp
  · rw [hp, hstatus]
  · rfl

/-- A sync of a synced product with nothing to write. -/
theorem sameButTimes_resync (hstatus : (s.syncColumns productId).syncStatus = .synced) :
    SameButTimes s
      ((s.updateStatus now .syncing productId).updateStatus now .synced productId) := by
  refine sameButTimes_of_products
    ((untimed_updateStatus .synced _).trans (untimed_updateStatus .syncing s)) fun p => ?_
  refine (syncStatus_updateStatus now productId .synced _ p).trans ?_
  split_ifs with hp
  · rw [hp, hstatus]
  · rw [syncStatus_updateStatus, if_neg hp]

/-- The counts set to what they are. -/
theorem untimed_updateStats {s t : System}
    (hproducts : s.db.products.rows.map Product.untimed =
      (t.updateStats now productId).db.products.rows.map Product.untimed)
    (hcounts : s.cveCount productId = t.cveCount productId ∧
      s.criticalCount productId = t.criticalCount productId) :
    (s.updateStats now productId).db.products.rows.map Product.untimed =
      (t.updateStats now productId).db.products.rows.map Product.untimed := by
  -- the assignment commutes with the forgetting of the timestamp
  have hassign : ∀ (c k : ℕ) (l : List Product),
      (l.map fun p => if p.id == productId then (Product.recounted c k now).set p else p).map
          Product.untimed =
        (l.map Product.untimed).map fun p =>
          if p.id == productId then { p with cveCount := c, criticalCount := k } else p := by
    intro c k l
    rw [List.map_map, List.map_map]
    refine List.map_congr_left fun p _ => ?_
    by_cases hp : p.id = productId <;> simp [Product.untimed, Product.recounted, hp]
  simp only [System.updateStats, Table.update, hassign] at hproducts ⊢
  rw [hproducts, List.map_map, hcounts.1, hcounts.2]
  refine List.map_congr_left fun p _ => ?_
  by_cases hp : p.id = productId <;> simp [hp]

/-- **A sync that writes findings, repeated with the same findings.** -/
theorem sameButTimes_rewrite {rows rows' : List FindingRow} (hone : OneRowEach rows)
    (hrows : rows' ⊆ rows) (s : System) :
    SameButTimes ((s.upsertFindings now productId rows).updateStats now productId)
      (((((s.upsertFindings now productId rows).updateStats now productId).updateStatus now
        .syncing productId).upsertFindings now productId rows').updateStats now productId) := by
  -- `t` is the database before its counts are set, `w` that in which the second sync writes
  generalize ht : s.upsertFindings now productId rows = t
  generalize hw : (t.updateStats now productId).updateStatus now .syncing productId = w
  have hset : ∀ row ∈ rows, Settled productId w.db row := by
    intro row hrow
    have hsettled : Settled productId (s.upsertFindings now productId rows).db row :=
      settled_upsertFindings hone (List.Subset.refl rows) s row hrow
    rw [ht] at hsettled
    rw [← hw]
    exact hsettled
  have hfindings : (w.upsertFindings now productId rows').db.findings.rows.map Finding.untimed =
      t.db.findings.rows.map Finding.untimed := by
    rw [untimed_upsertFindings hone hset hrows, ← hw]
    rfl
  obtain ⟨hproducts, hcves, hcolumns, hjobs⟩ := frame_upsertFindings w now productId rows'
  obtain ⟨hhistory, hacceptances, haudit⟩ := tables_upsertFindings rows' w
  have hcves' : (w.upsertFindings now productId rows').cves = t.cves := by
    rw [hcves, ← hw]
    rfl
  refine ⟨untimed_updateStats ?_ (counts_congr hfindings hcves'), hfindings, ?_, ?_, ?_, hcves',
    fun p => ?_, ?_⟩
  · rw [hproducts, ← hw]
    exact untimed_updateStatus .syncing _
  · exact hhistory.trans (by rw [← hw]; rfl)
  · exact hacceptances.trans (by rw [← hw]; rfl)
  · exact haudit.trans (by rw [← hw]; rfl)
  · -- both syncs end with `synced`; the status of another product is never touched
    rcases eq_or_ne p productId with rfl | hp
    · simp [System.updateStats]
    · have hkept : (w.upsertFindings now productId rows').syncColumns p = t.syncColumns p := by
        rw [hcolumns, ← hw]
        simp [System.updateStatus, System.updateStats, hp]
      simp [System.updateStats, hp, hkept]
  · exact hjobs.trans (by rw [← hw]; rfl)

/-- The product is there, with the columns that the matcher reads. -/
def HasProduct (product : Product) (productId : ℕ) (s : System) : Prop :=
  ∃ product', s.db.products.get? productId = some product' ∧ SameIdentity product product'

theorem hasProduct_updateStatus {product : Product} {status : SyncStatus} {s : System}
    (h : HasProduct product productId s) :
    HasProduct product productId (s.updateStatus now status productId) := by
  obtain ⟨p, hp, hname, hvendor, hversion, hcpe⟩ := h
  refine ⟨_, by rw [System.updateStatus, Table.get?_update, hp, Option.map_some], ?_⟩
  split_ifs <;> exact ⟨hname, hvendor, hversion, hcpe⟩

theorem hasProduct_rewrite {product : Product} {rows : List FindingRow} {s : System}
    (h : HasProduct product productId s) : HasProduct product productId
      ((s.upsertFindings now productId rows).updateStats now productId) := by
  obtain ⟨p, hp, hname, hvendor, hversion, hcpe⟩ := h
  have hproducts := (frame_upsertFindings s now productId rows).1
  refine ⟨_, by rw [System.updateStats, Table.get?_update, hproducts, hp, Option.map_some], ?_⟩
  split_ifs <;> exact ⟨hname, hvendor, hversion, hcpe⟩

theorem SameButTimes.refl (s : System) : SameButTimes s s :=
  ⟨rfl, rfl, rfl, rfl, rfl, rfl, fun _ => rfl, rfl⟩

section Second

variable {ctx : SyncContext} {product : Product} (order : RowOrder MirrorRow)

/-- A second sync raises if the first did. -/
theorem second_of_error (hproduct : s.db.products.get? productId = some product)
    (hlimit : WithinLimit ctx productId s) (hhas : HasProduct product productId s')
    (hcves : s'.cves = s.cves) {e : SyncError}
    (hmatches : s.matches ctx now product = .error e) :
    (syncProduct { ctx with order := order } now productId s').2 =
      s'.updateStatus now .syncing productId := by
  obtain ⟨product', hproduct', hid⟩ := hhas
  rcases @matches_of_order now product product' ctx s s' productId order hproduct hlimit hcves hid
    with ⟨-, e', -, he'⟩ | ⟨rows, -, hrows, -⟩
  · rw [syncProduct_of_error hproduct' he']
  · rw [hmatches] at hrows
    cases hrows

/-- And writes the same findings if the first wrote some. -/
theorem second_of_ok (hproduct : s.db.products.get? productId = some product)
    (hlimit : WithinLimit ctx productId s) (hhas : HasProduct product productId s')
    (hcves : s'.cves = s.cves) {rows : List FindingRow}
    (hmatches : s.matches ctx now product = .ok rows) :
    OneRowEach rows ∧ ∃ rows', (∀ row, row ∈ rows' ↔ row ∈ rows) ∧
      (syncProduct { ctx with order := order } now productId s').2 =
        s'.written now productId rows' := by
  obtain ⟨product', hproduct', hid⟩ := hhas
  rcases @matches_of_order now product product' ctx s s' productId order hproduct hlimit hcves hid
    with ⟨e, -, he, -⟩ | ⟨rows₁, rows', hrows, hrows', hsame⟩
  · rw [hmatches] at he
    cases he
  · obtain rfl := Except.ok.inj (hmatches.symm.trans hrows)
    obtain ⟨r, hr⟩ := syncProduct_of_ok hproduct' hrows'
    exact ⟨oneRowEach_of_matches hmatches, rows', hsame, by rw [hr]⟩

end Second

/-- **A second sync at the same instant changes no column but timestamps**, whatever the order
in which either run gets tied candidates. -/
theorem syncProduct_twice (ctx : SyncContext) (order : RowOrder MirrorRow) (now : Instant)
    (productId : ℕ) (s : System) (hlimit : WithinLimit ctx productId s) :
    SameButTimes (syncProduct ctx now productId s).2
      (syncProduct { ctx with order := order } now productId
        (syncProduct ctx now productId s).2).2 := by
  have hhas : ∀ product, s.db.products.get? productId = some product →
      HasProduct product productId (s.updateStatus now .syncing productId) :=
    fun product hproduct => hasProduct_updateStatus ⟨product, hproduct, rfl, rfl, rfl, rfl⟩
  rcases syncProduct_cases ctx now productId s with
    ⟨hproduct, hrun⟩ | ⟨product, e, hproduct, hmatches, hrun⟩ |
      ⟨product, rows, r, hproduct, hmatches, hrun⟩
  · rw [hrun, syncProduct_of_none hproduct]
    exact .refl s
  · -- the second sync raises as well
    rw [hrun]
    dsimp only
    rw [second_of_error order hproduct hlimit (hhas product hproduct) rfl hmatches]
    exact sameButTimes_updateStatus .syncing (by simp [System.updateStatus])
  · rw [hrun]
    dsimp only
    rcases rows with _ | ⟨row, rows⟩
    · -- nothing to write, the first time and the second
      rw [System.written, List.isEmpty_nil, if_pos rfl]
      obtain ⟨-, rows', hsame, hend⟩ := second_of_ok order hproduct hlimit
        (hasProduct_updateStatus (hhas product hproduct)) rfl hmatches
      have hempty : rows' = [] := List.eq_nil_iff_forall_not_mem.mpr fun row hrow =>
        List.not_mem_nil ((hsame row).mp hrow)
      rw [hend, hempty, System.written, List.isEmpty_nil, if_pos rfl]
      exact sameButTimes_resync (by simp [System.updateStatus])
    · rw [System.written, List.isEmpty_cons, if_neg (by decide)]
      have hcves : (((s.updateStatus now .syncing productId).upsertFindings now productId
          (row :: rows)).updateStats now productId).cves = s.cves :=
        (frame_upsertFindings _ now productId (row :: rows)).2.1
      obtain ⟨hone, rows', hsame, hend⟩ := second_of_ok order hproduct hlimit
        (hasProduct_rewrite (hhas product hproduct)) hcves hmatches
      rcases rows' with _ | ⟨row', rows'⟩
      · exact absurd ((hsame row).mpr List.mem_cons_self) List.not_mem_nil
      · rw [hend, System.written, List.isEmpty_cons, if_neg (by decide)]
        exact sameButTimes_rewrite hone (fun r hr => (hsame r).mp hr) _

end Twice

/-! ### All of it -/

/-- **Automation never overrides people, and is idempotent.** After any order of statements,
from any database, the findings of a product and a CVE are one; each finding that was there
has the same decisions, and the same match if it is held; and a sync repeated at the same
instant changes no column but timestamps. -/
theorem automation_frame {τ : Type} [DecidableEq τ] (s : System) (l : List (Issued τ))
    (ctx : SyncContext) (order : RowOrder MirrorRow) (now : Instant) (productId : ℕ) :
    (∀ f ∈ (run execute ⟨s, fun _ => []⟩ l).system.db.findings.rows,
      ∀ g ∈ (run execute ⟨s, fun _ => []⟩ l).system.db.findings.rows,
        f.productId = g.productId → f.cveId = g.cveId → f = g) ∧
    (∀ x f, s.db.findings.get? x = some f →
      ∃ f', (run execute ⟨s, fun _ => []⟩ l).system.db.findings.get? x = some f' ∧
        SameDecisions f f' ∧ (f.status.held = true → SameMatch f f')) ∧
    (WithinLimit ctx productId s → SameButTimes (syncProduct ctx now productId s).2
      (syncProduct { ctx with order := order } now productId
        (syncProduct ctx now productId s).2).2) := by
  refine ⟨fun f hf g hg hp hc => Db.finding_unique hf hg (Prod.ext hp hc), fun x f hf => ?_,
    syncProduct_twice ctx order now productId s⟩
  have hsound : Automation.Sound (⟨s, fun _ => []⟩ : Automation τ) :=
    fun _ _ hu => absurd hu List.not_mem_nil
  obtain ⟨f', hf', hkept⟩ := frame_run hsound l x f hf
  exact ⟨f', hf', hkept.decisions, hkept.match_of_held⟩

end CveManagement
