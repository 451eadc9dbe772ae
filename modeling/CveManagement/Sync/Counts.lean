import CveManagement.Sync.ProductSync
import Mathlib

/-!
# The counts of a product after a sync

`_STATS_UPDATE_SQL` recomputes `cve_count` and `critical_count` and stamps `last_synced_at`,
in the transaction that writes the findings. Where there is no finding to write the sync
marks the product as synced and leaves the counts as they were, so a count that was made
stale by a change of status survives (`CveManagement.countsFresh_syncProduct_iff`).
-/

namespace CveManagement

/-- **The counts of the product are those of its findings**, and the sync at `now` is
stamped. -/
def CountsFresh (now : Instant) (productId : ℕ) (s : System) : Prop :=
  ∃ p, s.db.products.get? productId = some p ∧ p.cveCount = s.cveCount productId ∧
    p.criticalCount = s.criticalCount productId ∧
    (s.syncColumns productId).lastSyncedAt = some now

/-- **A candidate of the product affects it**, in the eyes of the matcher. -/
def SomeAffects (ctx : SyncContext) (productId : ℕ) (s : System) : Prop :=
  ∃ product candidates c result, s.db.products.get? productId = some product ∧
    s.cves.candidates ctx product = .ok candidates ∧ c ∈ candidates ∧
    judgeCandidate ctx.py product c = .ok result ∧ result.affected = true

/-! ### The statements -/

section Statements

variable (s : System) (now : Instant) (productId : ℕ)

theorem products_insertFinding (db : Db) (row : ℕ → Finding) (hid : ∀ n, (row n).id = n) :
    (db.insertFinding row hid).products = db.products := by
  unfold Db.insertFinding
  split_ifs <;> rfl

theorem products_upsertFinding (cveId : String) (confidence : Confidence)
    (reason : String) (priority : ℚ) (db : Db) :
    (upsertFinding now productId cveId confidence reason priority db).products = db.products := by
  unfold upsertFinding
  split
  · exact products_insertFinding db _ _
  · rfl

/-- The upserts write findings only. -/
theorem frame_upsertFindings (rows : List FindingRow) :
    (s.upsertFindings now productId rows).db.products = s.db.products ∧
      (s.upsertFindings now productId rows).cves = s.cves ∧
      (s.upsertFindings now productId rows).syncColumns = s.syncColumns ∧
      (s.upsertFindings now productId rows).syncJobs = s.syncJobs := by
  induction rows generalizing s with
  | nil => exact ⟨rfl, rfl, rfl, rfl⟩
  | cons row rows ih =>
    obtain ⟨hproducts, hcves, hcolumns, hjobs⟩ := ih (s.upsertFinding now productId row)
    exact ⟨hproducts.trans (products_upsertFinding ..), hcves, hcolumns, hjobs⟩

/-- A change of `sync_status` leaves the counts alone, fresh or stale. -/
theorem countsFresh_updateStatus (status : SyncStatus) :
    CountsFresh now productId (s.updateStatus now status productId) ↔
      CountsFresh now productId s := by
  simp only [CountsFresh, System.updateStatus, Table.get?_update, Option.map_eq_some_iff,
    Function.update_self]
  constructor
  · rintro ⟨p, ⟨p', hp', rfl⟩, hcount, hcritical, hstamp⟩
    refine ⟨p', hp', ?_, ?_, hstamp⟩
    · split_ifs at hcount <;> exact hcount
    · split_ifs at hcritical <;> exact hcritical
  · rintro ⟨p, hp, hcount, hcritical, hstamp⟩
    refine ⟨_, ⟨p, hp, rfl⟩, ?_, ?_, hstamp⟩
    · split_ifs <;> exact hcount
    · split_ifs <;> exact hcritical

/-- **`_STATS_UPDATE_SQL` makes the counts of an existing product fresh.** -/
theorem countsFresh_updateStats {p : Product} (hp : s.db.products.get? productId = some p) :
    CountsFresh now productId (s.updateStats now productId) := by
  have hid : p.id = productId := (Table.get?_eq_some.mp hp).2
  refine ⟨(Product.recounted (s.cveCount productId) (s.criticalCount productId) now).set p, ?_, rfl,
    rfl, ?_⟩
  · simp [System.updateStats, hp, hid]
  · simp [System.updateStats]

end Statements

/-! ### The findings to write -/

section Rows

variable {py : PyText} {now : Instant} {product : Product}

/-- **There is nothing to write exactly when no candidate affects the product.** -/
theorem findingRows_eq_nil_iff {candidates : List MirrorRow} {rows : List FindingRow}
    (h : findingRows py now product candidates = .ok rows) :
    rows = [] ↔ ¬∃ c ∈ candidates, ∃ result, judgeCandidate py product c = .ok result ∧
      result.affected = true := by
  rcases findingRows_cases py now product candidates with ⟨e, he, -⟩ | ⟨rows', hrows', -, hmem⟩
  · rw [he] at h
    cases h
  · obtain rfl := Except.ok.inj (hrows'.symm.trans h)
    rw [List.eq_nil_iff_forall_not_mem, ← not_exists, not_iff_not]
    constructor
    · rintro ⟨row, hrow⟩
      obtain ⟨c, hc, result, hresult, haffected, -⟩ := (hmem row).mp hrow
      exact ⟨c, hc, result, hresult, haffected⟩
    · rintro ⟨c, hc, result, hresult, haffected⟩
      exact ⟨_, (hmem _).mpr ⟨c, hc, result, hresult, haffected, rfl⟩⟩

theorem someAffects_iff {ctx : SyncContext} {productId : ℕ} {s : System} {rows : List FindingRow}
    (hproduct : s.db.products.get? productId = some product)
    (hrows : s.matches ctx now product = .ok rows) :
    SomeAffects ctx productId s ↔ rows ≠ [] := by
  obtain ⟨candidates, hcandidates, hfound⟩ := System.matches_eq_ok_iff.mp hrows
  rw [ne_eq, findingRows_eq_nil_iff hfound, not_not]
  constructor
  · rintro ⟨p, cs, c, result, hp, hcs, hc, hresult, haffected⟩
    obtain rfl := Option.some.inj (hproduct.symm.trans hp)
    obtain rfl := Except.ok.inj (hcandidates.symm.trans hcs)
    exact ⟨c, hc, result, hresult, haffected⟩
  · rintro ⟨c, hc, result, hresult, haffected⟩
    exact ⟨product, candidates, c, result, hproduct, hcandidates, hc, hresult, haffected⟩

end Rows

/-- **The counts are fresh after a sync that returns exactly when a candidate affected the
product, or they were fresh before**, stamp included. -/
theorem countsFresh_syncProduct_iff (ctx : SyncContext) (now : Instant) (productId : ℕ)
    (s : System) (r : SyncResult) (h : (syncProduct ctx now productId s).1 = .ok r) :
    CountsFresh now productId (syncProduct ctx now productId s).2 ↔
      SomeAffects ctx productId s ∨ CountsFresh now productId s := by
  obtain ⟨product, rows, hproduct, hrows, hend⟩ := syncProduct_eq_ok h
  rw [hend, someAffects_iff hproduct hrows, System.written]
  rcases rows with _ | ⟨row, rows⟩
  · -- no finding to write: only the status changes
    rw [List.isEmpty_nil, if_pos rfl, countsFresh_updateStatus, countsFresh_updateStatus]
    simp
  · -- the counts are computed from what the upserts have left
    rw [List.isEmpty_cons, if_neg (by decide)]
    refine iff_of_true ?_ (.inl (List.cons_ne_nil row rows))
    have hframe := frame_upsertFindings (s.updateStatus now .syncing productId) now productId
      (row :: rows)
    have hget : (s.updateStatus now .syncing productId).db.products.get? productId =
        some ((Product.touched now).set product) := by
      simp [System.updateStatus, hproduct, (Table.get?_eq_some.mp hproduct).2]
    exact countsFresh_updateStats _ now productId (hframe.1 ▸ hget)

/-! ### A count that stays stale -/

/-- The context of ASCII texts and rows in the order of insertion. -/
def SyncContext.ascii : SyncContext := ⟨.ascii, .ascii, .insertion⟩

/-- A CVE without configurations, and without any score. -/
def MirrorRow.bare (cveId : String) : MirrorRow :=
  ⟨⟨none, none, none, none, false, 0, none, none⟩, cveId, .obj [("id", .str cveId)]⟩

/-- A mirror of one CVE. -/
def Mirror.single (c : MirrorRow) : Mirror := ⟨[c], List.nodup_singleton _⟩

/-- A product that counts one CVE, and a finding of that CVE which was closed since. -/
def System.staleCount : System where
  db := (insertCirclFinding 0 1 "CVE-2024-0001" (.ofProducts (Table.empty.insert fun n =>
    ⟨n, "nginx", some "F5", some "1.25.1", none, 1, 0, 0, false, none, none⟩))).updateFindings
      (fun _ => true) (Finding.moveTo .closed 0)
  cves := .single (.bare "CVE-2024-0001")
  syncColumns _ := ⟨.synced, some 0⟩
  syncJobs := .empty

/-- **The sync returns, and the product still counts the closed finding.** -/
theorem not_countsFresh_staleCount :
    ∃ r, (syncProduct .ascii 10 1 .staleCount).1 = .ok r ∧
      ¬CountsFresh 10 1 (syncProduct .ascii 10 1 .staleCount).2 := by
  refine ⟨⟨1, 0, 0, 0⟩, rfl, ?_⟩
  rintro ⟨p, hp, hcount, -⟩
  obtain rfl := Option.some.inj hp
  exact absurd hcount (by decide)

/-- The characterisation, at that state. -/
theorem countsFresh_staleCount :
    CountsFresh 10 1 (syncProduct .ascii 10 1 .staleCount).2 ↔
      SomeAffects .ascii 1 .staleCount ∨ CountsFresh 10 1 .staleCount :=
  countsFresh_syncProduct_iff .ascii 10 1 .staleCount ⟨1, 0, 0, 0⟩ rfl

end CveManagement
