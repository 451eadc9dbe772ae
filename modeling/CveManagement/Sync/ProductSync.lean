import CveManagement.Sync.System
import Mathlib

/-!
# Syncing a product

`sync_product` of `app/workers/product_sync.py`: the candidates of the product, the verdict
of the matcher on each, and an upsert of a finding for each CVE that affects the product. The
function leaves by three ways: no candidate, no candidate that affects the product, or some –
and only on the last are the counts of the product recomputed
(`CveManagement.System.written`).

The run is taken as one step here; `now` is its clock, and `order` the order in which the
query returns candidates of one CVSS score.
-/

namespace CveManagement

/-- `ORDER BY c.cvss_v3_score DESC NULLS LAST`. -/
def v3Before (a b : MirrorRow) : Bool :=
  match a.cvssV3Score, b.cvssV3Score with
  | some x, some y => decide (y ≤ x)
  | none, some _ => false
  | _, none => true

/-- `_MAX_CANDIDATES`. -/
def maxCandidates : ℕ := 1000

/-- What the sync takes from outside: the operations on texts, the comparison of the
database, and the order of tied rows. -/
structure SyncContext where
  py : PyText
  cf : CaseFold
  order : RowOrder MirrorRow

/-- The rows that fit the product, sorted and cut. -/
def SyncContext.sorted (ctx : SyncContext) (rows : List MirrorRow) : List MirrorRow :=
  ((ctx.order.arrange rows).insertionSort fun a b => v3Before a b = true).take maxCandidates

/-- `_CANDIDATES_SQL`. -/
def Mirror.candidates (ctx : SyncContext) (product : Product) (cves : Mirror) :
    Except SqlError (List MirrorRow) :=
  (candidateRows ctx.cf (buildSearchPattern ctx.py product) MirrorRow.rawPayload cves.rows).map
    ctx.sorted

/-- The verdict of the matcher on a candidate. -/
def judgeCandidate (py : PyText) (product : Product) (row : MirrorRow) :
    Except PyError MatchResult := do
  let affectedCpes ← extractAffectedCpes row.rawPayload
  isCveAffectingProduct py product affectedCpes

/-- A parameter row of `_FINDING_UPSERT_SQL`, without the product. -/
structure FindingRow where
  cveId : String
  confidence : Confidence
  reason : String
  priority : ℤ

/-- `finding_rows` of one candidate, which affects the product. -/
def MirrorRow.findingRow (now : Instant) (row : MirrorRow) (result : MatchResult) : FindingRow :=
  ⟨row.cveId, result.confidence, String.ofList (result.reason.toList.take 500),
    row.syncPriority now⟩

/-- The loop of `sync_product` over its candidates. -/
def findingRows (py : PyText) (now : Instant) (product : Product) :
    List MirrorRow → Except PyError (List FindingRow)
  | [] => .ok []
  | row :: rows => do
    let result ← judgeCandidate py product row
    let rest ← findingRows py now product rows
    pure (if result.affected then row.findingRow now result :: rest else rest)

namespace System

/-- `_FINDING_UPSERT_SQL`. -/
def upsertFinding (s : System) (now : Instant) (productId : ℕ) (row : FindingRow) : System :=
  { s with
    db := CveManagement.upsertFinding now productId row.cveId row.confidence row.reason row.priority
      s.db }

/-- The `executemany` of `_FINDING_UPSERT_SQL`. -/
def upsertFindings (s : System) (now : Instant) (productId : ℕ) (rows : List FindingRow) :
    System :=
  rows.foldl (fun s row => s.upsertFinding now productId row) s

end System

/-- Why `sync_product` raises. -/
inductive SyncError
  | productNotFound (productId : ℕ)
  | sql (error : SqlError)
  | python (error : PyError)

/-- `SyncResult`, without the duration. -/
structure SyncResult where
  productId : ℕ
  candidates : ℕ
  matched : ℕ
  filtered : ℕ

/-- **`sync_product`**: what it returns or raises, and what it leaves behind. -/
def syncProduct (ctx : SyncContext) (now : Instant) (productId : ℕ) (s : System) :
    Except SyncError SyncResult × System :=
  match s.db.products.get? productId with
  | none => (.error (.productNotFound productId), s)
  | some product =>
    -- from here on an exception leaves the product in `syncing`
    let syncing := s.updateStatus now .syncing productId
    match syncing.cves.candidates ctx product with
    | .error e => (.error (.sql e), syncing)
    | .ok [] => (.ok ⟨productId, 0, 0, 0⟩, syncing.updateStatus now .synced productId)
    | .ok (c :: cs) =>
      match findingRows ctx.py now product (c :: cs) with
      | .error e => (.error (.python e), syncing)
      | .ok rows =>
        (.ok ⟨productId, (c :: cs).length, rows.length, (c :: cs).length - rows.length⟩,
          if rows.isEmpty then syncing.updateStatus now .synced productId
          else (syncing.upsertFindings now productId rows).updateStats now productId)

/-! ### What the sync decides -/

/-- The findings that a sync of the product writes, if it gets that far. -/
def System.matches (ctx : SyncContext) (now : Instant) (product : Product) (s : System) :
    Except SyncError (List FindingRow) :=
  match s.cves.candidates ctx product with
  | .error e => .error (.sql e)
  | .ok candidates =>
    match findingRows ctx.py now product candidates with
    | .error e => .error (.python e)
    | .ok rows => .ok rows

section Rows

variable (py : PyText) (now : Instant) (product : Product)

/-- **The findings of a sync are those of the candidates that affect the product**; the loop
raises if the matcher raises on any candidate. -/
theorem findingRows_cases (candidates : List MirrorRow) :
    (∃ e, findingRows py now product candidates = .error e ∧
      ∃ c ∈ candidates, ∃ e, judgeCandidate py product c = .error e) ∨
    ∃ rows, findingRows py now product candidates = .ok rows ∧
      (∀ c ∈ candidates, ∃ result, judgeCandidate py product c = .ok result) ∧
      ∀ row, row ∈ rows ↔ ∃ c ∈ candidates, ∃ result, judgeCandidate py product c = .ok result ∧
        result.affected = true ∧ row = c.findingRow now result := by
  induction candidates with
  | nil => exact .inr ⟨[], rfl, by simp, by simp⟩
  | cons c cs ih =>
    rw [findingRows]
    cases hc : judgeCandidate py product c with
    | error e => exact .inl ⟨e, rfl, c, List.mem_cons_self, e, hc⟩
    | ok result =>
      -- the rest of the loop raises, or adds its rows to those of this candidate
      rcases ih with ⟨e, he, c', hc', hraise⟩ | ⟨rows, hrows, hall, hmem⟩
      · rw [he]
        exact .inl ⟨e, rfl, c', List.mem_cons_of_mem c hc', hraise⟩
      · rw [hrows]
        refine .inr ⟨_, rfl, List.forall_mem_cons.mpr ⟨⟨result, hc⟩, hall⟩, fun row => ?_⟩
        simp only [List.exists_mem_cons_iff, hc, Except.ok.injEq, exists_eq_left', ← hmem]
        split_ifs with haffected
        · simp [haffected]
        · simp [haffected]

end Rows

section Sync

variable {ctx : SyncContext} {now : Instant} {productId : ℕ} {s : System} {product : Product}

/-- What a sync that found these rows leaves behind. -/
def System.written (s : System) (now : Instant) (productId : ℕ) (rows : List FindingRow) :
    System :=
  if rows.isEmpty then
    (s.updateStatus now .syncing productId).updateStatus now .synced productId
  else ((s.updateStatus now .syncing productId).upsertFindings now productId rows).updateStats now
    productId

/-- A sync that raises leaves the product in `syncing`. -/
theorem syncProduct_of_error {e : SyncError}
    (hproduct : s.db.products.get? productId = some product)
    (hmatches : s.matches ctx now product = .error e) :
    syncProduct ctx now productId s = (.error e, s.updateStatus now .syncing productId) := by
  have hcves : (s.updateStatus now .syncing productId).cves = s.cves := rfl
  rw [System.matches] at hmatches
  rw [syncProduct, hproduct]
  dsimp only
  rw [hcves]
  -- the query raises, finds nothing, or finds candidates for the matcher to raise on
  rcases hc : s.cves.candidates ctx product with e' | _ | ⟨c, cs⟩
  · rw [hc] at hmatches
    cases hmatches
    rfl
  · rw [hc] at hmatches
    cases hmatches
  · rw [hc] at hmatches
    dsimp only at hmatches ⊢
    rcases hrows : findingRows ctx.py now product (c :: cs) with e' | rows
    · rw [hrows] at hmatches
      cases hmatches
      rfl
    · rw [hrows] at hmatches
      cases hmatches

/-- The matches of a sync are those of its candidates. -/
theorem System.matches_eq_ok_iff {rows : List FindingRow} : s.matches ctx now product = .ok rows ↔
    ∃ candidates, s.cves.candidates ctx product = .ok candidates ∧
      findingRows ctx.py now product candidates = .ok rows := by
  rw [System.matches]
  cases s.cves.candidates ctx product with
  | error e => simp
  | ok candidates => cases hfound : findingRows ctx.py now product candidates <;> simp [hfound]

/-- **A sync that does not raise** writes what it found, if anything. -/
theorem syncProduct_of_ok {rows : List FindingRow}
    (hproduct : s.db.products.get? productId = some product)
    (hmatches : s.matches ctx now product = .ok rows) :
    ∃ r, syncProduct ctx now productId s = (.ok r, s.written now productId rows) := by
  have hcves : (s.updateStatus now .syncing productId).cves = s.cves := rfl
  obtain ⟨candidates, hcandidates, hfound⟩ := System.matches_eq_ok_iff.mp hmatches
  rw [syncProduct, hproduct]
  dsimp only
  rw [hcves, hcandidates]
  rcases candidates with _ | ⟨c, cs⟩
  · -- without a candidate there is no row either
    obtain rfl := Except.ok.inj hfound
    exact ⟨_, rfl⟩
  · dsimp only
    rw [hfound]
    exact ⟨_, rfl⟩

/-- A product that does not exist is not synced. -/
theorem syncProduct_of_none (hproduct : s.db.products.get? productId = none) :
    syncProduct ctx now productId s = (.error (.productNotFound productId), s) := by
  rw [syncProduct, hproduct]

variable (ctx now productId s) in
/-- **What a sync comes to**: there is no such product, the sync raises, or it writes what it
has found. -/
theorem syncProduct_cases :
    (s.db.products.get? productId = none ∧
      syncProduct ctx now productId s = (.error (.productNotFound productId), s)) ∨
    (∃ product e, s.db.products.get? productId = some product ∧
      s.matches ctx now product = .error e ∧
      syncProduct ctx now productId s = (.error e, s.updateStatus now .syncing productId)) ∨
    ∃ product rows r, s.db.products.get? productId = some product ∧
      s.matches ctx now product = .ok rows ∧
      syncProduct ctx now productId s = (.ok r, s.written now productId rows) := by
  cases hproduct : s.db.products.get? productId with
  | none => exact .inl ⟨rfl, syncProduct_of_none hproduct⟩
  | some product =>
    refine .inr ?_
    cases hmatches : s.matches ctx now product with
    | error e => exact .inl ⟨product, e, rfl, hmatches, syncProduct_of_error hproduct hmatches⟩
    | ok rows =>
      obtain ⟨r, hrun⟩ := syncProduct_of_ok hproduct hmatches
      exact .inr ⟨product, rows, r, rfl, hmatches, hrun⟩

/-- **When a sync returns**, it has a product and a list of findings to write. -/
theorem syncProduct_eq_ok {r : SyncResult} (h : (syncProduct ctx now productId s).1 = .ok r) :
    ∃ product rows, s.db.products.get? productId = some product ∧
      s.matches ctx now product = .ok rows ∧
      (syncProduct ctx now productId s).2 = s.written now productId rows := by
  rcases syncProduct_cases ctx now productId s with
    ⟨-, hrun⟩ | ⟨product, e, -, -, hrun⟩ | ⟨product, rows, r', hproduct, hmatches, hrun⟩
  · rw [hrun] at h
    cases h
  · rw [hrun] at h
    cases h
  · exact ⟨product, rows, hproduct, hmatches, by rw [hrun]⟩

end Sync

end CveManagement
