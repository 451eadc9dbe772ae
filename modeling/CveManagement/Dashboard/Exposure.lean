import CveManagement.Dashboard.Stats
import CveManagement.Library.Rounding
import Mathlib

/-!
# The exposure dashboard

`dashboard_exposure`: the coverage of the inventory, and the vendors and products with the most
exposed findings. All of its queries begin with `products`, and none of them looks at
`is_deleted`.
-/

namespace CveManagement

/-! ### What it returns -/

/-- `inventory_coverage`. -/
structure InventoryCoverage where
  total : ℕ
  resolved : ℕ
  confidenceCertain : ℕ
  confidenceUncertain : ℕ
  synced : ℕ
  pending : ℕ
  syncError : ℕ
  syncStale : ℕ

/-- A row of `top_vendors`. -/
structure VendorExposure where
  vendor : String
  productCount : ℕ
  findingCount : ℕ
  criticalCount : ℕ
  highCount : ℕ
  kevCount : ℕ
  pocCount : ℕ
  nucleiCount : ℕ
  exposureScore : ℚ

/-- A row of `top_products_by_kev` and `top_products_by_critical`. -/
structure ProductExposure where
  id : ℕ
  name : String
  version : Option String
  vendor : Option String
  findingCount : ℕ
  kevCount : ℕ
  criticalCount : ℕ

/-- A row of `heatmap`. -/
structure HeatmapRow where
  id : ℕ
  name : String
  version : Option String
  vendor : Option String
  critical : ℕ
  high : ℕ
  medium : ℕ
  low : ℕ
  kev : ℕ
  total : ℕ
  avgPriority : Option ℚ

/-- A row of `eol_candidates`. -/
structure EolCandidate where
  id : ℕ
  name : String
  version : Option String
  vendor : Option String
  findingCount : ℕ
  criticalCount : ℕ
  lastCveModified : Option Instant

/-- What `dashboard_exposure` returns. -/
structure DashboardExposure where
  topLimit : ℤ
  inventoryCoverage : InventoryCoverage
  topVendors : List VendorExposure
  topProductsByKev : List ProductExposure
  topProductsByCritical : List ProductExposure
  heatmap : List HeatmapRow
  eolCandidates : List EolCandidate

/-- The order of the rows that are tied. -/
structure ExposureOrders where
  vendors : RowOrder VendorExposure
  byKev : RowOrder ProductExposure
  byCritical : RowOrder ProductExposure
  ranked : RowOrder (Product × ℕ)
  heatmap : RowOrder HeatmapRow
  eol : RowOrder EolCandidate

/-! ### The joined tables -/

/-- A row of `products p LEFT JOIN findings f … LEFT JOIN cves c …`. -/
abbrev ExposedRow := (Product × Option Finding) × Option MirrorRow

namespace ExposedRow

variable (row : ExposedRow)

/-- `COUNT(f.id)` counts the row. -/
def hasFinding : Bool := row.1.2.isSome

/-- `COUNT(f.id) FILTER (WHERE …)` counts the row, for a condition on the columns of the CVE. -/
def hasFindingOf (p : MirrorRow → Bool) : Bool := row.hasFinding && row.2.any p

end ExposedRow

/-- `p LEFT JOIN findings f ON f.product_id = p.id LEFT JOIN cves c ON c.cve_id = f.cve_id`. -/
def exposedRows (products : List Product) (s : Dataset) : List ExposedRow :=
  Select.leftJoin (fun row c => row.2.any fun f => c.cveId == f.cveId)
    (Select.leftJoin (fun p f => f.productId == p.id) products s.db.findings.rows) s.cves.rows

/-- The groups of `GROUP BY p.id`, with the columns of `p`, which depend on the id. -/
def byProduct (products : List Product) (rows : List ExposedRow) :
    List (Product × List ExposedRow) :=
  (products.map fun p => (p, rows.filter fun row => row.1.1.id == p.id)).filter fun group =>
    !group.2.isEmpty

/-- `c.severity = …`. -/
def MirrorRow.isOf (severity : Severity) (c : MirrorRow) : Bool := c.severity == some severity

/-! ### The queries -/

/-- `… - INTERVAL 'n days'`. -/
def Answering.daysAgo (ctx : Answering) (days : ℤ) : Instant := ctx.now - days * dayMicros

/-- The query for `inventory_coverage`. -/
def coverageRow (ctx : Answering) (s : Dataset) : InventoryCoverage :=
  let counting (p : Product → Bool) := s.db.products.rows.countP p
  let confidence (value : CpeConfidence) := counting fun p =>
    (s.productDetails p.id).cpeConfidence == some value
  let status (value : SyncStatus) := counting fun p => (s.syncColumns p.id).syncStatus == value
  { total := counting fun _ => true
    resolved := counting fun p => p.normalizedCpe.any fun cpe => cpe != ""
    confidenceCertain := confidence .certain
    confidenceUncertain := confidence .uncertain
    synced := status .synced
    pending := status .pending
    syncError := status .error
    syncStale := counting fun p =>
      (s.syncColumns p.id).lastSyncedAt.all fun t => decide (t < ctx.daysAgo 7) }

/-- `COALESCE(NULLIF(TRIM(p.vendor), ''), '(unknown)')`. -/
def vendorLabel (vendor : Option String) : String :=
  let trim (s : String) :=
    String.ofList ((s.toList.dropWhile (· == ' ')).rdropWhile (· == ' '))
  ((vendor.map trim).filter fun s => s != "").getD "(unknown)"

/-- `f.status IN ('open', 'in_review', 'planned')`. -/
def Finding.exposed (f : Finding) : Bool := [.opened, .inReview, .planned].contains f.status

/-- The columns of a vendor. -/
def vendorExposure (group : Option String × List ExposedRow) : VendorExposure where
  vendor := vendorLabel group.1
  productCount := (group.2.map fun row => row.1.1.id).dedup.length
  findingCount := group.2.countP ExposedRow.hasFinding
  criticalCount := group.2.countP fun row => row.hasFindingOf (MirrorRow.isOf .critical)
  highCount := group.2.countP fun row => row.hasFindingOf (MirrorRow.isOf .high)
  kevCount := group.2.countP fun row => row.hasFindingOf fun c => c.isKev
  pocCount := group.2.countP fun row => row.hasFindingOf fun c => c.hasPublicPoc == some true
  nucleiCount := group.2.countP fun row =>
    row.hasFindingOf fun c => c.hasNucleiTemplate == some true
  exposureScore := (group.2.filterMap fun row =>
    (row.1.2.filter Finding.exposed).bind Finding.priorityScore).sum

/-- The query for `top_vendors`. `GROUP BY vendor` means the column, not the output of that name. -/
def vendorRows (order : RowOrder VendorExposure) (topLimit : ℤ) (s : Dataset) :
    List VendorExposure :=
  let groups := Select.groupBy (fun row : ExposedRow => row.1.1.vendor)
    (exposedRows s.db.products.rows s)
  let ordered := Select.orderBy (fun a b =>
    ((Select.desc a.exposureScore b.exposureScore).then
      (Select.desc a.findingCount b.findingCount)).then
      (Select.desc a.productCount b.productCount))
    (order.arrange (groups.map vendorExposure))
  ordered.take topLimit.toNat

/-- The columns of a product. -/
def productExposure (group : Product × List ExposedRow) : ProductExposure where
  id := group.1.id
  name := group.1.name
  version := group.1.version
  vendor := group.1.vendor
  findingCount := group.2.countP ExposedRow.hasFinding
  kevCount := group.2.countP fun row => row.hasFindingOf fun c => c.isKev
  criticalCount := group.2.countP fun row => row.hasFindingOf (MirrorRow.isOf .critical)

/-- The query for `top_products_by_kev`, and that for `top_products_by_critical`: the products for
which a column is positive, in some order. -/
def productRows (column : ProductExposure → ℕ) (cmp : ProductExposure → ProductExposure → Ordering)
    (order : RowOrder ProductExposure) (topLimit : ℤ) (s : Dataset) : List ProductExposure :=
  let groups := byProduct s.db.products.rows (exposedRows s.db.products.rows s)
  let having := (groups.map productExposure).filter fun row => decide (0 < column row)
  (Select.orderBy cmp (order.arrange having)).take topLimit.toNat

/-- `top_products_by_kev`. -/
def topProductsByKev : RowOrder ProductExposure → ℤ → Dataset → List ProductExposure :=
  productRows ProductExposure.kevCount fun a b =>
    (Select.desc a.kevCount b.kevCount).then (Select.desc a.criticalCount b.criticalCount)

/-- `top_products_by_critical`. -/
def topProductsByCritical : RowOrder ProductExposure → ℤ → Dataset → List ProductExposure :=
  productRows ProductExposure.criticalCount fun a b =>
    (Select.desc a.criticalCount b.criticalCount).then (Select.desc a.findingCount b.findingCount)

/-- `ROUND(AVG(…)::numeric, 1)`. -/
def roundedAverage (scores : List ℚ) : Option ℚ :=
  if scores.isEmpty then none
  else some (Rounding.halfAway (scores.sum / scores.length * 10) / 10)

/-- The columns of a cell of the heatmap. -/
def heatmapRow (group : Product × List ExposedRow) : HeatmapRow :=
  let counting (p : MirrorRow → Bool) := group.2.countP fun row => row.hasFindingOf p
  { id := group.1.id
    name := group.1.name
    version := group.1.version
    vendor := group.1.vendor
    critical := counting (MirrorRow.isOf .critical)
    high := counting (MirrorRow.isOf .high)
    medium := counting (MirrorRow.isOf .medium)
    low := counting (MirrorRow.isOf .low)
    kev := counting fun c => c.isKev
    total := group.2.countP ExposedRow.hasFinding
    avgPriority := roundedAverage (group.2.filterMap fun row =>
      row.1.2.bind Finding.priorityScore) }

/-- `ranked`: the products with the most findings. -/
def rankedProducts (order : RowOrder (Product × ℕ)) (topLimit : ℤ) (s : Dataset) : List Product :=
  let counted := s.db.products.rows.map fun p =>
    (p, s.db.findings.rows.countP fun f => f.productId == p.id)
  let ordered := Select.orderBy (fun a b => Select.desc a.2 b.2) (order.arrange counted)
  (ordered.take topLimit.toNat).map Prod.fst

/-- The query for `heatmap`. -/
def heatmapRows (orders : ExposureOrders) (topLimit : ℤ) (s : Dataset) : List HeatmapRow :=
  let ranked := rankedProducts orders.ranked topLimit s
  let groups := byProduct ranked (exposedRows ranked s)
  Select.orderBy (fun a b => Select.desc a.total b.total)
    (orders.heatmap.arrange (groups.map heatmapRow))

/-- The columns of a candidate for the end of life; its rows are those of an inner join. -/
def eolCandidate (details : String → CveDetails) (group : Product × List ExposedRow) :
    EolCandidate where
  id := group.1.id
  name := group.1.name
  version := group.1.version
  vendor := group.1.vendor
  findingCount := group.2.countP ExposedRow.hasFinding
  criticalCount := group.2.countP fun row => row.hasFindingOf (MirrorRow.isOf .critical)
  lastCveModified := (group.2.filterMap fun row =>
    row.2.map fun c => (details c.cveId).lastModifiedAt).max?

/-- The query for `eol_candidates`. -/
def eolRows (ctx : Answering) (order : RowOrder EolCandidate) (topLimit : ℤ) (s : Dataset) :
    List EolCandidate :=
  -- an inner join keeps the rows in which all three tables have one
  let joined := (exposedRows s.db.products.rows s).filter fun row => row.1.2.isSome && row.2.isSome
  let groups := byProduct s.db.products.rows joined
  let having := (groups.map (eolCandidate s.cveDetails)).filter fun row =>
    decide (0 < row.criticalCount) &&
      row.lastCveModified.any fun t => decide (t < ctx.daysAgo 365)
  let ordered := Select.orderBy (fun a b => (Select.desc a.criticalCount b.criticalCount).then
    (compare a.lastCveModified b.lastCveModified)) (order.arrange having)
  ordered.take topLimit.toNat

/-- The results of the queries. -/
def computeExposure (ctx : Answering) (orders : ExposureOrders) (topLimit : ℤ) (s : Dataset) :
    DashboardExposure where
  topLimit
  inventoryCoverage := coverageRow ctx s
  topVendors := vendorRows orders.vendors topLimit s
  topProductsByKev := CveManagement.topProductsByKev orders.byKev topLimit s
  topProductsByCritical := CveManagement.topProductsByCritical orders.byCritical topLimit s
  heatmap := heatmapRows orders topLimit s
  eolCandidates := eolRows ctx orders.eol topLimit s

/-- `_EXPOSURE_TTL`. -/
def exposureTtl : ℕ := 300

/-- `max(1, min(50, top_limit))`. -/
def clampTopLimit (topLimit : ℤ) : ℤ := max 1 (min 50 topLimit)

/-- `f"dashboard:exposure:l{top_limit}"`. -/
def exposureKey (topLimit : ℤ) : String := "dashboard:exposure:l" ++ toString topLimit

/-- **`dashboard_exposure`**. -/
def dashboardExposure (ctx : Answering) (orders : ExposureOrders) (cache : DashboardCache)
    (topLimit : ℤ) (s : Dataset) : Cached DashboardExposure :=
  let topLimit := clampTopLimit topLimit
  match cache (exposureKey topLimit) with
  | some payload => .hit payload
  | none => .computed (exposureKey topLimit) exposureTtl (computeExposure ctx orders topLimit s)

end CveManagement
