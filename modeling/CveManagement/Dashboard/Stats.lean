import CveManagement.Dashboard.Lists
import Mathlib

/-!
# The dashboard

`dashboard_stats`: eight queries over the mirror, the products and the findings, whose results are
kept in Redis for five minutes. None of them looks at `is_deleted`.
-/

namespace CveManagement

/-- What is kept in Redis, as `json.loads` reads it. -/
abbrev DashboardCache := String → Option Json

/-! ### What it returns -/

/-- A row of `top_products`. -/
structure TopProduct where
  id : ℕ
  name : String
  version : Option String
  vendor : Option String
  cveCount : ℕ
  criticalCount : ℕ
  lastSyncedAt : Option Instant

/-- A row of `recent_cves`. -/
structure RecentCve where
  cveId : String
  severity : Option Severity
  cvssV3Score : Option ℚ
  epssScore : Option ℚ
  isKev : Bool
  publishedAt : Instant
  description : Option String

/-- `epss_distribution`; a sum over no row is `NULL`. -/
structure EpssDistribution where
  highEpss : Option ℕ
  mediumEpss : Option ℕ
  lowEpss : Option ℕ

/-- `priority_distribution`. -/
structure PriorityDistribution where
  criticalPriority : ℕ
  highPriority : ℕ
  mediumPriority : ℕ
  monitor : ℕ

/-- What `dashboard_stats` returns. -/
structure DashboardStats where
  totalCves : ℕ
  kevCount : ℕ
  productCount : ℕ
  severity : List (Option Severity × ℕ)
  topProducts : List TopProduct
  recentCves : List RecentCve
  epssDistribution : EpssDistribution
  priorityDistribution : PriorityDistribution

/-! ### The queries -/

/-- The order of the rows that are tied. -/
structure StatsOrders where
  severities : RowOrder (Option Severity × ℕ)
  products : RowOrder Product
  cves : RowOrder MirrorRow

/-- `CASE severity WHEN 'CRITICAL' THEN 1 … ELSE 5 END`. -/
def severityRank : Option Severity → ℕ
  | some .critical => 1
  | some .high => 2
  | some .medium => 3
  | some .low => 4
  | _ => 5

/-- `SUM(CASE WHEN p THEN 1 ELSE 0 END)`. -/
def sumCases {ρ : Type} (p : ρ → Bool) (rows : List ρ) : Option ℕ :=
  if rows.isEmpty then none else some (rows.countP p)

/-- The query for `severity`. -/
def severityRows (order : RowOrder (Option Severity × ℕ)) (cves : Mirror) :
    List (Option Severity × ℕ) :=
  let groups := Select.groupBy (fun c : MirrorRow => c.severity) cves.rows
  Select.orderBy (fun a b => compare (severityRank a.1) (severityRank b.1))
    (order.arrange (groups.map fun group => (group.1, group.2.length)))

/-- The query for `top_products`. -/
def topRows (order : RowOrder Product) (s : Dataset) : List TopProduct :=
  let ordered := Select.orderBy (fun a b => (Select.desc a.criticalCount b.criticalCount).then
    (Select.desc a.cveCount b.cveCount)) (order.arrange s.db.products.rows)
  (ordered.take 10).map fun p => ⟨p.id, p.name, p.version, p.vendor, p.cveCount, p.criticalCount,
    (s.syncColumns p.id).lastSyncedAt⟩

/-- The query for `recent_cves`. -/
def recentRows (jsonbOut : Json → String) (order : RowOrder MirrorRow) (cves : Mirror) :
    List RecentCve :=
  let ordered := Select.orderBy (fun a b => Select.desc a.publishedAt b.publishedAt)
    (order.arrange cves.rows)
  (ordered.take 10).map fun c => ⟨c.cveId, c.severity, c.cvssV3Score, c.epssScore, c.isKev,
    c.publishedAt, descriptionOf jsonbOut c.rawPayload⟩

/-- The query for `epss_distribution`. -/
def epssRow (cves : Mirror) : EpssDistribution :=
  let scores := cves.rows.filterMap fun c => c.epssScore
  { highEpss := sumCases (fun x : ℚ => decide (1 / 2 ≤ x)) scores
    mediumEpss := sumCases (fun x : ℚ => decide (1 / 10 ≤ x) && decide (x < 1 / 2)) scores
    lowEpss := sumCases (fun x : ℚ => decide (x < 1 / 10)) scores }

/-- The query for `priority_distribution`. -/
def priorityRow (findings : List Finding) : PriorityDistribution :=
  let opened := findings.filter fun f => f.status == .opened
  let counting (p : ℚ → Bool) := opened.countP fun f => f.priorityScore.any p
  { criticalPriority := counting fun x => decide (80 ≤ x)
    highPriority := counting fun x => decide (60 ≤ x) && decide (x < 80)
    mediumPriority := counting fun x => decide (40 ≤ x) && decide (x < 60)
    monitor := opened.countP fun f => f.priorityScore.all fun x => decide (x < 40) }

/-- The results of the queries. -/
def computeStats (ctx : Answering) (orders : StatsOrders) (s : Dataset) : DashboardStats where
  totalCves := s.cves.rows.length
  kevCount := s.cves.rows.countP fun c => c.isKev
  productCount := s.db.products.rows.length
  severity := severityRows orders.severities s.cves
  topProducts := topRows orders.products s
  recentCves := recentRows ctx.jsonbOut orders.cves s.cves
  epssDistribution := epssRow s.cves
  priorityDistribution := priorityRow s.db.findings.rows

/-- `_STATS_TTL`. -/
def statsTtl : ℕ := 300

/-- What a dashboard answers with: the payload in Redis, or the result of its queries, which it
writes there under the key for some seconds. -/
inductive Cached (α : Type)
  | hit (payload : Json)
  | computed (key : String) (ttl : ℕ) (result : α)

/-- **`dashboard_stats`**. -/
def dashboardStats (ctx : Answering) (orders : StatsOrders) (cache : DashboardCache)
    (s : Dataset) : Cached DashboardStats :=
  match cache "dashboard:stats" with
  | some payload => .hit payload
  | none => .computed "dashboard:stats" statsTtl (computeStats ctx orders s)

end CveManagement
