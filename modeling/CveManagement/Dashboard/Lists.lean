import CveManagement.Dashboard.Dataset
import CveManagement.Governance.Sla
import Mathlib

/-!
# The lists of products and findings

`list_products`, `list_findings` and `sla_summary`. Only the first looks at `is_deleted`: what it
lists depends on the live products alone (`CveManagement.SameButDeleted.listProducts`). The other
two list and count the findings of all products.
-/

namespace CveManagement

/-- What a query is answered with that its rows do not determine: the clock, the text of a value of
type `jsonb`, and the collation of texts. -/
structure Answering where
  now : Instant
  jsonbOut : Json → String
  collate : String → String → Ordering

/-! ### Products -/

/-- A row of `list_products`. -/
structure ProductRow where
  id : ℕ
  name : String
  version : Option String
  vendor : Option String
  cpeKeyword : Option String
  cpeConfidence : Option CpeConfidence
  syncStatus : SyncStatus
  lastSyncedAt : Option Instant
  cveCount : ℕ
  criticalCount : ℕ
  createdAt : Instant
  updatedAt : Instant
  activeJobId : Option ℕ
  jobStatus : Option JobStatus
  attempts : Option ℕ
  jobScheduledAt : Option Instant

/-- The columns of a product and of its active job, and `_product_row`. -/
def ProductRow.ofJoined (sync : SyncColumns) (details : ProductDetails)
    (row : Product × Option SyncJob) : ProductRow where
  id := row.1.id
  name := row.1.name
  version := row.1.version
  vendor := row.1.vendor
  cpeKeyword := row.1.normalizedCpe
  cpeConfidence := details.cpeConfidence
  syncStatus := sync.syncStatus
  lastSyncedAt := sync.lastSyncedAt
  cveCount := row.1.cveCount
  criticalCount := row.1.criticalCount
  createdAt := details.createdAt
  updatedAt := row.1.updatedAt
  activeJobId := row.2.map SyncJob.id
  jobStatus := row.2.map SyncJob.status
  attempts := row.2.map SyncJob.attempts
  jobScheduledAt := row.2.map SyncJob.scheduledAt

/-- `p.critical_count DESC, p.cve_count DESC, p.name ASC`. -/
def productOrder (collate : String → String → Ordering) (a b : Product × Option SyncJob) :
    Ordering :=
  ((Select.desc a.1.criticalCount b.1.criticalCount).then
    (Select.desc a.1.cveCount b.1.cveCount)).then (collate a.1.name b.1.name)

/-- **`list_products`**. -/
def listProducts (ctx : Answering) (order : RowOrder (Product × Option SyncJob)) (s : Dataset) :
    List ProductRow :=
  let joined := Select.leftJoin (fun p j => j.targetId == p.id && j.active) s.db.products.rows
    s.syncJobs.rows
  let rows := joined.filter fun row => !row.1.isDeleted
  (Select.orderBy (productOrder ctx.collate) (order.arrange rows)).map fun row =>
    .ofJoined (s.syncColumns row.1.id) (s.productDetails row.1.id) row

/-- **The list of products does not see deleted ones.** -/
theorem SameButDeleted.listProducts {s s' : Dataset} (h : SameButDeleted s s') (ctx : Answering)
    (order : RowOrder (Product × Option SyncJob)) :
    CveManagement.listProducts ctx order s = CveManagement.listProducts ctx order s' := by
  have hrows : ∀ t : Dataset, (Select.leftJoin (fun p j => j.targetId == p.id && SyncJob.active j)
      t.db.products.rows t.syncJobs.rows).filter (fun row => !row.1.isDeleted) =
        Select.leftJoin (fun p j => j.targetId == p.id && j.active) t.live t.syncJobs.rows :=
    fun t => Select.filter_leftJoin (fun p : Product => !p.isDeleted) _ _ _
  unfold CveManagement.listProducts
  dsimp only
  rw [hrows, hrows, ← h.products, ← h.syncJobs]
  refine List.map_congr_left fun row hrow => ?_
  -- what is listed begins with a live product, and its columns are the same
  have hjoined := (order.perm _).mem_iff.mp ((List.perm_insertionSort _ _).mem_iff.mp hrow)
  obtain ⟨hsync, hdetails⟩ := h.columns row.1 (Select.fst_mem_of_mem_leftJoin hjoined)
  rw [hsync, hdetails]

/-! ### Findings -/

/-- A row of `list_findings`. -/
structure FindingListRow where
  id : ℕ
  productId : ℕ
  cveId : String
  status : FindingStatus
  matchConfidence : Option Confidence
  priorityScore : Option ℚ
  assignedTo : Option String
  dueDate : Option Date
  notes : Option String
  createdAt : Instant
  updatedAt : Instant
  severity : Option Severity
  cvssV3Score : Option ℚ
  epssScore : Option ℚ
  isKev : Bool
  description : Option String
  productName : String
  productVersion : Option String

/-- The columns of a finding, its CVE and its product. -/
def findingListRow (jsonbOut : Json → String) (row : (Finding × MirrorRow) × Product) :
    FindingListRow where
  id := row.1.1.id
  productId := row.1.1.productId
  cveId := row.1.1.cveId
  status := row.1.1.status
  matchConfidence := row.1.1.matchConfidence
  priorityScore := row.1.1.priorityScore
  assignedTo := row.1.1.assignedTo
  dueDate := row.1.1.dueDate
  notes := row.1.1.notes
  createdAt := row.1.1.createdAt
  updatedAt := row.1.1.updatedAt
  severity := row.1.2.severity
  cvssV3Score := row.1.2.cvssV3Score
  epssScore := row.1.2.epssScore
  isKev := row.1.2.isKev
  description := descriptionOf jsonbOut row.1.2.rawPayload
  productName := row.2.name
  productVersion := row.2.version

/-- What `list_findings` returns. -/
structure FindingPage where
  data : List FindingListRow
  total : ℕ
  page : ℤ
  limit : ℤ

/-- `($1::text IS NULL OR f.status = $1) AND ($2::text IS NULL OR f.assigned_to = $2)`. -/
def Finding.listed (status owner : Option String) (f : Finding) : Bool :=
  (status.all fun status => f.status.text == status) &&
    owner.all fun owner => f.assignedTo == some owner

/-- **`list_findings`**; what is asked for beyond `bigint` raises. -/
def listFindings (ctx : Answering) (order : RowOrder ((Finding × MirrorRow) × Product))
    (status owner : Option String) (page limit : ℤ) (s : Dataset) : Except String FindingPage := do
  let limit := min 200 (max 1 limit)
  let offset := (page - 1) * limit
  let joined := Select.innerJoin (fun row p => p.id == row.1.productId)
    (Select.innerJoin (fun f c => c.cveId == f.cveId) s.db.findings.rows s.cves.rows)
    s.db.products.rows
  let rows := joined.filter fun row => row.1.1.listed status owner
  let ordered := Select.orderBy (fun a b => LocalQuery.rowOrder a.1 b.1) (order.arrange rows)
  let data ← Select.page limit offset ordered
  return {
    data := data.map (findingListRow ctx.jsonbOut)
    total := s.db.findings.rows.countP (Finding.listed status owner)
    page, limit }

/-! ### The SLA summary -/

/-- The counters of the states. -/
structure SlaCounters where
  onTrack : ℕ
  atRisk : ℕ
  breached : ℕ
  met : ℕ

/-- `{s: 0 for s in _VALID_STATES}`. -/
def SlaCounters.zero : SlaCounters := ⟨0, 0, 0, 0⟩

/-- `counters[state] += 1`. -/
def SlaCounters.count (c : SlaCounters) : SlaState → SlaCounters
  | .onTrack => { c with onTrack := c.onTrack + 1 }
  | .atRisk => { c with atRisk := c.atRisk + 1 }
  | .breached => { c with breached := c.breached + 1 }
  | .met => { c with met := c.met + 1 }

/-- What `sla_summary` returns; the severities in the order in which they are met with. -/
structure SlaSummary where
  matrix : List (String × ℤ)
  kevOverrideDays : ℤ
  atRiskThresholdDays : ℤ
  bySeverity : List (String × SlaCounters)
  totals : SlaCounters
  kevBreached : ℕ

/-- The summary of no row. -/
def SlaSummary.empty : SlaSummary where
  matrix := [Severity.critical, .high, .medium, .low].filterMap fun severity =>
    (slaDays severity).map (severity.text, ·)
  kevOverrideDays := slaKevOverride
  atRiskThresholdDays := CveManagement.atRiskThresholdDays
  bySeverity := []
  totals := .zero
  kevBreached := 0

/-- `counters[severity][state] += 1`, with counters at zero for a severity that is new. -/
def countSeverity (severity : String) (state : SlaState) :
    List (String × SlaCounters) → List (String × SlaCounters)
  | [] => [(severity, SlaCounters.zero.count state)]
  | (severity', counters) :: rest =>
    if severity' = severity then (severity', counters.count state) :: rest
    else (severity', counters) :: countSeverity severity state rest

/-- The loop of `sla_summary` on one row. -/
def SlaSummary.add (today : Date) (summary : SlaSummary) (row : Finding × MirrorRow) :
    SlaSummary :=
  let severity := (row.2.severity.map Severity.text).getD "UNKNOWN"
  let state := computeSlaState row.1.status row.1.dueDate today
  { summary with
    bySeverity := countSeverity severity state summary.bySeverity
    totals := summary.totals.count state
    kevBreached := summary.kevBreached + if state = .breached ∧ row.2.isKev = true then 1 else 0 }

/-- **`sla_summary`**. -/
def slaSummary (ctx : Answering) (order : RowOrder (Finding × MirrorRow)) (s : Dataset) :
    SlaSummary :=
  let rows := Select.innerJoin (fun f c => c.cveId == f.cveId) s.db.findings.rows s.cves.rows
  (order.arrange rows).foldl (SlaSummary.add ctx.now.date) .empty

end CveManagement
