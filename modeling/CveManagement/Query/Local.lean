import CveManagement.Library.Select
import CveManagement.Query.CirclCache
import CveManagement.Query.Engine
import Mathlib

/-!
# The local query

`app/query/local_query.py`: the page of findings of a product that pass the filters, joined with
their CVEs, and how many there are. Both are read from the database in one call, and nothing else
is; the columns of `cves` that only this query returns are kept beside the mirror.
-/

namespace CveManagement

/-! ### What a query returns -/

/-- The texts of `cves.severity`. -/
def Severity.text : Severity → String
  | .critical => "CRITICAL"
  | .high => "HIGH"
  | .medium => "MEDIUM"
  | .low => "LOW"
  | .none => "NONE"

/-- The texts of `findings.match_confidence`. -/
def Confidence.text : Confidence → String
  | .certain => "certain"
  | .uncertain => "uncertain"

/-- The other columns of `cves`. -/
structure CveDetails where
  cvssV3Vector : Option String
  epssPercentile : Option ℚ
  kevAddedDate : Option Date
  lastModifiedAt : Instant

/-- How the database returns what its rows do not determine. -/
structure LocalContext where
  /-- The order of the rows that are tied. -/
  order : RowOrder (Finding × MirrorRow)
  /-- The text of a value of type `jsonb`. -/
  jsonbOut : Json → String

/-- `value->0`. -/
def Json.first : Json → Option Json
  | .arr (item :: _) => some item
  | _ => none

/-- `value->>'key'`. -/
def Json.arrowText (jsonbOut : Json → String) (j : Json) (key : String) : Option String :=
  match j.arrow key with
  | some (.str s) => some s
  | some .null => none
  | other => other.map jsonbOut

/-- `raw_payload->'descriptions'->0->>'value'`. -/
def descriptionOf (jsonbOut : Json → String) (rawPayload : Json) : Option String :=
  ((rawPayload.arrow "descriptions").bind Json.first).bind fun d => d.arrowText jsonbOut "value"

namespace LocalQuery

/-- `FindingRow`. -/
structure FindingRow where
  findingId : ℕ
  productId : ℕ
  cveId : String
  status : FindingStatus
  matchConfidence : Option Confidence
  priorityScore : Option ℚ
  assignedTo : Option String
  dueDate : Option Date
  cvssV3Score : Option ℚ
  cvssV3Vector : Option String
  cvssV2Score : Option ℚ
  severity : Option Severity
  epssScore : Option ℚ
  epssPercentile : Option ℚ
  isKev : Bool
  kevAddedDate : Option Date
  publishedAt : Instant
  lastModifiedAt : Instant
  description : Option String

/-- `_row_to_finding`. -/
def rowToFinding (jsonbOut : Json → String) (details : String → CveDetails)
    (row : Finding × MirrorRow) : FindingRow where
  findingId := row.1.id
  productId := row.1.productId
  cveId := row.1.cveId
  status := row.1.status
  matchConfidence := row.1.matchConfidence
  priorityScore := row.1.priorityScore
  assignedTo := row.1.assignedTo
  dueDate := row.1.dueDate
  cvssV3Score := row.2.cvssV3Score
  cvssV3Vector := (details row.2.cveId).cvssV3Vector
  cvssV2Score := row.2.cvssV2Score
  severity := row.2.severity
  epssScore := row.2.epssScore
  epssPercentile := (details row.2.cveId).epssPercentile
  isKev := row.2.isKev
  kevAddedDate := (details row.2.cveId).kevAddedDate
  publishedAt := row.2.publishedAt
  lastModifiedAt := (details row.2.cveId).lastModifiedAt
  description := descriptionOf jsonbOut row.2.rawPayload

/-! ### The query -/

/-- The conditions that `_FINDINGS_SQL` and `_COUNT_SQL` put on the columns of a finding; an empty
list of statuses is passed as `NULL`. -/
def admitsFinding (filters : QueryFilters) (f : Finding) : Bool :=
  (filters.statuses.all fun statuses => statuses.isEmpty || statuses.contains f.status.text) &&
    filters.confidence.all fun confidence =>
      f.matchConfidence.any fun c => c.text == confidence

/-- And those on the columns of its CVE. -/
def admitsCve (filters : QueryFilters) (c : MirrorRow) : Bool :=
  (filters.severity.all fun severity => c.severity.any fun s => s.text == severity) &&
    (filters.minCvss.all fun q => c.cvssV3Score.any fun x => decide (q ≤ x)) &&
    filters.minEpss.all fun q => c.epssScore.any fun x => decide (q ≤ x)

/-- `findings f JOIN cves c ON c.cve_id = f.cve_id WHERE …`. -/
def selected (filters : QueryFilters) (productId : ℕ) (s : System) : List (Finding × MirrorRow) :=
  (Select.innerJoin (fun f c => c.cveId == f.cveId) s.db.findings.rows s.cves.rows).filter
    fun row => row.1.productId == productId && admitsFinding filters row.1 &&
      admitsCve filters row.2

/-- `f.priority_score DESC NULLS LAST, c.cvss_v3_score DESC NULLS LAST`. -/
def rowOrder (a b : Finding × MirrorRow) : Ordering :=
  (Select.descNullsLast a.1.priorityScore b.1.priorityScore).then
    (Select.descNullsLast a.2.cvssV3Score b.2.cvssV3Score)

/-- **`query_findings`**. -/
def queryFindings (ctx : LocalContext) (productId : ℕ) (filters : QueryFilters)
    (details : String → CveDetails) (s : System) : Except String (QueryResult FindingRow) := do
  let rows := selected filters productId s
  let ordered := Select.orderBy rowOrder (ctx.order.arrange rows)
  let dataRows ← Select.page filters.pageSize ((filters.page - 1) * filters.pageSize) ordered
  return {
    findings := dataRows.map (rowToFinding ctx.jsonbOut details)
    total := rows.length
    page := filters.page
    pageSize := filters.pageSize
    source := .localDb }

/-- `get_product_cpe`. -/
def getProductCpe (productId : ℕ) (s : System) : Option String :=
  (s.db.products.get? productId).bind Product.normalizedCpe

/-! ### What the query sees -/

section Selected

variable {filters : QueryFilters} {productId : ℕ} {s : System}

/-- **The rows of a query** are the findings of the product that pass, with their CVEs. -/
theorem mem_selected_iff {f : Finding} {c : MirrorRow} :
    (f, c) ∈ selected filters productId s ↔ f ∈ s.db.findings.rows ∧
      s.cves.get? f.cveId = some c ∧ f.productId = productId ∧ admitsFinding filters f = true ∧
        admitsCve filters c = true := by
  rw [Mirror.get?_eq_some]
  simp [selected, Select.innerJoin]
  tauto

/-- **A query that takes its page returns it**, with the number of all rows. -/
theorem queryFindings_of_valid (ctx : LocalContext) (details : String → CveDetails)
    (h : Select.ValidPage filters.pageSize ((filters.page - 1) * filters.pageSize)) :
    ∃ result, queryFindings ctx productId filters details s = .ok result ∧
      result.total = (selected filters productId s).length ∧
        (result.total = 0 → result.findings = []) := by
  unfold queryFindings
  dsimp only
  rw [Select.page_of_valid h]
  refine ⟨_, rfl, rfl, fun htotal => ?_⟩
  have hnone : Select.orderBy rowOrder (ctx.order.arrange (selected filters productId s)) = [] := by
    rw [← List.length_eq_zero_iff, Select.length_orderBy, RowOrder.length_arrange]
    exact htotal
  rw [hnone, List.drop_nil, List.take_nil, List.map_nil]

/-- Otherwise it raises. -/
theorem queryFindings_of_not_valid (ctx : LocalContext) (details : String → CveDetails)
    (h : ¬Select.ValidPage filters.pageSize ((filters.page - 1) * filters.pageSize)) :
    ∃ e, queryFindings ctx productId filters details s = .error e := by
  unfold queryFindings
  dsimp only
  obtain ⟨e, he⟩ := Select.page_of_not_valid h
    (Select.orderBy rowOrder (ctx.order.arrange (selected filters productId s)))
  exact ⟨e, by rw [he]; rfl⟩

end Selected

end LocalQuery

end CveManagement
