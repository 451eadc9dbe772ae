import CveManagement.Exploitability.VulnxClient
import CveManagement.Ingestion.DeltaClients
import CveManagement.Library.Ties
import CveManagement.Priority.SqlScore
import CveManagement.Query.Local
import CveManagement.Sync.Candidates
import Mathlib

/-!
# The list of CVEs

`list_cves` of `app/api/routers/cves.py`: the CVEs that pass the filters, of a product or of all,
sorted and cut into pages. With a product the rows are joined with its findings, and the stored
score of a finding counts; where there is none, the score is computed from the columns of the CVE.
-/

namespace CveManagement

/-! ### Filters -/

/-- The other columns of `cves` that the list reads. -/
structure ListColumns extends CveDetails where
  source : String
  exploitabilityUpdatedAt : Option Instant

/-- **The filters that the list and the export share.** -/
structure CveFilters where
  productId : Option ℕ
  severity : Option String
  kev : Option String
  minEpss : Option ℚ
  minPriority : Option ℤ
  keyword : Option String
  year : Option ℤ

/-- The parameters of `list_cves`. -/
structure CveListQuery extends CveFilters where
  maxEpss : Option ℚ
  hasPoc : Option String
  hasNuclei : Option String
  sinceDays : Option ℤ
  sinceField : Option String
  sort : String
  order : String
  page : ℤ
  limit : ℤ

/-- How the database compares texts; texts that are equal to it are the same. -/
structure Collation where
  cmp : String → String → Ordering
  trans : Std.TransCmp cmp
  eq_of_cmp : ∀ {a b}, cmp a b = .eq → a = b

/-- What a query is answered with: the texts of Python and of the database, the time, and the
columns beside the mirror. -/
structure CveContext where
  py : PyCase
  cf : CaseFold
  collation : Collation
  jsonbOut : Json → String
  now : Instant
  columns : String → ListColumns

/-- A text that is there and not empty. -/
def given (text : Option String) : Option String := text.filter fun s => s != ""

/-- `s.lower() == text`, of an option that may be missing. -/
def PyCase.reads (py : PyCase) (option : Option String) (text : String) : Bool :=
  py.lower (option.getD "").toList == text.toList

namespace CveContext

variable (ctx : CveContext)

/-- `c.severity = ANY(…)`, of the texts between the commas. -/
def admitsSeverity (severity : Option String) (c : MirrorRow) : Bool :=
  (given severity).all fun text => c.severity.any fun s =>
    (text.toList.splitOn ',').any fun part => ctx.py.upper (ctx.py.strip part) == s.text.toList

/-- `c.epss_score >= …`. -/
def admitsMinEpss (minEpss : Option ℚ) (c : MirrorRow) : Bool :=
  minEpss.all fun q => c.epssScore.any fun x => decide (q ≤ x)

/-- `EXTRACT(YEAR FROM c.published_at) = …`, in UTC. -/
def admitsYear (year : Option ℤ) (c : MirrorRow) : Bool :=
  year.all fun y => yearOfOrdinal (c.publishedAt.date + epochOrdinal) == y

/-- The `ILIKE` on the id and on the description. -/
def admitsKeyword (keyword : Option String) (c : MirrorRow) : Bool :=
  (given keyword).all fun text =>
    let pattern := '%' :: text.toList ++ ['%']
    ctx.cf.ilike c.cveId.toList pattern ||
      (descriptionOf ctx.jsonbOut c.rawPayload).any fun d => ctx.cf.ilike d.toList pattern

/-- **The conditions that the list and the export both have.** -/
def admitsShared (filters : CveFilters) (c : MirrorRow) : Bool :=
  ctx.admitsSeverity filters.severity c && admitsMinEpss filters.minEpss c &&
    admitsYear filters.year c && ctx.admitsKeyword filters.keyword c

end CveContext

/-! ### The query -/

/-- A CVE, with the finding of the product, if there is a product. -/
abbrev CveEntry := MirrorRow × Option Finding

/-- `cves c`, or `cves c JOIN findings f ON f.cve_id = c.cve_id AND f.product_id = …`. -/
def cveEntries (productId : Option ℕ) (s : System) : List CveEntry :=
  match productId with
  | none => s.cves.rows.map fun c => (c, none)
  | some p =>
    (Select.innerJoin (fun c f => f.cveId == c.cveId && f.productId == p) s.cves.rows
      s.db.findings.rows).map fun r => (r.1, some r.2)

namespace CveContext

variable (ctx : CveContext)

/-- `priority_expr`. -/
def priority (e : CveEntry) : ℚ :=
  (e.2.bind Finding.priorityScore).getD (e.1.listCvesPriority ctx.now)

/-- The filter of KEV, which takes `true` and `false`. -/
def listsKev (kev : Option String) (c : MirrorRow) : Bool :=
  if ctx.py.reads kev "true" then c.isKev
  else if ctx.py.reads kev "false" then !c.isKev
  else true

/-- The filter of the score. -/
def listsPriority (minPriority : Option ℤ) (e : CveEntry) : Bool :=
  minPriority.all fun m => decide ((m : ℚ) ≤ ctx.priority e)

/-- The filter of a flag that may be unknown. -/
def listsFlag (option : Option String) (flag : Option Bool) : Bool :=
  if ctx.py.reads option "true" then flag == some true
  else if ctx.py.reads option "false" then flag != some true
  else true

/-- The filter of the last days. -/
def listsSince (sinceDays : Option ℤ) (sinceField : Option String) (c : MirrorRow) : Bool :=
  (sinceDays.filter fun d => decide (0 < d)).all fun d =>
    let field := if sinceField = some "exploitability_updated_at" then
      (ctx.columns c.cveId).exploitabilityUpdatedAt else some c.publishedAt
    field.any fun t => decide (ctx.now - min d 3650 * dayMicros ≤ t)

/-- The conditions of `list_cves`. -/
def lists (q : CveListQuery) (e : CveEntry) : Bool :=
  ctx.admitsShared q.toCveFilters e.1 && ctx.listsKev q.kev e.1 &&
    (q.maxEpss.all fun x => e.1.epssScore.any fun y => decide (y ≤ x)) &&
    ctx.listsPriority q.minPriority e && ctx.listsFlag q.hasPoc e.1.hasPublicPoc &&
    ctx.listsFlag q.hasNuclei e.1.hasNucleiTemplate && ctx.listsSince q.sinceDays q.sinceField e.1

/-- **The rows of the list.** -/
def listed (q : CveListQuery) (s : System) : List CveEntry :=
  (cveEntries q.productId s).filter (ctx.lists q)

/-- `ASC` or `DESC`. -/
def directed {κ : Type} [LinearOrder κ] (ascending : Bool) (a b : κ) : Ordering :=
  if ascending then compare a b else Select.desc a b

/-- The columns of `_VALID_SORTS`. -/
inductive SortColumn
  | priorityScore
  | cvssV3Score
  | epssScore
  | publishedAt
  | cveId

/-- `sort if sort in _VALID_SORTS else "priority_score"`. -/
def sortColumn (sort : String) : SortColumn :=
  if sort = "cvss_v3_score" then .cvssV3Score
  else if sort = "epss_score" then .epssScore
  else if sort = "published_at" then .publishedAt
  else if sort = "cve_id" then .cveId
  else .priorityScore

/-- The `ORDER BY`, `NULLS LAST`; of these columns two may be `NULL`. -/
def compareBy (column : SortColumn) (ascending : Bool) (a b : CveEntry) : Ordering :=
  match column with
  | .priorityScore => directed ascending (ctx.priority a) (ctx.priority b)
  | .cvssV3Score => Select.nullsLast (directed ascending) a.1.cvssV3Score b.1.cvssV3Score
  | .epssScore => Select.nullsLast (directed ascending) a.1.epssScore b.1.epssScore
  | .publishedAt => directed ascending (a.1.publishedAt : ℤ) b.1.publishedAt
  | .cveId =>
    if ascending then ctx.collation.cmp a.1.cveId b.1.cveId
    else ctx.collation.cmp b.1.cveId a.1.cveId

/-- The order of the list. -/
def listOrder (q : CveListQuery) (a b : CveEntry) : Ordering :=
  ctx.compareBy (sortColumn q.sort) (ctx.py.reads (some q.order) "asc") a b

end CveContext

/-- A row as it is returned. -/
structure CveListRow where
  cveId : String
  source : String
  severity : Option Severity
  cvssV3Score : Option ℚ
  cvssV2Score : Option ℚ
  epssScore : Option ℚ
  epssPercentile : Option ℚ
  inCisaKev : Bool
  kevAddedDate : Option Date
  publishedAt : Instant
  lastModifiedAt : Instant
  hasPublicPoc : Option Bool
  hasNucleiTemplate : Option Bool
  description : Option String
  priorityScore : ℚ
  /-- `match_confidence`, `finding_status` and `assigned_to`, with a product. -/
  finding : Option (Option Confidence × FindingStatus × Option String)

/-- `_row_to_dict`, of a row of the query. -/
def CveContext.row (ctx : CveContext) (e : CveEntry) : CveListRow where
  cveId := e.1.cveId
  source := (ctx.columns e.1.cveId).source
  severity := e.1.severity
  cvssV3Score := e.1.cvssV3Score
  cvssV2Score := e.1.cvssV2Score
  epssScore := e.1.epssScore
  epssPercentile := (ctx.columns e.1.cveId).epssPercentile
  inCisaKev := e.1.isKev
  kevAddedDate := (ctx.columns e.1.cveId).kevAddedDate
  publishedAt := e.1.publishedAt
  lastModifiedAt := (ctx.columns e.1.cveId).lastModifiedAt
  hasPublicPoc := e.1.hasPublicPoc
  hasNucleiTemplate := e.1.hasNucleiTemplate
  description := descriptionOf ctx.jsonbOut e.1.rawPayload
  priorityScore := ctx.priority e
  finding := e.2.map fun f => (f.matchConfidence, f.status, f.assignedTo)

/-- What `list_cves` returns. -/
structure CveList where
  data : List CveListRow
  total : ℕ
  page : ℤ
  limit : ℤ
  pages : ℤ

/-- The argument of a comparison with the computed score is of type `integer`. -/
def int4 (n : ℤ) : Prop := -2 ^ 31 ≤ n ∧ n < 2 ^ 31

instance (n : ℤ) : Decidable (int4 n) := inferInstanceAs (Decidable (_ ∧ _))

/-- **`list_cves`**; the rows that are tied come in the given order. -/
def listCves (ctx : CveContext) (order : RowOrder CveEntry) (q : CveListQuery) (s : System) :
    Except String CveList :=
  let page := max 1 q.page
  let limit := min 200 (max 1 q.limit)
  let rows := ctx.listed q s
  if q.productId = none ∧ ∃ m ∈ q.minPriority, ¬int4 m then .error "value out of int32 range"
  else do
    let data ← Select.page limit ((page - 1) * limit)
      (Select.orderBy (ctx.listOrder q) (order.arrange rows))
    let total := (rows.map fun e => e.1.cveId).dedup.length
    return {
      data := data.map ctx.row
      total := total
      page := page
      limit := limit
      pages := (total + limit - 1) / limit }

/-! ### What the list returns -/

section Listed

variable {ctx : CveContext} {q : CveListQuery} {s : System} {productId : Option ℕ}

/-- **No CVE is listed twice.** -/
theorem nodup_cveIds (productId : Option ℕ) (s : System) :
    ((cveEntries productId s).map fun e => e.1.cveId).Nodup := by
  cases productId with
  | none =>
    rw [cveEntries, List.map_map]
    exact s.cves.uniqueCve
  | some p =>
    have hone : ∀ c ∈ s.cves.rows, (s.db.findings.rows.filter fun f =>
        f.cveId == c.cveId && f.productId == p).length ≤ 1 := by
      intro c _
      -- all of them are about the same product and the same CVE
      refine Select.length_filter_le_one (k := (p, c.cveId)) s.db.uniqueFinding fun f hboth => ?_
      rw [Bool.and_eq_true, beq_iff_eq, beq_iff_eq] at hboth
      exact Prod.ext hboth.2 hboth.1
    have hids : (cveEntries (some p) s).map (fun e => e.1.cveId) =
        ((Select.innerJoin (fun c f => f.cveId == c.cveId && f.productId == p) s.cves.rows
          s.db.findings.rows).map Prod.fst).map MirrorRow.cveId := by
      rw [cveEntries, List.map_map, List.map_map]
      rfl
    rw [hids]
    exact s.cves.uniqueCve.sublist ((Select.map_fst_innerJoin_sublist hone).map MirrorRow.cveId)

instance transCmp_directed {κ : Type} [LinearOrder κ] (ascending : Bool) :
    Std.TransCmp (CveContext.directed ascending : κ → κ → Ordering) := by
  cases ascending
  · exact Select.transCmp_desc
  · exact inferInstanceAs (Std.TransCmp (compare : κ → κ → Ordering))

instance transCmp_compareBy (ctx : CveContext) (column : CveContext.SortColumn)
    (ascending : Bool) : Std.TransCmp (ctx.compareBy column ascending) := by
  have hcollation := ctx.collation.trans
  cases column with
  | priorityScore =>
    change Std.TransCmp fun a b => CveContext.directed ascending (ctx.priority a) (ctx.priority b)
    exact Select.transCmp_on _
  | cvssV3Score =>
    change Std.TransCmp fun a b : CveEntry =>
      Select.nullsLast (CveContext.directed ascending) a.1.cvssV3Score b.1.cvssV3Score
    exact Select.transCmp_on fun e : CveEntry => e.1.cvssV3Score
  | epssScore =>
    change Std.TransCmp fun a b : CveEntry =>
      Select.nullsLast (CveContext.directed ascending) a.1.epssScore b.1.epssScore
    exact Select.transCmp_on fun e : CveEntry => e.1.epssScore
  | publishedAt =>
    change Std.TransCmp fun a b : CveEntry =>
      CveContext.directed ascending (a.1.publishedAt : ℤ) b.1.publishedAt
    exact Select.transCmp_on fun e : CveEntry => (e.1.publishedAt : ℤ)
  | cveId =>
    have hids : Std.TransCmp fun a b : CveEntry => ctx.collation.cmp a.1.cveId b.1.cveId :=
      Select.transCmp_on fun e : CveEntry => e.1.cveId
    cases ascending
    · exact hids.opposite
    · exact hids

end Listed

end CveManagement
