import CveManagement.Exploitability.VulnxClient
import CveManagement.Ingestion.CircuitBreaker
import CveManagement.Priority.Freshness
import Mathlib

/-!
# The two refreshes of the exploitability flags

`run_exploitability_refresh` of `app/ingestion/exploitability_refresh.py`, which picks the stale
CVEs of the table for itself, and `_do_refresh` of `app/query/vulnx_enricher.py`, which is given
them. Both ask vulnx through its circuit, and both write the same: the flags and the time of the
CVEs that have an answer, and the time alone of those that have none. The scores of the findings,
which the refreshes recompute at the end, are not looked at here.
-/

namespace CveManagement

/-! ### The table -/

/-- The table `cves`, with the column `exploitability_updated_at`. -/
structure IntelStore where
  cves : Mirror
  exploitabilityUpdatedAt : String → Option Instant

namespace MirrorRow

/-- `COALESCE(cvss_v3_score, cvss_v2_score, 0)`. -/
def coalescedScore (c : MirrorRow) : ℚ := (c.cvssV3Score.or c.cvssV2Score).getD 0

/-- The `ORDER BY` of `_STALE_CVE_SQL`. -/
def staleBefore (a b : MirrorRow) : Bool :=
  if a.isKev ≠ b.isKev then a.isKev
  else if a.coalescedScore ≠ b.coalescedScore then b.coalescedScore < a.coalescedScore
  else b.publishedAt ≤ a.publishedAt

end MirrorRow

namespace IntelStore

/-- The row of a CVE gets a time, if there is one. -/
def stamp (s : IntelStore) (times : String → Option Instant) (cveId : String) (t : Instant) :
    String → Option Instant :=
  if (s.cves.get? cveId).isSome then Function.update times cveId (some t) else times

/-- **What a refresh writes** for its ids: `_UPDATE_SQL` for those that the mapping has, and then
`_UPDATE_NOT_FOUND_SQL` for the others. -/
def book (s : IntelStore) (now : Instant) (cveIds : List String) (intel : Intel) : IntelStore :=
  let updateRows := cveIds.filterMap fun cid => (intel cid).map fun r => (cid, r)
  let notFoundRows := cveIds.filter fun cid => (intel cid).isNone
  let found := updateRows.foldl (fun times row => s.stamp times row.1 row.2.fetchedAt)
    s.exploitabilityUpdatedAt
  { cves := s.cves.update (MirrorRow.flags (updateRows.map fun row => (row.1, row.2.toIntelRecord)))
    exploitabilityUpdatedAt := notFoundRows.foldl (fun times cid => s.stamp times cid now) found }

/-- The condition of `_STALE_CVE_SQL`. -/
def staleRow (s : IntelStore) (dbNow : Instant) (days : ℤ) (c : MirrorRow) : Bool :=
  (s.exploitabilityUpdatedAt c.cveId).all fun t => decide (t < dbNow - days * dayMicros)

/-- `_STALE_CVE_SQL`. -/
def staleCveIds (s : IntelStore) (dbNow : Instant) (days : ℤ) (order : RowOrder MirrorRow)
    (page : ℕ) : List String :=
  (((order.arrange (s.cves.rows.filter (s.staleRow dbNow days))).insertionSort fun a b =>
    MirrorRow.staleBefore a b = true).take page).map MirrorRow.cveId

end IntelStore

/-! ### Calls through the circuit -/

/-- The settings of the client and of the job. -/
structure VulnxSettings where
  vulnxBatchSize : ℤ
  vulnxStalenessDays : ℤ

/-- What a call through the circuit meets with. -/
structure FetchEnv where
  batches : ℕ → BatchEnv
  clock : CallClock

/-- **What a call of `fetch_intel` leaves behind**, through the circuit if there is one. -/
structure GuardedFetch where
  circuit : Option CircuitBreaker
  daily : DailyCounter
  sent : List (List String)
  result : Except CallError Intel

/-- `circuit.call(vulnx.fetch_intel, cve_ids)`. -/
def guardedFetch (py : PyCase) (settings : VulnxSettings) (env : FetchEnv)
    (circuit : Option CircuitBreaker) (daily : DailyCounter) (cveIds : List String) :
    GuardedFetch :=
  let fetched := fetchIntel py settings.vulnxBatchSize env.batches daily cveIds
  match circuit with
  | none => ⟨none, fetched.daily, fetched.sent, fetched.result.mapError fun e => .raised e.text⟩
  | some b =>
    let call := b.call env.clock (fetched.result.mapError FetchError.text)
    if call.invoked then ⟨some call.circuit, fetched.daily, fetched.sent, call.result⟩
    else ⟨some call.circuit, daily, [], call.result⟩

/-! ### The refreshes -/

/-- What a refresh leaves behind. -/
structure RefreshRun where
  circuit : Option CircuitBreaker
  daily : DailyCounter
  sent : List (List String)
  store : IntelStore

/-- **`_do_refresh`.** -/
def doRefresh (py : PyCase) (settings : VulnxSettings) (env : FetchEnv)
    (circuit : Option CircuitBreaker) (daily : DailyCounter) (now : Instant) (cveIds : List String)
    (s : IntelStore) : RefreshRun :=
  let fetched := guardedFetch py settings env circuit daily cveIds
  match fetched.result with
  | .error _ => ⟨fetched.circuit, fetched.daily, fetched.sent, s⟩
  | .ok intel => ⟨fetched.circuit, fetched.daily, fetched.sent, s.book now cveIds intel⟩

/-- `ExploitabilityRefreshResult`, without the duration. -/
structure ExploitabilityRefreshResult where
  job : String
  updated : ℕ
  skipped : ℕ
  notFound : ℕ
  errors : ℕ
  dailyLimitHit : Bool

/-- What the job picks its ids with: the clock of the database, the order of its rows, and the
`page_size`. -/
structure StaleQuery where
  dbNow : Instant
  order : RowOrder MirrorRow
  pageSize : Option ℕ

/-- The ids that the job is about. -/
def StaleQuery.cveIds (query : StaleQuery) (settings : VulnxSettings) (s : IntelStore) :
    List String :=
  s.staleCveIds query.dbNow (max 1 settings.vulnxStalenessDays) query.order
    ((query.pageSize.filter (· ≠ 0)).getD 5000)

/-- **`run_exploitability_refresh`.** The circuit guards all of `_do`, which raises what
`fetch_intel` raises; if nothing is stale, `_do` returns at once, as `fetch_intel` does without
ids. -/
def runExploitabilityRefresh (py : PyCase) (settings : VulnxSettings) (env : FetchEnv)
    (circuit : CircuitBreaker) (daily : DailyCounter) (now : Instant) (query : StaleQuery)
    (s : IntelStore) :
    ExploitabilityRefreshResult × RefreshRun :=
  let cveIds := query.cveIds settings s
  let fetched := guardedFetch py settings env (some circuit) daily cveIds
  match fetched.result with
  | .error _ =>
    (⟨"vulnx_refresh", 0, 0, 0, 1, false⟩, ⟨fetched.circuit, fetched.daily, fetched.sent, s⟩)
  | .ok intel =>
    (⟨"vulnx_refresh", (cveIds.filter fun cid => (intel cid).isSome).length, 0,
        (cveIds.filter fun cid => (intel cid).isNone).length, 0,
        decide ((fetched.daily.count : ℤ) - daily.count < cveIds.length)⟩,
      ⟨fetched.circuit, fetched.daily, fetched.sent, s.book now cveIds intel⟩)

/-- **The job is the other refresh, of the stale ids.** -/
theorem runExploitabilityRefresh_eq (py : PyCase) (settings : VulnxSettings) (env : FetchEnv)
    (circuit : CircuitBreaker) (daily : DailyCounter) (now : Instant) (query : StaleQuery)
    (s : IntelStore) :
    (runExploitabilityRefresh py settings env circuit daily now query s).2 =
      doRefresh py settings env (some circuit) daily now (query.cveIds settings s) s := by
  simp only [runExploitabilityRefresh, doRefresh]
  split <;> rfl

end CveManagement
