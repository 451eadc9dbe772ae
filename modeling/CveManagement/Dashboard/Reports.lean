import CveManagement.Dashboard.Exposure
import CveManagement.Dashboard.Lists

/-!
# The reports on findings

`list_findings_by_sla`, `finding_stats`, `dashboard_owner_workload`, and of `dashboard_remediation`
and `dashboard_exec` the counts over all findings. Each is a query of its own. On one database they
agree with each other and with `sla_summary`:

* a list by state has as many findings as the summary counts in that state, up to its limit, and
  they are the ones that are due first (`CveManagement.slaList_agrees`);
* the workloads of the owners, the pipeline and the ages add up to the same numbers; but of the
  findings that are breached the workloads leave out those whose risk is accepted
  (`CveManagement.reports_agree`).
-/

namespace CveManagement

/-! ### Findings by state -/

/-- The text of a state. -/
def SlaState.text : SlaState → String
  | .met => "met"
  | .breached => "breached"
  | .atRisk => "at_risk"
  | .onTrack => "on_track"

/-- `_VALID_STATES`. -/
def validStates : List String := ["on_track", "at_risk", "breached", "met"]

/-- A row of `list_findings_by_sla`. -/
structure SlaListRow where
  id : ℕ
  productId : ℕ
  cveId : String
  status : FindingStatus
  dueDate : Option Date
  priorityScore : Option ℚ
  createdAt : Instant
  severity : Option Severity
  isKev : Bool
  publishedAt : Option Instant
  productName : String
  vendor : Option String
  version : Option String
  slaState : SlaState
  daysOverdue : ℤ

/-- The state of a finding on a day. -/
def Finding.slaState (today : Date) (f : Finding) : SlaState :=
  computeSlaState f.status f.dueDate today

/-- The columns of a finding, its CVE and its product, with its state. -/
def slaListRow (today : Date) (row : (Finding × MirrorRow) × Product) : SlaListRow where
  id := row.1.1.id
  productId := row.1.1.productId
  cveId := row.1.1.cveId
  status := row.1.1.status
  dueDate := row.1.1.dueDate
  priorityScore := row.1.1.priorityScore
  createdAt := row.1.1.createdAt
  severity := row.1.2.severity
  isKev := row.1.2.isKev
  publishedAt := row.1.2.publishedAt
  productName := row.2.name
  vendor := row.2.vendor
  version := row.2.version
  slaState := row.1.1.slaState today
  daysOverdue := CveManagement.daysOverdue row.1.1.dueDate today

/-- What `list_findings_by_sla` returns. -/
structure SlaList where
  data : List SlaListRow
  total : ℕ
  filterState : Option String

/-- `ORDER BY f.due_date ASC NULLS LAST`. -/
def dueOrder (a b : Option Date) : Ordering := Select.nullsLast compare a b

instance : Std.TransCmp dueOrder := inferInstanceAs (Std.TransCmp (Select.nullsLast compare))

/-- The findings with their CVEs and products. -/
def Dataset.joined (s : Dataset) : List ((Finding × MirrorRow) × Product) :=
  Select.innerJoin (fun row p => p.id == row.1.productId)
    (Select.innerJoin (fun f c => c.cveId == f.cveId) s.db.findings.rows s.cves.rows)
    s.db.products.rows

/-- `max(1, min(500, limit))`. -/
def clampSlaLimit (limit : ℤ) : ℕ := (max 1 (min 500 limit)).toNat

/-- **`list_findings_by_sla`**. -/
def listFindingsBySla (ctx : Answering) (order : RowOrder ((Finding × MirrorRow) × Product))
    (state : Option String) (limit : ℤ) (s : Dataset) : Except ApiError SlaList :=
  if state.all (validStates.contains ·) then
    let rows := Select.orderBy (fun a b => dueOrder a.1.1.dueDate b.1.1.dueDate)
      (order.arrange s.joined)
    let out := Select.firstMatches
      (fun row => state.all (· == (row.1.1.slaState ctx.now.date).text))
      (slaListRow ctx.now.date) (clampSlaLimit limit) rows []
    .ok ⟨out, out.length, state⟩
  else .error (.http 422 ("invalid state '" ++ state.getD "" ++
    "', allowed: ['at_risk', 'breached', 'met', 'on_track']"))

/-! ### Counts over all findings -/

/-- What `finding_stats` returns. -/
structure FindingStats where
  openCount : ℕ
  inReviewCount : ℕ
  remediatedCount : ℕ
  falsePositiveCount : ℕ
  acceptedRiskCount : ℕ
  total : ℕ

/-- `COUNT(*) FILTER (WHERE status = …)`. -/
def countStatus (status : FindingStatus) (findings : List Finding) : ℕ :=
  findings.countP fun f => f.status == status

/-- **`finding_stats`**. -/
def findingStats (findings : List Finding) : FindingStats where
  openCount := countStatus .opened findings
  inReviewCount := countStatus .inReview findings
  remediatedCount := countStatus .remediated findings
  falsePositiveCount := countStatus .falsePositive findings
  acceptedRiskCount := countStatus .acceptedRisk findings
  total := findings.length

/-- The pipeline of `dashboard_remediation`. -/
structure PipelineRow where
  openCount : ℕ
  inReviewCount : ℕ
  plannedCount : ℕ
  acceptedRiskCount : ℕ
  remediatedCount : ℕ
  closedCount : ℕ
  falsePositiveCount : ℕ
  total : ℕ

/-- **The query for the pipeline.** -/
def pipelineRow (findings : List Finding) : PipelineRow where
  openCount := countStatus .opened findings
  inReviewCount := countStatus .inReview findings
  plannedCount := countStatus .planned findings
  acceptedRiskCount := countStatus .acceptedRisk findings
  remediatedCount := countStatus .remediated findings
  closedCount := countStatus .closed findings
  falsePositiveCount := countStatus .falsePositive findings
  total := findings.length

/-- The ages of `dashboard_exec`. -/
structure AgingRow where
  bucket0To30 : ℕ
  bucket30To90 : ℕ
  bucket90Plus : ℕ
  openTotal : ℕ

/-- **The query for the ages.** -/
def agingRow (ctx : Answering) (findings : List Finding) : AgingRow where
  bucket0To30 := findings.countP fun f => f.exposed && decide (ctx.daysAgo 30 ≤ f.createdAt)
  bucket30To90 := findings.countP fun f => f.exposed && decide (f.createdAt < ctx.daysAgo 30) &&
    decide (ctx.daysAgo 90 ≤ f.createdAt)
  bucket90Plus := findings.countP fun f => f.exposed && decide (f.createdAt < ctx.daysAgo 90)
  openTotal := findings.countP Finding.exposed

/-! ### Workloads -/

/-- A row of `dashboard_owner_workload`. -/
structure OwnerWorkload where
  owner : String
  total : ℕ
  openCount : ℕ
  inReviewCount : ℕ
  plannedCount : ℕ
  acceptedRiskCount : ℕ
  remediatedCount : ℕ
  closedCount : ℕ
  breachedCount : ℕ
  avgDaysToRemediate : Option ℚ

/-- `COALESCE(NULLIF(TRIM(f.assigned_to), ''), 'unassigned')`. -/
def ownerLabel (assignedTo : Option String) : String :=
  let trim (s : String) :=
    String.ofList ((s.toList.dropWhile (· == ' ')).rdropWhile (· == ' '))
  ((assignedTo.map trim).filter fun s => s != "").getD "unassigned"

/-- `last_remediated`: when the finding was remediated last, by its history. -/
def lastRemediated (history : List HistoryRow) (findingId : ℕ) : Option Instant :=
  ((history.filter fun h => h.newStatus == .remediated && h.findingId == findingId).map
    HistoryRow.changedAt).max?

/-- The finding is pending, and past its due date. -/
def Finding.overdue (today : Date) (f : Finding) : Bool :=
  f.exposed && f.dueDate.any fun due => decide (due < today)

/-- The days that the finding has taken. -/
def daysToRemediate (history : List HistoryRow) (f : Finding) : ℚ :=
  (((lastRemediated history f.id).getD f.updatedAt - f.createdAt : Instant) : ℚ) / dayMicros

/-- The columns of an owner. -/
def ownerWorkloadRow (ctx : Answering) (history : List HistoryRow)
    (group : String × List Finding) : OwnerWorkload where
  owner := group.1
  total := group.2.length
  openCount := countStatus .opened group.2
  inReviewCount := countStatus .inReview group.2
  plannedCount := countStatus .planned group.2
  acceptedRiskCount := countStatus .acceptedRisk group.2
  remediatedCount := countStatus .remediated group.2
  closedCount := countStatus .closed group.2
  breachedCount := group.2.countP (Finding.overdue ctx.now.date)
  avgDaysToRemediate := roundedAverage
    ((group.2.filter fun f => f.status == .remediated).map (daysToRemediate history))

/-- What `dashboard_owner_workload` returns. -/
structure OwnerReport where
  owners : List OwnerWorkload
  totalOwners : ℕ

/-- **`dashboard_owner_workload`**. -/
def ownerWorkload (ctx : Answering) (order : RowOrder OwnerWorkload) (s : Dataset) :
    OwnerReport :=
  let groups := Select.groupBy (fun f : Finding => ownerLabel f.assignedTo) s.db.findings.rows
  let rows := Select.orderBy (fun a b => ((Select.desc a.breachedCount b.breachedCount).then
      (Select.desc a.openCount b.openCount)).then (ctx.collate a.owner b.owner))
    (order.arrange (groups.map (ownerWorkloadRow ctx s.db.findingsHistory.rows)))
  ⟨rows, rows.length⟩

/-! ### The joins lose nothing -/

section Joined

variable (s : Dataset)

theorem one_cve {f : Finding} (hf : f ∈ s.db.findings.rows) :
    (s.cves.rows.filter fun c => c.cveId == f.cveId).length = 1 := by
  obtain ⟨c, hc⟩ := Option.isSome_iff_exists.mp (s.finding_cve f hf)
  obtain ⟨hmem, hid⟩ := Mirror.get?_eq_some.mp hc
  exact Select.length_filter_eq_one s.cves.uniqueCve ⟨c, hmem, hid⟩

theorem one_product {f : Finding} (hf : f ∈ s.db.findings.rows) :
    (s.db.products.rows.filter fun p => p.id == f.productId).length = 1 := by
  obtain ⟨p, hp⟩ := Option.isSome_iff_exists.mp (s.finding_product f hf)
  obtain ⟨hmem, hid⟩ := Table.get?_eq_some.mp hp
  exact Select.length_filter_eq_one s.db.products.nodup ⟨p, hmem, hid⟩

/-- Each finding has one CVE. -/
theorem map_fst_withCve : (Select.innerJoin (fun f c => c.cveId == f.cveId) s.db.findings.rows
    s.cves.rows).map Prod.fst = s.db.findings.rows :=
  Select.map_fst_innerJoin fun _ hf => one_cve s hf

/-- **Each finding has one CVE and one product.** -/
theorem map_joined : s.joined.map (fun row => row.1.1) = s.db.findings.rows := by
  have hproduct : s.joined.map Prod.fst = Select.innerJoin (fun f c => c.cveId == f.cveId)
      s.db.findings.rows s.cves.rows := by
    refine Select.map_fst_innerJoin fun row hrow => one_product s ?_
    rw [← map_fst_withCve s]
    exact List.mem_map_of_mem hrow
  rw [← map_fst_withCve s, ← hproduct, List.map_map]
  rfl

end Joined

/-! ### Counts by state -/

/-- A counter of a state. -/
def SlaCounters.get (c : SlaCounters) : SlaState → ℕ
  | .onTrack => c.onTrack
  | .atRisk => c.atRisk
  | .breached => c.breached
  | .met => c.met

/-- The number of findings in a state. -/
def countState (today : Date) (state : SlaState) (findings : List Finding) : ℕ :=
  findings.countP fun f => f.slaState today == state

@[simp] theorem get_count (c : SlaCounters) (state state' : SlaState) :
    (c.count state).get state' = c.get state' + if state = state' then 1 else 0 := by
  cases state <;> cases state' <;> rfl

/-- **A severity is counted once**, whether it is new or not. -/
theorem sum_countSeverity (severity : String) (state state' : SlaState)
    (l : List (String × SlaCounters)) :
    ((countSeverity severity state l).map fun e => e.2.get state').sum =
      (l.map fun e => e.2.get state').sum + if state = state' then 1 else 0 := by
  induction l with
  | nil =>
    rw [countSeverity, List.map_singleton, List.sum_singleton, get_count]
    cases state' <;> rfl
  | cons e l ih =>
    obtain ⟨severity', counters⟩ := e
    rw [countSeverity]
    by_cases h : severity' = severity
    · rw [if_pos h, List.map_cons, List.map_cons, List.sum_cons, List.sum_cons, get_count,
        Nat.add_right_comm]
    · rw [if_neg h, List.map_cons, List.map_cons, List.sum_cons, List.sum_cons, ih, Nat.add_assoc]

/-- **What the loop of `sla_summary` counts.** -/
theorem get_foldl_add (today : Date) (state : SlaState) (rows : List (Finding × MirrorRow))
    (summary : SlaSummary) :
    (rows.foldl (SlaSummary.add today) summary).totals.get state =
        summary.totals.get state + countState today state (rows.map Prod.fst) ∧
      ((rows.foldl (SlaSummary.add today) summary).bySeverity.map fun e => e.2.get state).sum =
        (summary.bySeverity.map fun e => e.2.get state).sum +
          countState today state (rows.map Prod.fst) := by
  induction rows generalizing summary with
  | nil => exact ⟨rfl, rfl⟩
  | cons row rows ih =>
    obtain ⟨htotals, hseverity⟩ := ih (summary.add today row)
    have hcount : countState today state ((row :: rows).map Prod.fst) =
        countState today state (rows.map Prod.fst) +
          if computeSlaState row.1.status row.1.dueDate today = state then 1 else 0 := by
      rw [countState, List.map_cons, List.countP_cons, countState]
      simp only [Finding.slaState, beq_iff_eq]
    rw [List.foldl_cons, htotals, hseverity, hcount, SlaSummary.add]
    dsimp only
    rw [get_count, sum_countSeverity]
    constructor <;> omega

/-- **The summary counts each finding once.** -/
theorem get_slaSummary (ctx : Answering) (order : RowOrder (Finding × MirrorRow)) (s : Dataset)
    (state : SlaState) :
    (slaSummary ctx order s).totals.get state =
        countState ctx.now.date state s.db.findings.rows ∧
      ((slaSummary ctx order s).bySeverity.map fun e => e.2.get state).sum =
        countState ctx.now.date state s.db.findings.rows := by
  obtain ⟨htotals, hseverity⟩ := get_foldl_add ctx.now.date state
    (order.arrange (Select.innerJoin (fun f c => c.cveId == f.cveId) s.db.findings.rows
      s.cves.rows)) .empty
  have hperm : ((order.arrange (Select.innerJoin (fun f c => c.cveId == f.cveId)
      s.db.findings.rows s.cves.rows)).map Prod.fst).Perm s.db.findings.rows := by
    refine ((order.perm _).map Prod.fst).trans ?_
    rw [map_fst_withCve]
  have hcount : countState ctx.now.date state ((order.arrange (Select.innerJoin
      (fun f c => c.cveId == f.cveId) s.db.findings.rows s.cves.rows)).map Prod.fst) =
        countState ctx.now.date state s.db.findings.rows := hperm.countP_eq _
  have hzero : SlaSummary.empty.totals.get state = 0 := by cases state <;> rfl
  rw [hcount] at htotals hseverity
  unfold slaSummary
  dsimp only
  rw [htotals, hseverity, hzero, Nat.zero_add]
  exact ⟨rfl, Nat.zero_add _⟩

/-! ### The list by state -/

theorem text_injective : Function.Injective SlaState.text := by
  intro a b h
  revert h
  cases a <;> cases b <;> decide

section SlaList

variable {ctx : Answering} {order : RowOrder ((Finding × MirrorRow) × Product)} {s : Dataset}

/-- The rows that `list_findings_by_sla` goes over. -/
def slaRows (order : RowOrder ((Finding × MirrorRow) × Product)) (s : Dataset) :
    List ((Finding × MirrorRow) × Product) :=
  Select.orderBy (fun a b => dueOrder a.1.1.dueDate b.1.1.dueDate) (order.arrange s.joined)

variable (order s) in
/-- They are the findings. -/
theorem perm_slaRows : ((slaRows order s).map fun row => row.1.1).Perm s.db.findings.rows := by
  have hperm : (slaRows order s).Perm s.joined :=
    (Select.perm_orderBy _ _).trans (order.perm _)
  rw [← map_joined s]
  exact hperm.map _

/-- In the order of their due dates. -/
theorem pairwise_slaRows : (slaRows order s).Pairwise fun a b =>
    (dueOrder a.1.1.dueDate b.1.1.dueDate).isLE = true :=
  Select.pairwise_orderBy (@Select.transCmp_on _ _ dueOrder _
    fun row : (Finding × MirrorRow) × Product => row.1.1.dueDate) _

variable (ctx order s) in
/-- As many of them are in a state as findings are. -/
theorem length_filter_slaRows (state : SlaState) :
    ((slaRows order s).filter fun row => row.1.1.slaState ctx.now.date == state).length =
      countState ctx.now.date state s.db.findings.rows := by
  rw [← List.countP_eq_length_filter, countState, ← (perm_slaRows order s).countP_eq,
    List.countP_map]
  rfl

/-- **What is listed**: the first rows with the state. -/
theorem listFindingsBySla_eq (state : SlaState) (limit : ℤ) :
    listFindingsBySla ctx order (some state.text) limit s = .ok
      ⟨(((slaRows order s).filter fun row => row.1.1.slaState ctx.now.date == state).take
          (clampSlaLimit limit)).map (slaListRow ctx.now.date),
        min (clampSlaLimit limit) (countState ctx.now.date state s.db.findings.rows),
        some state.text⟩ := by
  have hvalid : (some state.text).all (validStates.contains ·) = true := by
    cases state <;> decide
  have hlimit : ([] : List SlaListRow).length < clampSlaLimit limit := by
    rw [clampSlaLimit, List.length_nil]
    omega
  have hstate : ∀ row : (Finding × MirrorRow) × Product,
      (some state.text).all (· == (row.1.1.slaState ctx.now.date).text) =
        (row.1.1.slaState ctx.now.date == state) := by
    intro row
    rw [Option.all_some, Bool.eq_iff_iff, beq_iff_eq, beq_iff_eq]
    exact ⟨fun h => (text_injective h).symm, fun h => congrArg _ h.symm⟩
  rw [listFindingsBySla, if_pos hvalid]
  simp only [hstate]
  rw [Select.firstMatches_eq _ _ _ hlimit, List.nil_append, List.length_nil, Nat.sub_zero,
    List.length_map, List.length_take, ← length_filter_slaRows ctx order s]
  rfl

/-- **The list and the summary agree**: of a state, as many findings are listed as the summary
counts, in total and by severity, up to the limit; they are in that state, none of them comes twice,
and none that is left out is due before one that is listed. -/
theorem slaList_agrees (ctx : Answering) (order : RowOrder ((Finding × MirrorRow) × Product))
    (order' : RowOrder (Finding × MirrorRow)) (state : SlaState) (limit : ℤ) (s : Dataset) :
    ∃ page, listFindingsBySla ctx order (some state.text) limit s = .ok page ∧
      page.total = min (clampSlaLimit limit) ((slaSummary ctx order' s).totals.get state) ∧
      page.total = page.data.length ∧
      ((slaSummary ctx order' s).bySeverity.map fun e => e.2.get state).sum =
        (slaSummary ctx order' s).totals.get state ∧
      (∀ row ∈ page.data, ∃ f ∈ s.db.findings.rows, row.id = f.id ∧ row.dueDate = f.dueDate ∧
        row.slaState = state ∧ f.slaState ctx.now.date = state) ∧
      (page.data.map SlaListRow.id).Nodup ∧
      ∀ f ∈ s.db.findings.rows, f.slaState ctx.now.date = state →
        f.id ∉ page.data.map SlaListRow.id →
          ∀ row ∈ page.data, (dueOrder row.dueDate f.dueDate).isLE = true := by
  obtain ⟨htotals, hseverity⟩ := get_slaSummary ctx order' s state
  set found := (slaRows order s).filter fun row => row.1.1.slaState ctx.now.date == state
  have hlength : found.length = countState ctx.now.date state s.db.findings.rows :=
    length_filter_slaRows ctx order s state
  refine ⟨_, listFindingsBySla_eq state limit, ?_, ?_, ?_, ?_, ?_, ?_⟩
  · rw [htotals]
  · rw [List.length_map, List.length_take, hlength]
  · rw [hseverity, htotals]
  · intro row hrow
    obtain ⟨joined, hjoined, rfl⟩ := List.mem_map.mp hrow
    obtain ⟨hmem, hstate⟩ := List.mem_filter.mp (List.mem_of_mem_take hjoined)
    have hfinding : joined.1.1 ∈ s.db.findings.rows :=
      (perm_slaRows order s).subset (List.mem_map_of_mem (f := fun row => row.1.1) hmem)
    exact ⟨joined.1.1, hfinding, rfl, rfl, eq_of_beq hstate, eq_of_beq hstate⟩
  · have hids : ((slaRows order s).map fun row => row.1.1.id).Nodup := by
      have hperm := (perm_slaRows order s).map Finding.id
      rw [List.map_map] at hperm
      exact hperm.nodup_iff.mpr s.db.findings.nodup
    rw [List.map_map]
    exact hids.sublist (((List.take_sublist _ _).trans List.filter_sublist).map _)
  · intro f hf hstate hnot row hrow
    obtain ⟨joined, hjoined, rfl⟩ := List.mem_map.mp hrow
    obtain ⟨other, hother, rfl⟩ := List.mem_map.mp ((perm_slaRows order s).mem_iff.mpr hf)
    have hmem : other ∈ found := List.mem_filter.mpr ⟨hother, by simpa using hstate⟩
    -- the finding is among the matches that come after the listed ones
    have hsplit := List.take_append_drop (clampSlaLimit limit) found
    rw [← hsplit, List.mem_append] at hmem
    have hdrop : other ∈ found.drop (clampSlaLimit limit) := by
      refine hmem.resolve_left fun htake => hnot ?_
      rw [List.map_map]
      exact List.mem_map_of_mem (f := SlaListRow.id ∘ slaListRow ctx.now.date) htake
    have hsorted : found.Pairwise fun a b =>
        (dueOrder a.1.1.dueDate b.1.1.dueDate).isLE = true :=
      pairwise_slaRows.sublist List.filter_sublist
    rw [← hsplit] at hsorted
    exact (List.pairwise_append.mp hsorted).2.2 _ hjoined _ hdrop

end SlaList

/-! ### Workloads, pipeline and ages -/

section Workload

variable {ρ : Type} {p q r : ρ → Bool}

/-- **One of two conditions holds**: the counts add up. -/
theorem countP_eq_add (h : ∀ a, (if p a = true then 1 else 0) =
    (if q a = true then 1 else 0) + if r a = true then 1 else 0) (l : List ρ) :
    l.countP p = l.countP q + l.countP r := by
  induction l with
  | nil => rfl
  | cons a l ih =>
    rw [List.countP_cons, List.countP_cons, List.countP_cons, ih, h a]
    omega

/-- **What the owners have adds up** to what there is. -/
theorem sum_ownerWorkload (ctx : Answering) (order : RowOrder OwnerWorkload) (s : Dataset)
    (column : OwnerWorkload → ℕ) (p : Finding → Bool)
    (h : ∀ group, column (ownerWorkloadRow ctx s.db.findingsHistory.rows group) =
      group.2.countP p) :
    ((ownerWorkload ctx order s).owners.map column).sum = s.db.findings.rows.countP p := by
  have hperm : (ownerWorkload ctx order s).owners.Perm
      ((Select.groupBy (fun f : Finding => ownerLabel f.assignedTo) s.db.findings.rows).map
        (ownerWorkloadRow ctx s.db.findingsHistory.rows)) :=
    (Select.perm_orderBy _ _).trans (order.perm _)
  rw [(hperm.map column).sum_eq, List.map_map,
    ← Select.sum_countP_groupBy (fun f : Finding => ownerLabel f.assignedTo) p]
  exact congrArg List.sum (List.map_congr_left fun group _ => h group)

/-- The findings that are breached, with or without those whose risk is accepted. -/
theorem countState_breached (today : Date) (findings : List Finding) :
    countState today .breached findings = findings.countP (Finding.overdue today) +
      findings.countP fun f =>
        f.status == .acceptedRisk && f.dueDate.any fun due => decide (due < today) := by
  refine countP_eq_add (fun f => ?_) findings
  unfold Finding.slaState Finding.overdue Finding.exposed computeSlaState
  cases f.dueDate with
  | none => cases f.status <;> simp
  | some due =>
    by_cases hdue : due < today
    · cases f.status <;> simp [hdue]
    · by_cases hrisk : due - today ≤ atRiskThresholdDays
      · cases f.status <;> simp [hdue, hrisk]
      · cases f.status <;> simp [hdue, hrisk]

/-- What is done with has met its date, and nothing else. -/
theorem slaState_beq_met (today : Date) (f : Finding) :
    (f.slaState today == .met) = f.status.terminal := by
  rw [Finding.slaState]
  cases hterminal : f.status.terminal with
  | true => rw [computeSlaState_of_terminal hterminal, beq_self_eq_true]
  | false =>
    rw [computeSlaState_of_not_terminal hterminal]
    cases f.dueDate with
    | none => rfl
    | some due =>
      dsimp only
      split_ifs <;> rfl

theorem countState_met (today : Date) (findings : List Finding) :
    countState today .met findings = countStatus .remediated findings +
      (countStatus .closed findings + countStatus .falsePositive findings) := by
  have hdone : findings.countP (fun f => f.status == .closed || f.status == .falsePositive) =
      countStatus .closed findings + countStatus .falsePositive findings :=
    countP_eq_add (fun f => by cases f.status <;> rfl) findings
  rw [countState, ← hdone]
  refine countP_eq_add (fun f => ?_) findings
  rw [slaState_beq_met]
  cases f.status <;> rfl

/-- A finding is in one of the four states. -/
theorem sum_countState (today : Date) (findings : List Finding) :
    countState today .onTrack findings + countState today .atRisk findings +
      countState today .breached findings + countState today .met findings =
        findings.length := by
  induction findings with
  | nil => rfl
  | cons f findings ih =>
    rw [List.length_cons, ← ih]
    simp only [countState, List.countP_cons]
    cases f.slaState today <;> simp <;> omega

/-- The findings that are pending, by their age and by their status. -/
theorem agingRow_openTotal (ctx : Answering) (findings : List Finding) :
    (agingRow ctx findings).openTotal = (agingRow ctx findings).bucket0To30 +
        ((agingRow ctx findings).bucket30To90 + (agingRow ctx findings).bucket90Plus) ∧
      (agingRow ctx findings).openTotal = countStatus .opened findings +
        (countStatus .inReview findings + countStatus .planned findings) := by
  have hdays : ctx.daysAgo 90 ≤ ctx.daysAgo 30 := Int.sub_le_sub_left (by decide) ctx.now
  constructor
  · have holder : findings.countP (fun f => f.exposed && decide (f.createdAt < ctx.daysAgo 30)) =
        (agingRow ctx findings).bucket30To90 + (agingRow ctx findings).bucket90Plus := by
      refine countP_eq_add (fun f => ?_) findings
      by_cases h90 : f.createdAt < ctx.daysAgo 90
      · have h30 : f.createdAt < ctx.daysAgo 30 := lt_of_lt_of_le h90 hdays
        simp [h90, h30, not_le.mpr h90]
      · simp [h90, not_lt.mp h90]
    rw [← holder]
    refine countP_eq_add (fun f => ?_) findings
    by_cases h30 : f.createdAt < ctx.daysAgo 30
    · simp [h30, not_le.mpr h30]
    · simp [h30, not_lt.mp h30]
  · have hlater : findings.countP (fun f => f.status == .inReview || f.status == .planned) =
        countStatus .inReview findings + countStatus .planned findings :=
      countP_eq_add (fun f => by cases f.status <;> rfl) findings
    rw [← hlater]
    refine countP_eq_add (fun f => ?_) findings
    unfold Finding.exposed
    cases f.status <;> rfl

/-- **The reports agree**: the columns of the owners add up to those of the pipeline; the pipeline,
`finding_stats` and the summary by state count the same findings; the ages of those that are pending
add up to what the owners have to do; and what is breached is what the owners are late with, and
the accepted risks that are past their due dates. -/
theorem reports_agree (ctx : Answering) (order : RowOrder OwnerWorkload)
    (order' : RowOrder (Finding × MirrorRow)) (s : Dataset) :
    let owners := (ownerWorkload ctx order s).owners
    let pipeline := pipelineRow s.db.findings.rows
    let aging := agingRow ctx s.db.findings.rows
    let totals := (slaSummary ctx order' s).totals
    ((owners.map OwnerWorkload.total).sum = pipeline.total ∧
        (owners.map OwnerWorkload.openCount).sum = pipeline.openCount ∧
        (owners.map OwnerWorkload.inReviewCount).sum = pipeline.inReviewCount ∧
        (owners.map OwnerWorkload.plannedCount).sum = pipeline.plannedCount ∧
        (owners.map OwnerWorkload.acceptedRiskCount).sum = pipeline.acceptedRiskCount ∧
        (owners.map OwnerWorkload.remediatedCount).sum = pipeline.remediatedCount ∧
        (owners.map OwnerWorkload.closedCount).sum = pipeline.closedCount) ∧
      totals.onTrack + totals.atRisk + totals.breached + totals.met =
        (findingStats s.db.findings.rows).total ∧
      totals.met = pipeline.remediatedCount + (pipeline.closedCount + pipeline.falsePositiveCount) ∧
      aging.bucket0To30 + (aging.bucket30To90 + aging.bucket90Plus) =
        (owners.map fun o => o.openCount).sum + ((owners.map fun o => o.inReviewCount).sum +
          (owners.map fun o => o.plannedCount).sum) ∧
      totals.breached = (owners.map OwnerWorkload.breachedCount).sum +
        s.db.findings.rows.countP fun f =>
          f.status == .acceptedRisk && f.dueDate.any fun due => decide (due < ctx.now.date) := by
  intro owners pipeline aging totals
  have hstate := fun state => (get_slaSummary ctx order' s state).1
  have hopen : (owners.map OwnerWorkload.openCount).sum = pipeline.openCount :=
    sum_ownerWorkload ctx order s _ _ fun _ => rfl
  have hreview : (owners.map OwnerWorkload.inReviewCount).sum = pipeline.inReviewCount :=
    sum_ownerWorkload ctx order s _ _ fun _ => rfl
  have hplanned : (owners.map OwnerWorkload.plannedCount).sum = pipeline.plannedCount :=
    sum_ownerWorkload ctx order s _ _ fun _ => rfl
  obtain ⟨hages, hpending⟩ := agingRow_openTotal ctx s.db.findings.rows
  refine ⟨⟨?_, hopen, hreview, hplanned, sum_ownerWorkload ctx order s _ _ fun _ => rfl,
    sum_ownerWorkload ctx order s _ _ fun _ => rfl,
    sum_ownerWorkload ctx order s _ _ fun _ => rfl⟩, ?_, ?_, ?_, ?_⟩
  · refine (sum_ownerWorkload ctx order s _ (fun _ => true) fun group => ?_).trans ?_
    · exact (congrFun List.countP_true group.2).symm
    · exact congrFun List.countP_true s.db.findings.rows
  · have hsum := sum_countState ctx.now.date s.db.findings.rows
    rw [← hstate, ← hstate, ← hstate, ← hstate] at hsum
    exact hsum
  · exact (hstate .met).trans (countState_met _ _)
  · rw [hopen, hreview, hplanned, ← hages]
    exact hpending
  · refine (hstate .breached).trans ((countState_breached _ _).trans (congrArg (· + _) ?_))
    exact (sum_ownerWorkload ctx order s _ _ fun _ => rfl).symm

end Workload

end CveManagement
