import CveManagement.Catalog.Products
import CveManagement.Dashboard.Exposure
import CveManagement.Sync.Counts
import Mathlib

/-!
# Who sees a deleted product

A reader is blind to deleted products if it answers alike on any two databases that are the same
but for these. `list_products` is. The dashboards count all products, and the lists of findings all
findings: they are blind only where they do not look at the tables, or where there is no CVE to
have a finding of (`CveManagement.deletedInvisible_iff`).
-/

namespace CveManagement

/-! ### The readers -/

/-- What is asked of the readers. -/
inductive ReadRequest
  | listProducts
  | dashboardStats
  | dashboardExposure (topLimit : ℤ)
  | listFindings (status owner : Option String) (page limit : ℤ)
  | slaSummary

/-- What they answer. -/
inductive ReadAnswer
  | products (rows : List ProductRow)
  | stats (answer : Cached DashboardStats)
  | exposure (answer : Cached DashboardExposure)
  | findings (answer : Except String FindingPage)
  | sla (summary : SlaSummary)

/-- The order of the rows that are tied, in each query. -/
structure ReadOrders where
  products : RowOrder (Product × Option SyncJob)
  findings : RowOrder ((Finding × MirrorRow) × Product)
  sla : RowOrder (Finding × MirrorRow)
  stats : StatsOrders
  exposure : ExposureOrders

/-- **The readers**, on a database, with what Redis has. -/
def read (ctx : Answering) (orders : ReadOrders) (cache : DashboardCache) (s : Dataset) :
    ReadRequest → ReadAnswer
  | .listProducts => .products (listProducts ctx orders.products s)
  | .dashboardStats => .stats (dashboardStats ctx orders.stats cache s)
  | .dashboardExposure topLimit =>
    .exposure (dashboardExposure ctx orders.exposure cache topLimit s)
  | .listFindings status owner page limit =>
    .findings (listFindings ctx orders.findings status owner page limit s)
  | .slaSummary => .sla (slaSummary ctx orders.sla s)

/-- **Deleted products are invisible** in the database: to none of the readers it makes a
difference what is deleted. -/
def DeletedInvisible (ctx : Answering) (orders : ReadOrders) (cache : DashboardCache)
    (s : Dataset) : Prop :=
  ∀ s', SameButDeleted s s' → ∀ r, read ctx orders cache s r = read ctx orders cache s' r

/-! ### What they see -/

section Readers

variable {ctx : Answering} {orders : ReadOrders} {cache : DashboardCache} {s : Dataset}

/-- The number of findings is part of a list of findings. -/
theorem total_listFindings (order : RowOrder ((Finding × MirrorRow) × Product)) (s : Dataset) :
    ∃ page, listFindings ctx order none none 1 1 s = .ok page ∧
      page.total = s.db.findings.rows.length := by
  have hvalid : Select.ValidPage (min 200 (max 1 1)) ((1 - 1) * min 200 (max 1 1)) := by decide
  unfold listFindings
  dsimp only
  rw [Select.page_of_valid hvalid]
  refine ⟨_, rfl, ?_⟩
  exact List.countP_eq_length.mpr fun f _ => rfl

/-- Without CVEs there is no finding to list. -/
theorem findings_eq_nil (h : s.cves.rows = []) : s.db.findings.rows = [] := by
  refine List.eq_nil_iff_forall_not_mem.mpr fun f hf => ?_
  obtain ⟨c, hc⟩ := Option.isSome_iff_exists.mp (s.finding_cve f hf)
  have hmem := (Mirror.get?_eq_some.mp hc).1
  rw [h] at hmem
  cases hmem

/-- **Without findings** the lists of findings say the same on any database without findings. -/
theorem listFindings_of_nil {s' : Dataset} (h : s.db.findings.rows = [])
    (h' : s'.db.findings.rows = []) (order : RowOrder ((Finding × MirrorRow) × Product))
    (status owner : Option String) (page limit : ℤ) :
    listFindings ctx order status owner page limit s =
      listFindings ctx order status owner page limit s' := by
  unfold listFindings
  rw [h, h']
  rfl

theorem slaSummary_of_nil {s' : Dataset} (h : s.db.findings.rows = [])
    (h' : s'.db.findings.rows = []) (order : RowOrder (Finding × MirrorRow)) :
    slaSummary ctx order s = slaSummary ctx order s' := by
  unfold slaSummary
  rw [h, h']
  rfl

variable (ctx orders) in
/-- The dashboard counts a deleted product. -/
theorem stats_addDeleted (h : cache "dashboard:stats" = none) (s : Dataset) :
    dashboardStats ctx orders.stats cache s ≠
      dashboardStats ctx orders.stats cache s.addDeleted := by
  intro heq
  simp only [dashboardStats, h] at heq
  obtain ⟨-, -, hresult⟩ := Cached.computed.inj heq
  have hcount : s.db.products.rows.length = s.addDeleted.db.products.rows.length :=
    congrArg DashboardStats.productCount hresult
  rw [s.rows_addDeleted, List.length_append] at hcount
  exact absurd hcount (Nat.ne_of_lt (Nat.lt_succ_self _))

variable (ctx orders) in
/-- So does the exposure. -/
theorem exposure_addDeleted {topLimit : ℤ} (h : cache (exposureKey (clampTopLimit topLimit)) = none)
    (s : Dataset) :
    dashboardExposure ctx orders.exposure cache topLimit s ≠
      dashboardExposure ctx orders.exposure cache topLimit s.addDeleted := by
  intro heq
  simp only [dashboardExposure, h] at heq
  obtain ⟨-, -, hresult⟩ := Cached.computed.inj heq
  have hcount : s.db.products.rows.countP (fun _ => true) =
      s.addDeleted.db.products.rows.countP fun _ => true :=
    congrArg (fun r => r.inventoryCoverage.total) hresult
  rw [s.rows_addDeleted, List.countP_true, List.length_append] at hcount
  exact absurd hcount (Nat.ne_of_lt (Nat.lt_succ_self _))

end Readers

/-- **Deleted products are invisible exactly if** both dashboards answer from Redis and there is no
CVE: where nothing is counted. -/
theorem deletedInvisible_iff (ctx : Answering) (orders : ReadOrders) (cache : DashboardCache)
    (s : Dataset) :
    DeletedInvisible ctx orders cache s ↔ s.cves.rows = [] ∧
      (cache "dashboard:stats").isSome ∧
        ∀ topLimit, (cache (exposureKey (clampTopLimit topLimit))).isSome := by
  constructor
  · intro h
    refine ⟨?_, ?_, fun topLimit => ?_⟩
    · by_contra hne
      obtain ⟨c, hc⟩ := List.exists_mem_of_ne_nil _ hne
      obtain ⟨s', hsame, hmore⟩ := Dataset.exists_more_findings hc
      obtain ⟨page, hpage, htotal⟩ := total_listFindings orders.findings s
      obtain ⟨page', hpage', htotal'⟩ := total_listFindings orders.findings s'
      have hread := h s' hsame (.listFindings none none 1 1)
      rw [read, read, hpage, hpage'] at hread
      obtain rfl := Except.ok.inj (ReadAnswer.findings.inj hread)
      omega
    · by_contra hnone
      refine stats_addDeleted ctx orders (Option.not_isSome_iff_eq_none.mp hnone) s ?_
      exact ReadAnswer.stats.inj (h _ (Dataset.sameButDeleted_addDeleted s) .dashboardStats)
    · by_contra hnone
      refine exposure_addDeleted ctx orders (Option.not_isSome_iff_eq_none.mp hnone) s ?_
      exact ReadAnswer.exposure.inj
        (h _ (Dataset.sameButDeleted_addDeleted s) (.dashboardExposure topLimit))
  · rintro ⟨hcves, hstats, hexposure⟩ s' hsame r
    have hnil := findings_eq_nil hcves
    have hnil' := findings_eq_nil (hsame.cves ▸ hcves)
    cases r with
    | listProducts => exact congrArg ReadAnswer.products (hsame.listProducts ctx orders.products)
    | dashboardStats =>
      obtain ⟨payload, hpayload⟩ := Option.isSome_iff_exists.mp hstats
      simp only [read, dashboardStats, hpayload]
    | dashboardExposure topLimit =>
      obtain ⟨payload, hpayload⟩ := Option.isSome_iff_exists.mp (hexposure topLimit)
      simp only [read, dashboardExposure, hpayload]
    | listFindings status owner page limit =>
      exact congrArg ReadAnswer.findings (listFindings_of_nil hnil hnil' _ _ _ _ _)
    | slaSummary => exact congrArg ReadAnswer.sla (slaSummary_of_nil hnil hnil' _)

/-- No product, and one CVE. -/
def Dataset.oneCve : Dataset where
  toSystem := { System.blank with cves := .single (.bare "CVE-2024-0001") }
  productDetails _ := ⟨none, 0⟩
  cveDetails _ := ⟨none, none, none, 0⟩
  finding_product _ hf := absurd hf List.not_mem_nil
  finding_cve _ hf := absurd hf List.not_mem_nil
  acceptance_finding _ ha := absurd ha List.not_mem_nil
  history_finding _ hh := absurd hh List.not_mem_nil

/-- The same, and a deleted product with a finding of the CVE. -/
def Dataset.oneDeleted : Dataset :=
  Dataset.oneCve.addDeleted.addFinding 1 "CVE-2024-0001" rfl rfl List.not_mem_nil

/-- Rows as they have been inserted. -/
def ReadOrders.insertion : ReadOrders where
  products := .insertion
  findings := .insertion
  sla := .insertion
  stats := ⟨.insertion, .insertion, .insertion⟩
  exposure := ⟨.insertion, .insertion, .insertion, .insertion, .insertion, .insertion⟩

/-- The clock at zero, and the collation of the code points. -/
def Answering.plain : Answering := ⟨0, fun _ => "", compare⟩

/-- **All but `list_products` see the deleted product** or its finding. -/
theorem not_deletedInvisible :
    SameButDeleted .oneCve .oneDeleted ∧
      listProducts .plain .insertion .oneCve = [] ∧
      listProducts .plain .insertion .oneDeleted = [] ∧
      (computeStats .plain ReadOrders.insertion.stats .oneCve).productCount = 0 ∧
      (computeStats .plain ReadOrders.insertion.stats .oneDeleted).productCount = 1 ∧
      (coverageRow .plain .oneCve).total = 0 ∧ (coverageRow .plain .oneDeleted).total = 1 ∧
      (slaSummary .plain .insertion .oneCve).totals.onTrack = 0 ∧
      (slaSummary .plain .insertion .oneDeleted).totals.onTrack = 1 ∧
      ¬DeletedInvisible .plain .insertion (fun _ => none) .oneCve := by
  have hsame : SameButDeleted .oneCve .oneDeleted :=
    (Dataset.sameButDeleted_addDeleted .oneCve).trans (Dataset.sameButDeleted_addFinding rfl)
  refine ⟨hsame, rfl, rfl, rfl, rfl, rfl, rfl, rfl, rfl, fun h => ?_⟩
  have hsla := ReadAnswer.sla.inj (h _ hsame .slaSummary)
  have hcount : 0 = 1 := congrArg (fun summary => summary.totals.onTrack) hsla
  cases hcount

end CveManagement
