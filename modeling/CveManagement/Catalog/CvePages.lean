import CveManagement.Catalog.CveList
import CveManagement.Catalog.Products
import CveManagement.Sync.Counts

/-!
# Pages of CVEs and of findings

`list_cves` and `query_findings` sort by columns that many rows share – a score, a date – and cut
the result into pages, each with a query of its own. The order of rows that are tied is free in
every query, so the pages together are the result, whatever these orders are, exactly if no tie
reaches over the end of a page (`CveManagement.pagesPartition_iff`).
-/

namespace CveManagement

/-! ### Pages -/

/-- The number of pages, `ceil(total / limit)`. -/
def pageCount (total size : ℕ) : ℕ := (total + size - 1) / size

/-- There are pages enough. -/
theorem le_pageCount_mul {total size : ℕ} (hsize : 0 < size) :
    total ≤ pageCount total size * size := by
  have hdiv := Nat.div_add_mod' (total + size - 1) size
  have hmod := Nat.mod_lt (total + size - 1) hsize
  rw [pageCount]
  omega

theorem mul_lt_of_lt_pageCount {total size k : ℕ} (hk : k < pageCount total size) :
    k * size < total := by
  rw [pageCount] at hk
  have hle := Nat.mul_le_of_le_div _ _ _ (Nat.succ_le_of_lt hk)
  rw [Nat.succ_mul] at hle
  have hsize : 0 < size := by
    by_contra hzero
    rw [Nat.eq_zero_of_not_pos hzero, Nat.div_zero] at hk
    exact Nat.not_lt_zero k hk
  omega

/-- **No tie reaches over the end of a page.** -/
def NoTieSplit {ρ : Type} (cmp : ρ → ρ → Ordering) (size : ℕ) (rows : List ρ) : Prop :=
  ∀ row ∈ rows, Ties.before (fun a b => (cmp a b).isLE = true) rows row / size =
    (Ties.upTo (fun a b => (cmp a b).isLE = true) rows row - 1) / size

section Pages

variable {ρ τ : Type} {cmp : ρ → ρ → Ordering} [Std.TransCmp cmp] {rows : List ρ} {shown : ρ → τ}
  {size : ℕ}

/-- **The pages of a query**, of rows that can be told apart. -/
theorem pages_perm_iff_noTieSplit (hsize : 0 < size) (hrows : (rows.map shown).Nodup) :
    (∀ orders : ℕ → RowOrder ρ, ((List.range (pageCount rows.length size)).flatMap fun k =>
        ((((Select.orderBy cmp ((orders k).arrange rows)).drop (k * size)).take size).map
          shown)).Perm (rows.map shown)) ↔ NoTieSplit cmp size rows := by
  rw [NoTieSplit, ← Ties.orders_perm_iff hsize hrows.of_map (le_pageCount_mul hsize)]
  refine forall_congr' fun orders => ?_
  have hmap : ((List.range (pageCount rows.length size)).flatMap fun k =>
      ((((Select.orderBy cmp ((orders k).arrange rows)).drop (k * size)).take size).map shown)) =
        ((List.range (pageCount rows.length size)).flatMap fun k =>
          Ties.page size k (((orders k).arrange rows).insertionSort
            fun a b => (cmp a b).isLE = true)).map shown := by
    rw [List.map_flatMap]
    rfl
  rw [hmap]
  refine Ties.perm_map_iff hrows fun row hrow => ?_
  obtain ⟨k, -, hmem⟩ := List.mem_flatMap.mp hrow
  exact (Ties.sorting_insertionSort (orders k) rows).perm.mem_iff.mp
    (List.mem_of_mem_drop (List.mem_of_mem_take hmem))

end Pages

/-! ### The list of CVEs -/

section List

variable {ctx : CveContext} {q : CveListQuery} {s : System} {order : RowOrder CveEntry}

/-- The `limit` that a list is cut with. -/
def CveListQuery.size (q : CveListQuery) : ℕ := (min 200 (max 1 q.limit)).toNat

/-- **The database can take the parameters**: a score that is compared with a computed one is an
`integer`. -/
def CveListQuery.Answerable (q : CveListQuery) : Prop :=
  q.productId = none → ∀ m ∈ q.minPriority, int4 m

/-- The rows that a request for a page returns. -/
def listPage (ctx : CveContext) (order : RowOrder CveEntry) (q : CveListQuery) (s : System)
    (page : ℤ) : List CveListRow :=
  match listCves ctx order { q with page := page } s with
  | .ok list => list.data
  | .error _ => []

theorem nodup_listed (ctx : CveContext) (q : CveListQuery) (s : System) :
    ((ctx.listed q s).map fun e => e.1.cveId).Nodup :=
  (nodup_cveIds q.productId s).sublist (List.filter_sublist.map _)

theorem size_pos (q : CveListQuery) : 0 < q.size := by
  rw [CveListQuery.size]
  omega

/-- **A list that is answered**: its page, and the number of all its rows. -/
theorem exists_listCves (ctx : CveContext) (order : RowOrder CveEntry) (s : System)
    (hq : q.Answerable) {k : ℕ} (hk : k * q.size < 2 ^ 63) :
    ∃ list, listCves ctx order { q with page := k + 1 } s = .ok list ∧
      list.data = (((Select.orderBy (ctx.listOrder q) (order.arrange (ctx.listed q s))).drop
        (k * q.size)).take q.size).map ctx.row ∧ list.total = (ctx.listed q s).length ∧
          list.pages = pageCount (ctx.listed q s).length q.size := by
  have hlimit : min 200 (max 1 q.limit) = (q.size : ℤ) := by
    rw [CveListQuery.size]
    omega
  have hpage : max 1 ((k : ℤ) + 1) = k + 1 := by omega
  have hoffset : ((k : ℤ) + 1 - 1) * q.size = (k * q.size : ℕ) := by
    push_cast
    ring
  have hsize : q.size ≤ 200 := by
    rw [CveListQuery.size]
    omega
  have hvalid : Select.ValidPage (q.size : ℤ) ((k * q.size : ℕ) : ℤ) :=
    ⟨by omega, by omega, by omega, by exact_mod_cast hk⟩
  have hanswered : ¬(q.productId = none ∧ ∃ m ∈ q.minPriority, ¬int4 m) := by
    rintro ⟨hproduct, m, hm, hnot⟩
    exact hnot (hq hproduct m hm)
  have hlisted : ctx.listed { q with page := (k : ℤ) + 1 } s = ctx.listed q s := rfl
  unfold listCves
  dsimp only
  rw [if_neg hanswered, hlimit, hpage, hoffset, hlisted, Select.page_of_valid hvalid]
  refine ⟨_, rfl, ?_, ?_, ?_⟩
  · rw [Int.toNat_natCast, Int.toNat_natCast]
    rfl
  · rw [(nodup_listed ctx q s).dedup, List.length_map]
  · have hpos := size_pos q
    have hcast : ((ctx.listed q s).length : ℤ) + q.size - 1 =
        ((ctx.listed q s).length + q.size - 1 : ℕ) := by omega
    rw [(nodup_listed ctx q s).dedup, List.length_map, pageCount, Int.natCast_div, ← hcast]

/-- **The pages of the list partition it**: whatever the orders among ties are, together they return
each row once. -/
def ListPagesPartition (ctx : CveContext) (q : CveListQuery) (s : System) : Prop :=
  ∀ orders : ℕ → RowOrder CveEntry,
    ((List.range (pageCount (ctx.listed q s).length q.size)).flatMap fun k =>
      listPage ctx (orders k) q s (k + 1)).Perm ((ctx.listed q s).map ctx.row)

theorem listPagesPartition_iff (hq : q.Answerable) (hcount : (ctx.listed q s).length < 2 ^ 63) :
    ListPagesPartition ctx q s ↔ NoTieSplit (ctx.listOrder q) q.size (ctx.listed q s) := by
  have hrows : ((ctx.listed q s).map ctx.row).Nodup := by
    refine List.Nodup.of_map CveListRow.cveId ?_
    rw [List.map_map]
    exact nodup_listed ctx q s
  have htrans : Std.TransCmp (ctx.listOrder q) := transCmp_compareBy _ _ _
  rw [← pages_perm_iff_noTieSplit (size_pos q) hrows]
  refine forall_congr' fun orders => ?_
  have hpages : ((List.range (pageCount (ctx.listed q s).length q.size)).flatMap fun k =>
      listPage ctx (orders k) q s (k + 1)) =
        (List.range (pageCount (ctx.listed q s).length q.size)).flatMap fun k =>
          (((Select.orderBy (ctx.listOrder q) ((orders k).arrange (ctx.listed q s))).drop
            (k * q.size)).take q.size).map ctx.row := by
    refine List.flatMap_congr fun k hk => ?_
    have hlt := mul_lt_of_lt_pageCount (List.mem_range.mp hk)
    obtain ⟨list, hlist, hdata, -⟩ :=
      exists_listCves ctx (orders k) s hq (k := k) (hlt.trans hcount)
    rw [listPage, hlist]
    exact hdata
  rw [hpages]

end List

/-! ### The findings of a product -/

section Findings

variable {jsonbOut : Json → String} {details : String → CveDetails} {productId : ℕ}
  {filters : QueryFilters} {s : System}

/-- The findings that a request for a page returns. -/
def findingsPage (ctx : LocalContext) (details : String → CveDetails) (productId : ℕ)
    (filters : QueryFilters) (s : System) (page : ℤ) : List LocalQuery.FindingRow :=
  match LocalQuery.queryFindings ctx productId { filters with page := page } details s with
  | .ok result => result.findings
  | .error _ => []

/-- **The pages of `query_findings` partition its result.** -/
def FindingsPagesPartition (jsonbOut : Json → String) (details : String → CveDetails)
    (productId : ℕ) (filters : QueryFilters) (s : System) : Prop :=
  ∀ orders : ℕ → RowOrder (Finding × MirrorRow),
    ((List.range (pageCount (LocalQuery.selected filters productId s).length
      filters.pageSize.toNat)).flatMap fun k =>
        findingsPage ⟨orders k, jsonbOut⟩ details productId filters s (k + 1)).Perm
      ((LocalQuery.selected filters productId s).map (LocalQuery.rowToFinding jsonbOut details))

instance transCmp_rowOrder : Std.TransCmp LocalQuery.rowOrder :=
  Select.transCmp_then (Select.transCmp_on fun row : Finding × MirrorRow => row.1.priorityScore)
    (Select.transCmp_on fun row : Finding × MirrorRow => row.2.cvssV3Score)

/-- **No finding is selected twice.** -/
theorem nodup_selected :
    ((LocalQuery.selected filters productId s).map fun row => row.1.id).Nodup := by
  have hone : ∀ f ∈ s.db.findings.rows,
      (s.cves.rows.filter fun c => c.cveId == f.cveId).length ≤ 1 := fun f _ =>
    Select.length_filter_le_one s.cves.uniqueCve fun _ heq => eq_of_beq heq
  have hjoined := (Select.map_fst_innerJoin_sublist hone).map Finding.id
  rw [List.map_map] at hjoined
  exact (s.db.findings.nodup.sublist hjoined).sublist (List.filter_sublist.map _)

theorem findingsPagesPartition_iff (hsize : 0 < filters.pageSize ∧ filters.pageSize < 2 ^ 63)
    (hcount : (LocalQuery.selected filters productId s).length < 2 ^ 63) :
    FindingsPagesPartition jsonbOut details productId filters s ↔
      NoTieSplit LocalQuery.rowOrder filters.pageSize.toNat
        (LocalQuery.selected filters productId s) := by
  have hsize_nat : 0 < filters.pageSize.toNat := by omega
  have hrows : ((LocalQuery.selected filters productId s).map
      (LocalQuery.rowToFinding jsonbOut details)).Nodup := by
    refine List.Nodup.of_map LocalQuery.FindingRow.findingId ?_
    rw [List.map_map]
    exact nodup_selected
  rw [← pages_perm_iff_noTieSplit hsize_nat hrows]
  refine forall_congr' fun orders => ?_
  have hpages : ((List.range (pageCount (LocalQuery.selected filters productId s).length
      filters.pageSize.toNat)).flatMap fun k =>
        findingsPage ⟨orders k, jsonbOut⟩ details productId filters s (k + 1)) =
      (List.range (pageCount (LocalQuery.selected filters productId s).length
        filters.pageSize.toNat)).flatMap fun k =>
          (((Select.orderBy LocalQuery.rowOrder ((orders k).arrange
            (LocalQuery.selected filters productId s))).drop (k * filters.pageSize.toNat)).take
              filters.pageSize.toNat).map (LocalQuery.rowToFinding jsonbOut details) := by
    refine List.flatMap_congr fun k hk => ?_
    have hlt := mul_lt_of_lt_pageCount (List.mem_range.mp hk)
    have hcast : (filters.pageSize.toNat : ℤ) = filters.pageSize := Int.toNat_of_nonneg hsize.1.le
    have hoffset : ((k : ℤ) + 1 - 1) * filters.pageSize = (k * filters.pageSize.toNat : ℕ) := by
      push_cast
      rw [hcast]
      ring
    have hvalid : Select.ValidPage filters.pageSize ((k * filters.pageSize.toNat : ℕ) : ℤ) :=
      ⟨hsize.1.le, hsize.2, by omega, by exact_mod_cast hlt.trans hcount⟩
    have hselected : LocalQuery.selected { filters with page := (k : ℤ) + 1 } productId s =
        LocalQuery.selected filters productId s := rfl
    unfold findingsPage LocalQuery.queryFindings
    dsimp only
    rw [hoffset, hselected, Select.page_of_valid hvalid, Int.toNat_natCast]
    rfl
  rw [hpages]

end Findings

/-! ### Both -/

/-- **Pages partition the result exactly if no tie reaches over the end of a page**, of the list and
of the findings. -/
theorem pagesPartition_iff (ctx : CveContext) (q : CveListQuery) (details : String → CveDetails)
    (productId : ℕ) (filters : QueryFilters) (s : System) (hq : q.Answerable)
    (hlisted : (ctx.listed q s).length < 2 ^ 63)
    (hsize : 0 < filters.pageSize ∧ filters.pageSize < 2 ^ 63)
    (hselected : (LocalQuery.selected filters productId s).length < 2 ^ 63) :
    (ListPagesPartition ctx q s ↔ NoTieSplit (ctx.listOrder q) q.size (ctx.listed q s)) ∧
      (FindingsPagesPartition ctx.jsonbOut details productId filters s ↔
        NoTieSplit LocalQuery.rowOrder filters.pageSize.toNat
          (LocalQuery.selected filters productId s)) :=
  ⟨listPagesPartition_iff hq hlisted, findingsPagesPartition_iff hsize hselected⟩

/-- **Where all rows are tied**, they must fit on one page. -/
theorem noTieSplit_iff_of_tied {ρ : Type} {cmp : ρ → ρ → Ordering} {size : ℕ} {rows : List ρ}
    (hsize : 0 < size) (hrows : rows ≠ []) (h : ∀ a ∈ rows, ∀ b ∈ rows, (cmp a b).isLE = true) :
    NoTieSplit cmp size rows ↔ rows.length ≤ size := by
  have hplaces : ∀ a ∈ rows, Ties.before (fun a b => (cmp a b).isLE = true) rows a = 0 ∧
      Ties.upTo (fun a b => (cmp a b).isLE = true) rows a = rows.length := by
    intro a ha
    constructor
    · refine List.countP_eq_zero.mpr fun b hb => ?_
      rw [decide_eq_true_eq, not_not]
      exact h a ha b hb
    · refine List.countP_eq_length.mpr fun b hb => ?_
      simpa using h b hb a ha
  obtain ⟨a, ha⟩ := List.exists_mem_of_ne_nil rows hrows
  have hpos := List.length_pos_iff.mpr hrows
  have hone : 0 / size = (rows.length - 1) / size ↔ rows.length ≤ size := by
    rw [Nat.zero_div, eq_comm, Nat.div_eq_zero_iff]
    omega
  constructor
  · intro hsplit
    have hplace := hsplit a ha
    rw [(hplaces a ha).1, (hplaces a ha).2] at hplace
    exact hone.mp hplace
  · intro hle b hb
    rw [(hplaces b hb).1, (hplaces b hb).2]
    exact hone.mpr hle

/-- Texts in the order of their characters. -/
def Collation.codePoints : Collation := ⟨compare, inferInstance, Std.LawfulEqCmp.eq_of_compare⟩

/-- A context in which only ASCII has case. -/
def CveContext.sample : CveContext where
  py := .ascii
  cf := .ascii
  collation := .codePoints
  jsonbOut _ := ""
  now := 0
  columns _ := ⟨⟨none, none, none, 0⟩, "nvd_api", none⟩

/-- A list without filters, in the default order. -/
def CveListQuery.unfiltered (limit : ℤ) : CveListQuery :=
  ⟨⟨none, none, none, none, none, none, none⟩, none, none, none, none, none, "priority_score",
    "desc", 1, limit⟩

/-- Two CVEs that are alike but for their ids. -/
def System.twins : System :=
  { System.blank with
    cves := ⟨[.bare "CVE-2024-0001", .bare "CVE-2024-0002"], by decide⟩ }

theorem listed_twins (limit : ℤ) :
    CveContext.sample.listed (.unfiltered limit) .twins =
      [(.bare "CVE-2024-0001", none), (.bare "CVE-2024-0002", none)] := by
  rfl

theorem tied_twins (limit : ℤ) : ∀ a ∈ CveContext.sample.listed (.unfiltered limit) .twins,
    ∀ b ∈ CveContext.sample.listed (.unfiltered limit) .twins,
      (CveContext.sample.listOrder (.unfiltered limit) a b).isLE = true := by
  rw [listed_twins]
  have hpriority : ∀ a ∈ ([(.bare "CVE-2024-0001", none), (.bare "CVE-2024-0002", none)] :
      List CveEntry),
      CveContext.sample.priority a = CveContext.sample.priority (.bare "CVE-2024-0001", none) :=
    List.forall_mem_cons.mpr ⟨rfl, List.forall_mem_singleton.mpr rfl⟩
  have hcolumn : CveContext.sortColumn "priority_score" = .priorityScore := by
    simp [CveContext.sortColumn]
  intro a ha b hb
  simp only [CveContext.listOrder, CveListQuery.unfiltered, hcolumn, CveContext.compareBy]
  rw [hpriority a ha, hpriority b hb, CveContext.directed]
  split_ifs <;> simp [Select.desc]

theorem pagesPartition_twins :
    ListPagesPartition .sample (.unfiltered 50) .twins ∧
      FindingsPagesPartition (fun _ => "") (fun _ => ⟨none, none, none, 0⟩) 1 .default .twins := by
  have hboth := pagesPartition_iff .sample (.unfiltered 50) (fun _ => ⟨none, none, none, 0⟩) 1
    .default .twins (fun _ m hm => by cases hm) (by rw [listed_twins]; decide) (by decide)
    (by decide)
  refine ⟨hboth.1.mpr ?_, hboth.2.mpr fun row hrow => by cases hrow⟩
  rw [noTieSplit_iff_of_tied (by decide) (by rw [listed_twins]; exact List.cons_ne_nil _ _)
    (tied_twins 50), listed_twins]
  decide

/-- **A twin can be shown twice**, and the other one not at all. -/
theorem not_listPagesPartition_twins : ¬ListPagesPartition .sample (.unfiltered 1) .twins := by
  rw [listPagesPartition_iff (fun _ m hm => by cases hm) (by rw [listed_twins]; decide),
    noTieSplit_iff_of_tied (by decide) (by rw [listed_twins]; exact List.cons_ne_nil _ _)
      (tied_twins 1), listed_twins]
  decide

end CveManagement
