import CveManagement.Query.CirclAnswers
import CveManagement.Query.CirclLinks
import CveManagement.Query.Local
import Mathlib

/-!
# The page that the engine returns

`query_cves_for_product` on the real tiers: the local query, and `CirclClient.fetch_and_store`
with its cache. The engine asks the database again if the fallback reports new rows. Linking a
product to the CVEs of the cache is reported as none, so that the empty page of before is returned
although findings have been inserted (`CveManagement.freshPage_iff`).
-/

namespace CveManagement

/-! ### The tiers -/

/-- The database and the cache, with the other columns of `cves`. -/
structure LocalStore where
  circl : CirclState
  details : String → CveDetails

/-- What surrounds a query: the parsers and the clocks, and what `_paginate` returns or raises. -/
structure QueryContext extends LocalContext where
  parse : PyParse
  pages : Except CirclError (List Json)

/-- The text of an exception. -/
def CirclError.text : CirclError → String
  | .http => "HTTPStatusError"
  | .python .attributeError => "AttributeError"
  | .python .typeError => "TypeError"
  | .python .valueError => "ValueError"
  | .python .overflowError => "OverflowError"
  | .dataError => "DataError"
  | .notNullViolation => "NotNullViolationError"
  | .foreignKeyViolation => "ForeignKeyViolationError"

/-- The other columns after `_UPSERT_CVE_SQL`: those of a CVE that is new to the mirror are set. -/
def detailsAfter (before after : System) (rows : List CirclRow) (details : String → CveDetails)
    (cveId : String) : CveDetails :=
  if (before.cves.get? cveId).isNone && (after.cves.get? cveId).isSome then
    ((rows.find? fun r => String.ofList r.cveId == cveId).map fun r =>
      ⟨none, none, none, r.lastModifiedAt⟩).getD (details cveId)
  else details cveId

/-- `CirclClient.fetch_and_store` on the store. -/
def QueryContext.fetchAndStore (ctx : QueryContext) (s : LocalStore) (productId : ℕ)
    (normalizedCpe : String) : Except String ℕ × LocalStore :=
  let fetched :=
    CirclClient.fetchAndStore ctx.parse productId normalizedCpe.toList ctx.pages s.circl
  let rows := do circlRows ctx.parse s.circl.now (← ctx.pages.toOption) |>.toOption
  (fetched.1.mapError CirclError.text,
    ⟨fetched.2, detailsAfter s.circl.system fetched.2.system (rows.getD []) s.details⟩)

/-- **The tiers that the engine has.** -/
def QueryContext.tiers (ctx : QueryContext) : Tiers LocalStore LocalQuery.FindingRow where
  queryFindings s productId filters :=
    LocalQuery.queryFindings ctx.toLocalContext productId filters s.details s.circl.system
  getProductCpe s productId := .ok (LocalQuery.getProductCpe productId s.circl.system)
  fetchAndStore := ctx.fetchAndStore

/-- The page is what the local query finds in the store. -/
def QueryContext.Finds (ctx : QueryContext) (filters : QueryFilters) (productId : ℕ)
    (s : LocalStore) (page : QueryResult LocalQuery.FindingRow) : Prop :=
  ∃ fresh, ctx.tiers.queryFindings s productId filters = .ok fresh ∧
    page.findings = fresh.findings ∧ page.total = fresh.total

/-- **The page is fresh**: what is returned is what the local query finds in the database as the
call has left it. -/
def FreshPage (ctx : QueryContext) (q : Query) (circl : Option CircuitBreaker) (s : LocalStore) :
    Prop :=
  let run := queryCvesForProduct ctx.tiers q circl s
  ∀ result, run.result = .ok result →
    ctx.Finds (q.filters.getD .default) q.productId run.store result

/-! ### What the fallback does -/

section Fallback

/-- The ids that the cache has for a product, all of them in the mirror. -/
def CirclState.LinksFromCache (s : CirclState) (normalizedCpe : Text) (cveIds : List String) :
    Prop :=
  ∃ vendor product value, parseCpeVendorProduct normalizedCpe = some (vendor, product) ∧
    s.cached (circlCacheKey vendor product) = some value ∧ value.elements = cveIds.map .str ∧
      ∀ cveId ∈ cveIds, (s.system.cves.get? cveId).isSome

theorem CirclState.LinksFromCache.unique {s : CirclState} {normalizedCpe : Text}
    {cveIds cveIds' : List String} (h : s.LinksFromCache normalizedCpe cveIds)
    (h' : s.LinksFromCache normalizedCpe cveIds') : cveIds = cveIds' := by
  obtain ⟨vendor, product, value, hvp, hcached, htexts, -⟩ := h
  obtain ⟨vendor', product', value', hvp', hcached', htexts', -⟩ := h'
  obtain ⟨rfl, rfl⟩ := Prod.mk.inj (Option.some.inj (hvp.symm.trans hvp'))
  obtain rfl := Option.some.inj (hcached.symm.trans hcached')
  exact List.map_injective_iff.mpr (fun _ _ => Json.str.inj) (htexts.symm.trans htexts')

variable {py : PyParse} {now : Instant} {productId : ℕ}

/-- That is so if the ids of the cache are the answer. -/
theorem CirclState.linksFromCache_iff (py : PyParse) (pages : Except CirclError (List Json))
    {s : CirclState} {normalizedCpe : Text} {cveIds : List String} :
    s.LinksFromCache normalizedCpe cveIds ↔
      s.answer py normalizedCpe pages = some (.cached cveIds) ∧
        ∀ cveId ∈ cveIds, (s.system.cves.get? cveId).isSome := by
  rw [CirclState.answer_eq_cached_iff py pages]
  constructor
  · rintro ⟨vendor, product, value, hvp, hcached, htexts, hall⟩
    exact ⟨⟨vendor, product, value, hvp, hcached, htexts⟩, hall⟩
  · rintro ⟨⟨vendor, product, value, hvp, hcached, htexts⟩, hall⟩
    exact ⟨vendor, product, value, hvp, hcached, htexts, hall⟩

/-- **What the fallback comes to**: it reports new rows, leaves the tables, or links the ids of
the cache and reports nothing. -/
theorem CirclClient.fetchAndStore_cases (py : PyParse) (productId : ℕ) (normalizedCpe : Text)
    (pages : Except CirclError (List Json)) (s : CirclState) :
    (∃ n, n ≠ 0 ∧ (fetchAndStore py productId normalizedCpe pages s).1 = .ok n ∧
        ∀ cveIds, ¬s.LinksFromCache normalizedCpe cveIds) ∨
      ((fetchAndStore py productId normalizedCpe pages s).2.system = s.system ∧
        ∀ cveIds, ¬s.LinksFromCache normalizedCpe cveIds) ∨
      ∃ cveIds, s.LinksFromCache normalizedCpe cveIds ∧
        (fetchAndStore py productId normalizedCpe pages s).1 = .ok 0 ∧
        (fetchAndStore py productId normalizedCpe pages s).2.system =
          s.system.storeCircl s.now productId (.cached cveIds) := by
  simp only [CirclState.linksFromCache_iff py pages]
  rcases fetchAndStore_answer py productId normalizedCpe pages s with
    ⟨hnone, -, hsame⟩ | ⟨cveIds, hcached, hcalled, hsystem⟩ | ⟨rows, hfetched, hcount, hsystem⟩
  · simp only [hnone]
    exact .inr (.inl ⟨hsame, fun _ h => by cases h.1⟩)
  · simp only [hcached, Option.some.injEq, CirclAnswer.cached.injEq]
    rcases hcalled with ⟨hall, hzero⟩ | ⟨hnot, -⟩
    · exact .inr (.inr ⟨cveIds, ⟨rfl, hall⟩, hzero, hsystem⟩)
    · refine .inr (.inl ⟨hsystem.trans (if_neg fun hall => hnot (List.all_eq_true.mp hall)), ?_⟩)
      rintro _ ⟨rfl, hall⟩
      exact hnot hall
  · simp only [hfetched]
    cases rows with
    | nil => exact .inr (.inl ⟨hsystem, fun _ h => by cases h.1⟩)
    | cons row rows =>
      exact .inl ⟨_, Nat.succ_ne_zero rows.length, hcount, fun _ h => by cases h.1⟩

end Fallback

/-! ### The findings that are linked -/

section Linked

variable {now : Instant} {productId : ℕ} {db : Db} {cveIds : List String}

/-- **A finding after the insertion of a list** was there before, or is the new one of an id of
which the product had none. -/
theorem mem_linkAll {f : Finding} (h : f ∈ (linkAll now productId cveIds db).findings.rows) :
    f ∈ db.findings.rows ∨ ∃ c ∈ cveIds, db.findingAt productId c = none ∧
      f = newFinding now productId c .uncertain "circl_fallback" none f.id := by
  induction cveIds generalizing db with
  | nil => exact .inl h
  | cons c cveIds ih =>
    have hcons : linkAll now productId (c :: cveIds) db =
        linkAll now productId cveIds (insertCirclFinding now productId c db) := rfl
    have hone : insertCirclFinding now productId c db = linkAll now productId [c] db := rfl
    rw [hcons] at h
    rcases ih h with hbefore | ⟨c', hc', hnone, hf⟩
    · -- the finding of the first id, if that is inserted
      cases hat : db.findingAt productId c with
      | some g =>
        rw [insertCirclFinding_of_isSome (by rw [hat]; rfl)] at hbefore
        exact .inl hbefore
      | none =>
        have hnew : (productId, c) ∉ db.findings.rows.map Finding.target := by
          rw [← @keys_column _ .status, mem_keys_column, hat]
          exact Bool.false_ne_true
        have hrows : (insertCirclFinding now productId c db).findings.rows = db.findings.rows ++
            [newFinding now productId c .uncertain "circl_fallback" none db.findings.seq] :=
          @rows_insertFinding db _ _ hnew
        rw [hrows] at hbefore
        rcases List.mem_append.mp hbefore with hbefore | hbefore
        · exact .inl hbefore
        · obtain rfl := List.mem_singleton.mp hbefore
          exact .inr ⟨c, List.mem_cons_self, hat, rfl⟩
    · refine .inr ⟨c', List.mem_cons_of_mem c hc', ?_, hf⟩
      -- what has no finding after the first id had none before
      by_contra hsome
      have hkept := (@isSome_findingAt_linkAll db now productId [c] c').mpr
        (.inl (Option.isSome_iff_ne_none.mpr hsome))
      rw [← hone, hnone] at hkept
      cases hkept

/-- The finding that the fallback inserts passes the filters, as far as they are on its columns. -/
def LocalQuery.admitsLinked (filters : QueryFilters) : Bool :=
  (filters.statuses.all fun statuses => statuses.isEmpty || statuses.contains "open") &&
    filters.confidence.all fun confidence => "uncertain" == confidence

/-- **A query after the linking** finds something that it did not find before, if the product had
no finding of one of the ids, and its CVE passes the filters. -/
theorem selected_linked_iff {s : System} {filters : QueryFilters}
    (hall : ∀ c ∈ cveIds, (s.cves.get? c).isSome)
    (hempty : LocalQuery.selected filters productId s = []) :
    LocalQuery.selected filters productId (s.storeCircl now productId (.cached cveIds)) ≠ [] ↔
      ∃ cveId ∈ cveIds, s.db.findingAt productId cveId = none ∧
        LocalQuery.admitsLinked filters = true ∧
        ∃ c, s.cves.get? cveId = some c ∧ LocalQuery.admitsCve filters c = true := by
  have hdb := @db_storeCircl_cached s now productId cveIds hall
  have hcves : (s.storeCircl now productId (.cached cveIds)).cves = s.cves := by
    rw [System.storeCircl, System.insertCirclFindings]
    split_ifs <;> rfl
  have hadmits : ∀ c n, LocalQuery.admitsFinding filters
      (newFinding now productId c .uncertain "circl_fallback" none n) =
        LocalQuery.admitsLinked filters := fun _ _ => rfl
  constructor
  · intro hne
    obtain ⟨⟨f, c⟩, hmem⟩ := List.exists_mem_of_ne_nil _ hne
    rw [LocalQuery.mem_selected_iff, hdb, hcves] at hmem
    obtain ⟨hf, hget, hproduct, hfinding, hcve⟩ := hmem
    rcases mem_linkAll hf with hbefore | ⟨cveId, hid, hnone, hnew⟩
    · -- what was there did not pass
      have hbefore := LocalQuery.mem_selected_iff.mpr ⟨hbefore, hget, hproduct, hfinding, hcve⟩
      rw [hempty] at hbefore
      cases hbefore
    · rw [hnew] at hget hfinding
      exact ⟨cveId, hid, hnone, hfinding, c, hget, hcve⟩
  · rintro ⟨cveId, hid, hnone, hfinding, c, hget, hcve⟩
    have hsome := (@isSome_findingAt_linkAll s.db now productId cveIds cveId).mpr (.inr hid)
    obtain ⟨f, hf⟩ := Option.isSome_iff_exists.mp hsome
    obtain ⟨hmem, hproduct, htarget⟩ := Db.findingAt_mem hf
    refine List.ne_nil_of_mem (a := (f, c)) ?_
    rw [LocalQuery.mem_selected_iff, hdb, hcves, htarget]
    refine ⟨hmem, hget, hproduct, ?_, hcve⟩
    rcases mem_linkAll hmem with hbefore | ⟨cveId', -, -, hnew⟩
    · exact absurd htarget (findingAt_eq_none_iff.mp hnone f hbefore hproduct)
    · rw [hnew]
      exact hfinding

end Linked

/-! ### The engine -/

/-- **Findings are inserted that nobody sees**: the query takes its page and finds nothing, the
circuit is not open, and the cache has ids of the product's vendor and product, all of them in the
mirror; of one of them the product has no finding yet, and its CVE passes the filters. -/
structure LinksUnseen (filters : QueryFilters) (productId : ℕ) (circl : Option CircuitBreaker)
    (s : LocalStore) : Prop where
  page : Select.ValidPage filters.pageSize ((filters.page - 1) * filters.pageSize)
  empty : ∀ f ∈ s.circl.system.db.findings.rows, ∀ c, s.circl.system.cves.get? f.cveId = some c →
    f.productId = productId → LocalQuery.admitsFinding filters f = true →
      LocalQuery.admitsCve filters c = false
  circuit : ∀ b, circl = some b → b.state ≠ .opened
  linked : ∃ normalizedCpe cveIds,
    LocalQuery.getProductCpe productId s.circl.system = some normalizedCpe ∧
      s.circl.LinksFromCache normalizedCpe.toList cveIds ∧
      ∃ cveId ∈ cveIds, s.circl.system.db.findingAt productId cveId = none ∧
        LocalQuery.admitsLinked filters = true ∧
        ∃ c, s.circl.system.cves.get? cveId = some c ∧ LocalQuery.admitsCve filters c = true

/-! #### What it returns, on any tiers -/

section Exits

variable {σ ρ : Type} {tiers : Tiers σ ρ} {q : Query} {circl : Option CircuitBreaker} {store : σ}
  {filters : QueryFilters} {first : QueryResult ρ}

/-- A first query that raises. -/
theorem query_of_error {e : String} (hfilters : q.filters.getD .default = filters)
    (h : tiers.queryFindings store q.productId filters = .error e) :
    (queryCvesForProduct tiers q circl store).result = .error e := by
  simp only [queryCvesForProduct, hfilters, h]

/-- A first query that finds something. -/
theorem query_of_found (hfilters : q.filters.getD .default = filters)
    (h : tiers.queryFindings store q.productId filters = .ok first) (htotal : 0 < first.total) :
    (queryCvesForProduct tiers q circl store).result = .ok first ∧
      (queryCvesForProduct tiers q circl store).store = store := by
  simp only [queryCvesForProduct, hfilters, h, htotal, if_true]
  exact ⟨trivial, trivial⟩

/-- A query for which the fallback is not called: the circuit is open, or there is no CPE. -/
theorem query_of_local (hfilters : q.filters.getD .default = filters)
    (h : tiers.queryFindings store q.productId filters = .ok first) (htotal : first.total = 0)
    (hlocal : (circl.any fun b => b.state == .opened) = true ∨
      tiers.getProductCpe store q.productId = .ok none ∨
        tiers.getProductCpe store q.productId = .ok (some "")) :
    (queryCvesForProduct tiers q circl store).result =
        .ok { first with source := .localOnly } ∧
      (queryCvesForProduct tiers q circl store).store = store := by
  have hzero : ¬0 < first.total := by omega
  by_cases hopen : (circl.any fun b => b.state == .opened) = true
  · simp only [queryCvesForProduct, hfilters, h, hzero, if_false, hopen, if_true]
    exact ⟨trivial, trivial⟩
  · rcases hlocal with hlocal | hnone | hblank
    · exact absurd hlocal hopen
    · simp only [queryCvesForProduct, hfilters, h, hzero, if_false, hopen, hnone]
      exact ⟨rfl, rfl⟩
    · simp only [queryCvesForProduct, hfilters, h, hzero, if_false, hopen, hblank, if_true]
      exact ⟨rfl, rfl⟩

/-- A call that is not refused is invoked, and comes back with its outcome. -/
theorem callCircl_of_not_open (h : ¬(circl.any fun b => b.state == .opened) = true)
    (clock : CallClock) (fn : Except String ℕ) :
    ∃ circl', callCircl circl clock fn = (circl', true, fn.mapError .raised) := by
  cases circl with
  | none => exact ⟨none, rfl⟩
  | some b =>
    have hadmits : ¬b.Refuses clock.admittedAt := fun hrefuses => h (by simp [hrefuses.1])
    obtain ⟨hinvoked, hresult⟩ := @CircuitBreaker.call_of_not_refuses ℕ b clock fn hadmits
    exact ⟨_, by rw [callCircl, hinvoked, hresult]⟩

/-- **A query for which the fallback is called**: the first page, unless new rows are reported;
then the query is made again. -/
theorem query_of_fallback {normalizedCpe : String} (hfilters : q.filters.getD .default = filters)
    (h : tiers.queryFindings store q.productId filters = .ok first) (htotal : first.total = 0)
    (hcircuit : ¬(circl.any fun b => b.state == .opened) = true)
    (hcpe : tiers.getProductCpe store q.productId = .ok (some normalizedCpe))
    (hne : normalizedCpe ≠ "") :
    let fetched := tiers.fetchAndStore store q.productId normalizedCpe
    (queryCvesForProduct tiers q circl store).store = fetched.2 ∧
      ((∃ n, n ≠ 0 ∧ fetched.1 = .ok n ∧ (queryCvesForProduct tiers q circl store).result =
          (tiers.queryFindings fetched.2 q.productId filters).map fun refreshed =>
            { refreshed with source := .localAndCircl }) ∨
        (∀ n, n ≠ 0 → fetched.1 ≠ .ok n) ∧ (queryCvesForProduct tiers q circl store).result =
          .ok { first with source := .localOnly }) := by
  obtain ⟨circl', hcall⟩ := callCircl_of_not_open hcircuit q.call
    (tiers.fetchAndStore store q.productId normalizedCpe).1
  unfold queryCvesForProduct
  simp only [hfilters, h, htotal, Nat.lt_irrefl, if_false, hcircuit, hcpe, hne, hcall, if_true,
    and_true, Bool.false_eq_true]
  rcases tiers.fetchAndStore store q.productId normalizedCpe with ⟨outcome, store'⟩
  cases outcome with
  | error e => exact ⟨rfl, .inr ⟨fun _ _ => (by simp), rfl⟩⟩
  | ok n =>
    by_cases hn : n = 0
    · subst hn
      exact ⟨rfl, .inr ⟨fun n hn heq => hn (Except.ok.inj heq).symm, rfl⟩⟩
    · simp only [Except.mapError, hn, if_false]
      cases hagain : tiers.queryFindings store' q.productId filters with
      | error e => exact ⟨rfl, .inl ⟨n, hn, rfl, rfl⟩⟩
      | ok refreshed => exact ⟨rfl, .inl ⟨n, hn, rfl, rfl⟩⟩

end Exits

section Engine

variable {ctx : QueryContext} {q : Query} {circl : Option CircuitBreaker} {s : LocalStore}

theorem selected_eq_nil_iff {filters : QueryFilters} {productId : ℕ} {s : System} :
    LocalQuery.selected filters productId s = [] ↔
      ∀ f ∈ s.db.findings.rows, ∀ c, s.cves.get? f.cveId = some c → f.productId = productId →
        LocalQuery.admitsFinding filters f = true → LocalQuery.admitsCve filters c = false := by
  rw [List.eq_nil_iff_forall_not_mem]
  constructor
  · intro h f hf c hget hproduct hfinding
    rw [← Bool.not_eq_true]
    exact fun hcve =>
      h (f, c) (LocalQuery.mem_selected_iff.mpr ⟨hf, hget, hproduct, hfinding, hcve⟩)
  · rintro h ⟨f, c⟩ hmem
    obtain ⟨hf, hget, hproduct, hfinding, hcve⟩ := LocalQuery.mem_selected_iff.mp hmem
    rw [h f hf c hget hproduct hfinding] at hcve
    cases hcve

/-- An empty page is fresh if there is nothing to find. -/
theorem finds_empty_iff {filters : QueryFilters} {productId : ℕ} {s : LocalStore}
    {page : QueryResult LocalQuery.FindingRow}
    (hvalid : Select.ValidPage filters.pageSize ((filters.page - 1) * filters.pageSize))
    (hfindings : page.findings = []) (htotal : page.total = 0) :
    ctx.Finds filters productId s page ↔
      LocalQuery.selected filters productId s.circl.system = [] := by
  obtain ⟨fresh, hfresh, hcount, hnone⟩ :=
    @LocalQuery.queryFindings_of_valid filters productId s.circl.system ctx.toLocalContext s.details
      hvalid
  rw [← List.length_eq_zero_iff, ← hcount, QueryContext.Finds, hfindings, htotal]
  constructor
  · rintro ⟨fresh', hfresh', -, hzero⟩
    obtain rfl := Except.ok.inj (hfresh.symm.trans hfresh')
    exact hzero.symm
  · exact fun hzero => ⟨fresh, hfresh, (hnone hzero).symm, hzero.symm⟩

/-- What is linked is unseen if the query finds it afterwards. -/
theorem linksUnseen_iff {filters : QueryFilters} {productId : ℕ} {normalizedCpe : String}
    (hvalid : Select.ValidPage filters.pageSize ((filters.page - 1) * filters.pageSize))
    (hempty : LocalQuery.selected filters productId s.circl.system = [])
    (hcircuit : ∀ b, circl = some b → b.state ≠ .opened)
    (hcpe : LocalQuery.getProductCpe productId s.circl.system = some normalizedCpe) :
    LinksUnseen filters productId circl s ↔ ∃ cveIds,
      s.circl.LinksFromCache normalizedCpe.toList cveIds ∧ LocalQuery.selected filters productId
        (s.circl.system.storeCircl s.circl.now productId (.cached cveIds)) ≠ [] := by
  constructor
  · intro h
    obtain ⟨cpe, cveIds, hcpe', hlinked, hunseen⟩ := h.linked
    obtain rfl := Option.some.inj (hcpe.symm.trans hcpe')
    obtain ⟨-, -, -, -, -, -, hall⟩ := id hlinked
    exact ⟨cveIds, hlinked, (selected_linked_iff hall hempty).mpr hunseen⟩
  · rintro ⟨cveIds, hlinked, hunseen⟩
    obtain ⟨-, -, -, -, -, -, hall⟩ := id hlinked
    exact ⟨hvalid, selected_eq_nil_iff.mp hempty, hcircuit, normalizedCpe, cveIds, hcpe, hlinked,
      (selected_linked_iff hall hempty).mp hunseen⟩

/-- Nothing is linked unseen if the fallback is not called. -/
theorem not_linksUnseen_of_local {filters : QueryFilters} {productId : ℕ}
    (hlocal : (circl.any fun b => b.state == .opened) = true ∨
      ctx.tiers.getProductCpe s productId = .ok none ∨
        ctx.tiers.getProductCpe s productId = .ok (some "")) :
    ¬LinksUnseen filters productId circl s := by
  intro h
  obtain ⟨cpe, cveIds, hcpe, ⟨vendor, product, value, hvp, -⟩, -⟩ := h.linked
  rcases hlocal with hopen | hnocpe | hblank
  · obtain ⟨b, hb, hopen⟩ := (Option.any_eq_true _ _).mp hopen
    exact h.circuit b hb (by simpa using hopen)
  · have hnone := Except.ok.inj hnocpe
    rw [hcpe] at hnone
    cases hnone
  · have hsome := Except.ok.inj hblank
    obtain rfl := Option.some.inj (hcpe.symm.trans hsome)
    cases hvp

/-- **After the fallback the page is fresh exactly if** linking the ids of the cache brings nothing
that the query finds: new rows are reported, and else the tables are left. -/
theorem fresh_fallback_iff {filters : QueryFilters} {first : QueryResult LocalQuery.FindingRow}
    {normalizedCpe : String} (hfilters : q.filters.getD .default = filters)
    (hvalid : Select.ValidPage filters.pageSize ((filters.page - 1) * filters.pageSize))
    (hquery : ctx.tiers.queryFindings s q.productId filters = .ok first)
    (htotal : first.total = 0) (hfindings : first.findings = [])
    (hempty : LocalQuery.selected filters q.productId s.circl.system = [])
    (hopen : ¬(circl.any fun b => b.state == .opened) = true)
    (hcpe : ctx.tiers.getProductCpe s q.productId = .ok (some normalizedCpe))
    (hne : normalizedCpe ≠ "") :
    (∀ result, (queryCvesForProduct ctx.tiers q circl s).result = .ok result →
        ctx.Finds filters q.productId (queryCvesForProduct ctx.tiers q circl s).store result) ↔
      ∀ cveIds, s.circl.LinksFromCache normalizedCpe.toList cveIds →
        LocalQuery.selected filters q.productId
          (s.circl.system.storeCircl s.circl.now q.productId (.cached cveIds)) = [] := by
  obtain ⟨hstore, hexits⟩ := query_of_fallback hfilters hquery htotal hopen hcpe hne
  have hreported : (ctx.tiers.fetchAndStore s q.productId normalizedCpe).1 =
      (CirclClient.fetchAndStore ctx.parse q.productId normalizedCpe.toList ctx.pages
        s.circl).1.mapError CirclError.text := rfl
  have hafter : (ctx.tiers.fetchAndStore s q.productId normalizedCpe).2.circl =
      (CirclClient.fetchAndStore ctx.parse q.productId normalizedCpe.toList ctx.pages
        s.circl).2 := rfl
  have hcases := CirclClient.fetchAndStore_cases ctx.parse q.productId normalizedCpe.toList
    ctx.pages s.circl
  rw [hstore]
  rcases hexits with ⟨n, hn, hok, hresult⟩ | ⟨hnew, hresult⟩
  · -- new rows are reported, and the query is made again
    refine iff_of_true (fun result heq => ?_) fun cveIds hlinked => ?_
    · rw [hresult] at heq
      cases hagain : ctx.tiers.queryFindings (ctx.tiers.fetchAndStore s q.productId
          normalizedCpe).2 q.productId filters with
      | error e =>
        rw [hagain] at heq
        cases heq
      | ok refreshed =>
        rw [hagain] at heq
        obtain rfl := Except.ok.inj heq
        exact ⟨refreshed, hagain, rfl, rfl⟩
    · rcases hcases with ⟨-, -, -, hnone⟩ | ⟨-, hnone⟩ | ⟨-, -, hzero, -⟩
      · exact absurd hlinked (hnone cveIds)
      · exact absurd hlinked (hnone cveIds)
      · rw [hreported, hzero] at hok
        exact absurd (Except.ok.inj hok).symm hn
  · -- the first page is returned, and is fresh if the query finds nothing in the tables left
    have hreturned : (∀ result, (queryCvesForProduct ctx.tiers q circl s).result = .ok result →
        ctx.Finds filters q.productId (ctx.tiers.fetchAndStore s q.productId normalizedCpe).2
          result) ↔ LocalQuery.selected filters q.productId
            (ctx.tiers.fetchAndStore s q.productId normalizedCpe).2.circl.system = [] := by
      rw [hresult]
      simp only [Except.ok.injEq, forall_eq']
      exact finds_empty_iff hvalid hfindings htotal
    rw [hreturned, hafter]
    rcases hcases with ⟨n, hn, hok, -⟩ | ⟨hsame, hnone⟩ | ⟨cveIds, hlinked, -, hlinks⟩
    · rw [hok] at hreported
      exact absurd hreported (hnew n hn)
    · rw [hsame]
      exact iff_of_true hempty fun cveIds hlinked => absurd hlinked (hnone cveIds)
    · rw [hlinks]
      constructor
      · intro h cveIds' hlinked'
        rwa [hlinked'.unique hlinked]
      · exact fun h => h cveIds hlinked

/-- **When the page is fresh**: unless findings are linked that nobody sees. -/
theorem freshPage_iff (ctx : QueryContext) (q : Query) (circl : Option CircuitBreaker)
    (s : LocalStore) :
    FreshPage ctx q circl s ↔ ¬LinksUnseen (q.filters.getD .default) q.productId circl s := by
  obtain ⟨filters, hfilters⟩ : ∃ filters, q.filters.getD .default = filters := ⟨_, rfl⟩
  unfold FreshPage
  dsimp only
  rw [hfilters]
  by_cases hvalid : Select.ValidPage filters.pageSize ((filters.page - 1) * filters.pageSize)
  swap
  · -- the first query raises
    obtain ⟨e, he⟩ := @LocalQuery.queryFindings_of_not_valid filters q.productId s.circl.system
      ctx.toLocalContext s.details hvalid
    have hquery : ctx.tiers.queryFindings s q.productId filters = .error e := he
    refine iff_of_true (fun result heq => ?_) fun h => hvalid h.page
    rw [query_of_error hfilters hquery] at heq
    cases heq
  obtain ⟨first, hfirst, hcount, hnone⟩ :=
    @LocalQuery.queryFindings_of_valid filters q.productId s.circl.system ctx.toLocalContext
      s.details hvalid
  have hquery : ctx.tiers.queryFindings s q.productId filters = .ok first := hfirst
  by_cases hempty : LocalQuery.selected filters q.productId s.circl.system = []
  swap
  · -- it finds something
    have htotal : 0 < first.total := by
      rw [hcount]
      exact List.length_pos_iff.mpr hempty
    obtain ⟨hresult, hstore⟩ := @query_of_found _ _ _ _ circl _ _ _ hfilters hquery htotal
    refine iff_of_true (fun result heq => ?_) fun h => hempty (selected_eq_nil_iff.mpr h.empty)
    obtain rfl := Except.ok.inj (hresult.symm.trans heq)
    rw [hstore]
    exact ⟨first, hquery, rfl, rfl⟩
  have htotal : first.total = 0 := by
    rw [hcount, hempty, List.length_nil]
  by_cases hlocal : (circl.any fun b => b.state == .opened) = true ∨
      ctx.tiers.getProductCpe s q.productId = .ok none ∨
        ctx.tiers.getProductCpe s q.productId = .ok (some "")
  · obtain ⟨hresult, hstore⟩ := query_of_local hfilters hquery htotal hlocal
    refine iff_of_true (fun result heq => ?_) (not_linksUnseen_of_local hlocal)
    obtain rfl := Except.ok.inj (hresult.symm.trans heq)
    rw [hstore]
    exact (finds_empty_iff hvalid (hnone htotal) htotal).mpr hempty
  · obtain ⟨hopen, hnocpe, hblank⟩ : ¬(circl.any fun b => b.state == .opened) = true ∧
        ctx.tiers.getProductCpe s q.productId ≠ .ok none ∧
          ctx.tiers.getProductCpe s q.productId ≠ .ok (some "") := by
      simpa only [not_or] using hlocal
    have hlookup : ctx.tiers.getProductCpe s q.productId =
      .ok (LocalQuery.getProductCpe q.productId s.circl.system) := rfl
    cases hcpe : LocalQuery.getProductCpe q.productId s.circl.system with
    | none => exact absurd (hlookup.trans (congrArg Except.ok hcpe)) hnocpe
    | some normalizedCpe =>
      rw [hcpe] at hlookup
      have hne : normalizedCpe ≠ "" := by
        rintro rfl
        exact hblank hlookup
      have hcircuit : ∀ b, circl = some b → b.state ≠ .opened := by
        rintro b rfl
        simpa using hopen
      rw [fresh_fallback_iff hfilters hvalid hquery htotal (hnone htotal) hempty hopen hlookup hne,
        linksUnseen_iff hvalid hempty hcircuit hcpe]
      simp only [not_exists, not_and, not_not]

/-- CIRCL does not answer. -/
def noAnswer : QueryContext where
  order := .insertion
  jsonbOut := fun _ => ""
  parse := .none
  pages := .error .http

/-- The CVE has been fetched for the first of two products: it is in the mirror, and its id in the
cache. -/
def afterFirst : LocalStore :=
  ⟨CirclClient.afterFetching [bareItem "CVE-2024-0001"], fun _ => ⟨none, none, none, 0⟩⟩

/-- What is asked of the second product. -/
def ofSecond : Query := ⟨2, none, false, ⟨0, 0, 0⟩⟩

/-- **The second product is linked to it, and the page of before is returned**: the call returns no
finding, and the same query finds one in the store that it has left. -/
theorem not_freshPage_linked :
    (∃ result, (queryCvesForProduct noAnswer.tiers ofSecond none afterFirst).result =
        .ok result ∧ result.total = 0 ∧ result.findings = []) ∧
      (∃ fresh, noAnswer.tiers.queryFindings (queryCvesForProduct noAnswer.tiers ofSecond none
        afterFirst).store 2 .default = .ok fresh ∧ fresh.total = 1) ∧
      ¬FreshPage noAnswer ofSecond none afterFirst := by
  have hreturned : ∃ result, (queryCvesForProduct noAnswer.tiers ofSecond none
      afterFirst).result = .ok result ∧ result.total = 0 ∧ result.findings = [] :=
    ⟨_, rfl, rfl, rfl⟩
  have hleft : ∃ fresh, noAnswer.tiers.queryFindings (queryCvesForProduct noAnswer.tiers
      ofSecond none afterFirst).store 2 .default = .ok fresh ∧ fresh.total = 1 :=
    ⟨_, rfl, rfl⟩
  refine ⟨hreturned, hleft, fun h => ?_⟩
  obtain ⟨result, hresult, htotal, -⟩ := hreturned
  obtain ⟨fresh, hfresh, hone⟩ := hleft
  obtain ⟨fresh', hfresh', -, heq⟩ := h result hresult
  obtain rfl := Except.ok.inj (hfresh.symm.trans hfresh')
  rw [htotal, hone] at heq
  cases heq

end Engine

end CveManagement
