import CveManagement.Payload.Json
import Mathlib

/-!
# The live search

`live_search` of `app/api/routers/live.py` asks NVD for one page. NVD returns its results oldest
first, and a search by keyword is to show the newest first: its pages are counted backwards from the
number of results, which a first request finds out. The page that would begin before the first
result begins with it instead, and is as long as any other: unless the number of results is a
multiple of the length, it shows some of them a second time (`CveManagement.reversePages_iff`).
-/

namespace CveManagement

/-! ### The search -/

/-- The parameters `resultsPerPage` and `startIndex` of a request. -/
structure LiveRequest where
  resultsPerPage : ℤ
  startIndex : ℤ

/-- The body of an answer; what is missing in it is zero, or empty. -/
structure LiveBody where
  totalResults : ℤ
  vulnerabilities : List Json

/-- What NVD answers to a request. -/
inductive LiveAnswer
  /-- No answer: an `httpx.RequestError`. -/
  | requestError
  | response (statusCode : ℕ) (body : LiveBody)

/-- The errors of a search. -/
inductive LiveError
  | httpException (statusCode : ℕ) (detail : String)
  /-- What `raise_for_status` raises. -/
  | httpStatusError
  deriving DecidableEq

/-- `_nvd_fetch`, with what becomes of a `RequestError`. -/
def nvdFetch : LiveAnswer → Except LiveError LiveBody
  | .requestError => .error (.httpException 502 "NVD non raggiungibile — riprova")
  | .response statusCode body =>
    if statusCode = 429 then
      .error (.httpException 429 "NVD rate limit — riprova tra qualche secondo")
    else if statusCode = 404 then .ok ⟨0, []⟩
    else if 200 ≤ statusCode ∧ statusCode < 300 then .ok body
    else .error .httpStatusError

/-- What is returned, with the results as they were fetched. -/
structure LivePage where
  vulns : List Json
  total : ℤ
  page : ℤ
  pages : ℤ

/-- The requests that were sent, and what came of them. -/
structure LiveRun where
  requests : List LiveRequest
  result : Except LiveError LivePage

/-- The page is fetched, after the requests that were sent before. -/
def fetchLivePage (nvd : LiveRequest → LiveAnswer) (page limit : ℤ) (sent : List LiveRequest)
    (request : LiveRequest) : LiveRun where
  requests := sent ++ [request]
  result := do
    let body ← nvdFetch (nvd request)
    let total := body.totalResults
    return ⟨body.vulnerabilities, total, page, max 1 ((total + limit - 1) / limit)⟩

/-- **`live_search`**, of a page that is not cached; `keyword` says that there is a `q`. -/
def liveSearch (nvd : LiveRequest → LiveAnswer) (keyword : Bool) (page limit : ℤ) : LiveRun :=
  let limit := min 100 (max 1 limit)
  let page := max 1 page
  let probe : LiveRequest := ⟨1, 0⟩
  if keyword && page == 1 then
    match nvdFetch (nvd probe) with
    | .error e => ⟨[probe], .error e⟩
    | .ok body =>
      let total := body.totalResults
      if total = 0 then ⟨[probe], .ok ⟨[], 0, 1, 0⟩⟩
      else fetchLivePage nvd page limit [probe] ⟨limit, max 0 (total - limit)⟩
  else if keyword then
    match nvdFetch (nvd probe) with
    | .error e => ⟨[probe], .error e⟩
    | .ok body =>
      let total := body.totalResults
      fetchLivePage nvd page limit [probe] ⟨limit, max 0 (total - page * limit)⟩
  else fetchLivePage nvd page limit [] ⟨limit, (page - 1) * limit⟩

/-! ### The pages of a search -/

/-- **A stable NVD** reports the same number of results to every request. -/
def StableNvd (nvd : LiveRequest → LiveAnswer) (n : ℕ) : Prop :=
  ∀ request, ∃ vulns, nvd request = .response 200 ⟨n, vulns⟩

/-- The indices that a request is about, of so many results. -/
def LiveRequest.indices (n : ℕ) (request : LiveRequest) : List ℕ :=
  ((List.range n).drop request.startIndex.toNat).take request.resultsPerPage.toNat

/-- The indices that a search by keyword fetches for a page. -/
def pageIndices (nvd : LiveRequest → LiveAnswer) (n : ℕ) (limit : ℤ) (page : ℕ) : List ℕ :=
  (liveSearch nvd true page limit).requests.getLast?.elim [] (LiveRequest.indices n)

/-- **The pages of a search by keyword**: together they are all results, each of them once, and each
page is newer than those after it. -/
structure ReversePages (nvd : LiveRequest → LiveAnswer) (n : ℕ) (limit : ℕ) : Prop where
  covers : ((List.range ((n + limit - 1) / limit)).flatMap fun i =>
    pageIndices nvd n limit (i + 1)).Perm (List.range n)
  newestFirst : ∀ p p', 1 ≤ p → p < p' → p' ≤ (n + limit - 1) / limit →
    ∀ i ∈ pageIndices nvd n limit p, ∀ j ∈ pageIndices nvd n limit p', j < i

section Pages

variable {nvd : LiveRequest → LiveAnswer} {n limit p i : ℕ}

/-- The elements of a slice of a range. -/
theorem mem_slice_range {a b : ℕ} :
    i ∈ ((List.range n).drop a).take b ↔ a ≤ i ∧ i < n ∧ i < a + b := by
  rw [List.mem_iff_getElem?]
  constructor
  · rintro ⟨j, hj⟩
    obtain ⟨hlt, heq⟩ := List.getElem?_eq_some_iff.mp hj
    simp only [List.length_take, List.length_drop, List.length_range] at hlt
    simp only [List.getElem_take, List.getElem_drop, List.getElem_range] at heq
    omega
  · rintro ⟨ha, hn, hb⟩
    refine ⟨i - a, ?_⟩
    rw [List.getElem?_take_of_lt (by omega), List.getElem?_drop, List.getElem?_range (by omega)]
    exact congrArg some (by omega)

/-- What is fetched for a page. -/
theorem pageIndices_eq (hnvd : StableNvd nvd n) (hn : 1 ≤ n) (hlimit : 1 ≤ limit ∧ limit ≤ 100)
    (hp : 1 ≤ p) :
    pageIndices nvd n limit p = ((List.range n).drop (n - p * limit)).take limit := by
  have hclamp : min 100 (max 1 (limit : ℤ)) = limit := by omega
  have hpage : max 1 (p : ℤ) = p := by omega
  obtain ⟨vulns, hprobe⟩ := hnvd ⟨1, 0⟩
  have hfetch : nvdFetch (nvd ⟨1, 0⟩) = .ok ⟨n, vulns⟩ := by
    rw [hprobe]
    rfl
  -- both branches ask for the same page
  have hlast : (liveSearch nvd true p limit).requests.getLast? =
      some ⟨limit, max 0 ((n : ℤ) - p * limit)⟩ := by
    unfold liveSearch
    simp only [hclamp, hpage, Bool.true_and, hfetch, if_true]
    split_ifs with hfirst hzero
    · exact absurd hzero (by omega)
    · have hone : (p : ℤ) = 1 := by simpa using hfirst
      rw [hone, one_mul]
      rfl
    · rfl
  rw [pageIndices, hlast]
  have hstart : (max 0 ((n : ℤ) - p * limit)).toNat = n - p * limit := by
    have hcast : ((p * limit : ℕ) : ℤ) = (p : ℤ) * limit := Nat.cast_mul p limit
    rw [← hcast]
    omega
  change ((List.range n).drop (max 0 ((n : ℤ) - p * limit)).toNat).take (limit : ℤ).toNat = _
  rw [hstart, Int.toNat_natCast]

/-- **An index is on a page** if it is that far from the end, or the page begins with the first. -/
theorem mem_pageIndices_iff (hnvd : StableNvd nvd n) (hn : 1 ≤ n)
    (hlimit : 1 ≤ limit ∧ limit ≤ 100) (hp : 1 ≤ p) :
    i ∈ pageIndices nvd n limit p ↔ n - p * limit ≤ i ∧ i < n ∧ i < n - p * limit + limit := by
  rw [pageIndices_eq hnvd hn hlimit hp, mem_slice_range]

theorem nodup_pageIndices (hnvd : StableNvd nvd n) (hn : 1 ≤ n)
    (hlimit : 1 ≤ limit ∧ limit ≤ 100) (hp : 1 ≤ p) : (pageIndices nvd n limit p).Nodup := by
  rw [pageIndices_eq hnvd hn hlimit hp]
  exact List.nodup_range.sublist ((List.take_sublist _ _).trans (List.drop_sublist _ _))

/-- A page that is not cut short ends before the ones that are newer. -/
theorem lt_of_mem_pageIndices {p' i j : ℕ} (hnvd : StableNvd nvd n) (hn : 1 ≤ n)
    (hlimit : 1 ≤ limit ∧ limit ≤ 100) (hp : 1 ≤ p) (hlt : p < p') (hin : p' * limit ≤ n)
    (hi : i ∈ pageIndices nvd n limit p) (hj : j ∈ pageIndices nvd n limit p') : j < i := by
  rw [mem_pageIndices_iff hnvd hn hlimit hp] at hi
  rw [mem_pageIndices_iff hnvd hn hlimit (hp.trans hlt.le)] at hj
  have hstep : p * limit + limit ≤ p' * limit := by
    rw [← Nat.succ_mul]
    exact Nat.mul_le_mul_right limit hlt
  omega

/-- Each result is on a page, which is given by how far it is from the end. -/
theorem exists_mem_pageIndices {q i : ℕ} (hnvd : StableNvd nvd (limit * q)) (hn : 1 ≤ limit * q)
    (hlimit : 1 ≤ limit ∧ limit ≤ 100) (hi : i < limit * q) :
    ∃ p < q, i ∈ pageIndices nvd (limit * q) limit (p + 1) := by
  have hdiv := Nat.div_add_mod' (limit * q - 1 - i) limit
  have hmod := Nat.mod_lt (limit * q - 1 - i) (show 0 < limit by omega)
  have hlt : (limit * q - 1 - i) / limit < q := by
    rw [Nat.div_lt_iff_lt_mul (by omega), Nat.mul_comm q limit]
    omega
  refine ⟨(limit * q - 1 - i) / limit, hlt, ?_⟩
  generalize (limit * q - 1 - i) / limit = t at hdiv hlt
  rw [mem_pageIndices_iff hnvd hn hlimit (by omega), Nat.succ_mul]
  omega

/-- **Results that fill their pages**: a page ends where the one before begins. -/
theorem reversePages_of_dvd (hnvd : StableNvd nvd n) (hn : 1 ≤ n)
    (hlimit : 1 ≤ limit ∧ limit ≤ 100) (h : limit ∣ n) : ReversePages nvd n limit := by
  obtain ⟨q, rfl⟩ := h
  have hpages : (limit * q + limit - 1) / limit = q := by
    refine Nat.div_eq_of_lt_le ?_ ?_ <;> nlinarith [Nat.sub_add_cancel
      (show 1 ≤ limit * q + limit by omega)]
  have hnewest : ∀ p p', 1 ≤ p → p < p' → p' ≤ q →
      ∀ i ∈ pageIndices nvd (limit * q) limit p, ∀ j ∈ pageIndices nvd (limit * q) limit p',
        j < i := by
    intro p p' hp hlt hp' i hi j hj
    have hin : p' * limit ≤ limit * q := by
      rw [Nat.mul_comm limit q]
      exact Nat.mul_le_mul_right limit hp'
    exact lt_of_mem_pageIndices hnvd hn hlimit hp hlt hin hi hj
  refine ⟨?_, fun p p' hp hlt hp' => hnewest p p' hp hlt (hpages ▸ hp')⟩
  rw [hpages]
  refine (List.perm_ext_iff_of_nodup ?_ List.nodup_range).mpr fun i => ?_
  · rw [List.nodup_flatMap]
    refine ⟨fun p _ => nodup_pageIndices hnvd hn hlimit (by omega), ?_⟩
    refine List.pairwise_lt_range.imp_of_mem fun {p p'} hp hp' hlt => ?_
    intro i hi hi'
    exact lt_irrefl i (hnewest (p + 1) (p' + 1) (by omega) (by omega)
      (List.mem_range.mp hp') i hi i hi')
  · rw [List.mem_flatMap, List.mem_range]
    constructor
    · rintro ⟨p, -, hi⟩
      exact ((mem_pageIndices_iff hnvd hn hlimit (by omega)).mp hi).2.1
    · intro hi
      obtain ⟨p, hp, hmem⟩ := exists_mem_pageIndices hnvd hn hlimit hi
      exact ⟨p, List.mem_range.mpr hp, hmem⟩

/-- Results that fit on one page. -/
theorem reversePages_of_le (hnvd : StableNvd nvd n) (hn : 1 ≤ n)
    (hlimit : 1 ≤ limit ∧ limit ≤ 100) (h : n ≤ limit) : ReversePages nvd n limit := by
  have hpages : (n + limit - 1) / limit = 1 :=
    Nat.div_eq_of_lt_le (by omega) (by omega)
  refine ⟨?_, fun p p' hp hlt hp' => absurd hp' (by omega)⟩
  rw [hpages]
  change (pageIndices nvd n limit 1 ++ []).Perm (List.range n)
  rw [List.append_nil, pageIndices_eq hnvd hn hlimit (le_refl 1), one_mul,
    Nat.sub_eq_zero_of_le h, List.drop_zero, List.take_of_length_le (by simpa using h)]

/-- **The pages of a search cover its results, the newest first**, exactly if the results fill their
pages, or fit on one. -/
theorem reversePages_iff (hnvd : StableNvd nvd n) (hn : 1 ≤ n)
    (hlimit : 1 ≤ limit ∧ limit ≤ 100) :
    ReversePages nvd n limit ↔ limit ∣ n ∨ n ≤ limit := by
  constructor
  · intro h
    by_contra hnot
    obtain ⟨hdvd, hlt⟩ := not_or.mp hnot
    have hdiv := Nat.div_add_mod' n limit
    have hmod := Nat.mod_lt n (show 0 < limit by omega)
    have hrest : n % limit ≠ 0 := fun hzero => hdvd (Nat.dvd_of_mod_eq_zero hzero)
    have hpages : (n + limit - 1) / limit = n / limit + 1 := by
      refine Nat.div_eq_of_lt_le ?_ ?_
      · rw [Nat.succ_mul]
        omega
      · rw [Nat.succ_mul, Nat.succ_mul]
        omega
    have hfull : 1 ≤ n / limit := (Nat.one_le_div_iff (by omega)).mpr (by omega)
    have hpos : limit ≤ n / limit * limit := Nat.le_mul_of_pos_left limit hfull
    -- the first result of the last page but one is on the last one too
    have hnewest := h.newestFirst (n / limit) (n / limit + 1) hfull (Nat.lt_succ_self _)
      hpages.ge (n % limit) ?_ (n % limit) ?_
    · exact lt_irrefl _ hnewest
    · rw [mem_pageIndices_iff hnvd hn hlimit hfull]
      omega
    · rw [mem_pageIndices_iff hnvd hn hlimit (by omega), Nat.succ_mul]
      omega
  · rintro (h | h)
    · exact reversePages_of_dvd hnvd hn hlimit h
    · exact reversePages_of_le hnvd hn hlimit h

/-- An NVD with so many results, of which it shows none. -/
def countingNvd (n : ℕ) (_ : LiveRequest) : LiveAnswer := .response 200 ⟨n, []⟩

theorem stableNvd_countingNvd (n : ℕ) : StableNvd (countingNvd n) n := fun _ => ⟨[], rfl⟩

theorem reversePages_forty : ReversePages (countingNvd 40) 40 20 :=
  (reversePages_iff (stableNvd_countingNvd 40) (by decide) (by decide)).mpr (.inl (by decide))

/-- **Of thirty results, ten are shown twice**: the second page of twenty begins with the first
result, and ends where the first page has ended. -/
theorem not_reversePages_thirty :
    StableNvd (countingNvd 30) 30 ∧ ¬ReversePages (countingNvd 30) 30 20 := by
  refine ⟨stableNvd_countingNvd 30, fun h => ?_⟩
  have hlt := h.newestFirst 1 2 (by decide) (by decide) (by decide) 10 ?_ 10 ?_
  · exact lt_irrefl 10 hlt
  · rw [mem_pageIndices_iff (stableNvd_countingNvd 30) (by decide) (by decide) (by decide)]
    decide
  · rw [mem_pageIndices_iff (stableNvd_countingNvd 30) (by decide) (by decide) (by decide)]
    decide

end Pages

end CveManagement
