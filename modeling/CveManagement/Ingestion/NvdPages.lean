import CveManagement.Ingestion.MalformedRecords

/-!
# The pages of NVD

`NvdClient._iter_pages` asks for one window of time page by page, each time from the index that it
has come to, and yields the records of the CVEs on it. An answer that the limit is exceeded is
waited for and asked again; a page counts whatever is on it, read or not.

A server that has the same results throughout, and cuts them into pages as it likes, is read
completely (`CveManagement.PagesComplete`) exactly if each result is of a shape that the loop
expects, and each answer that the limit is exceeded says for how long in seconds
(`CveManagement.pagesComplete_iff`): a date, as the header may be, is a `ValueError`.
-/

namespace CveManagement

open Salvage

/-! ### The loop -/

/-- What the server answers. -/
inductive NvdAnswer
  /-- No answer: an `httpx.RequestError`. -/
  | requestError
  /-- 429, with the header `Retry-After`. -/
  | rateLimited (retryAfter : Option Text)
  /-- 404. -/
  | notFound
  /-- Another status for which `raise_for_status` raises. -/
  | httpError
  /-- A body; `none` is none of JSON. -/
  | body (json : Option Json)

/-- How a generator stands after some requests. -/
inductive PageEnding
  | finished
  | raised
  /-- It is still asking. -/
  | unfinished
  deriving DecidableEq

/-- The records that were yielded, and how the generator stands. -/
structure PageRun where
  records : List NvdCveRecord
  ending : PageEnding

/-- `_MAX_PAGES`. -/
def maxPages : ℕ := 1000

/-- **The wait for an answer of 429**: `int(…)` reads the header, and `asyncio.sleep` takes what can
be converted to a `float`. -/
def waits (py : PyText) (retryAfter : Option Text) : Bool :=
  match py.int (py.strip (retryAfter.getD "30".toList)) with
  | some seconds => decide (seconds < 2 ^ 1024 - 2 ^ 970)
  | none => false

/-- The total and the CVEs of a body; `len` fails on the values on which a loop does. -/
def readPage (body : Json) : Except NvdError (Json × List Json) := do
  let total ← body.getElse "totalResults" (.num 0)
  let vulns ← body.getElse "vulnerabilities" (.arr [])
  return (total, ← raising vulns.iter)

/-- `start_index >= total_results or not vulns`. -/
def atEnd (startIndex : ℕ) (total : Json) (vulns : List Json) : Except NvdError Bool :=
  match total with
  | .num q => .ok (decide (q ≤ startIndex) || vulns.isEmpty)
  | .bool b => .ok (decide ((if b then 1 else 0) ≤ startIndex) || vulns.isEmpty)
  | _ => .error (.raised .typeError)

/-- **`_iter_pages`**, of a window, for as many requests as the first number says. What the server
answers to a request depends on the number of the request and on its `startIndex`. -/
def iterPages (env : NvdEnv) (py : PyText) (server : ℕ → ℕ → NvdAnswer) :
    ℕ → ℕ → ℕ → ℕ → PageRun
  | 0, _, _, _ => ⟨[], .unfinished⟩
  | fuel + 1, request, startIndex, pageNum =>
    if pageNum < maxPages then
      match server request startIndex with
      | .requestError | .httpError | .body none => ⟨[], .raised⟩
      | .rateLimited retryAfter =>
        if waits py retryAfter then iterPages env py server fuel (request + 1) startIndex pageNum
        else ⟨[], .raised⟩
      | .notFound => ⟨[], .finished⟩
      | .body (some body) =>
        match readPage body with
        | .error _ => ⟨[], .raised⟩
        | .ok (total, vulns) =>
          match collect (nvdVuln env) vulns with
          | (records, some _) => ⟨records, .raised⟩
          | (records, none) =>
            let next := startIndex + vulns.length
            match atEnd next total vulns with
            | .error _ => ⟨records, .raised⟩
            | .ok true => ⟨records, .finished⟩
            | .ok false =>
              let rest := iterPages env py server fuel (request + 1) next (pageNum + 1)
              ⟨records ++ rest.records, rest.ending⟩
    else ⟨[], .finished⟩

/-! ### Servers -/

/-- **A page of the results**: `m` of them from index `s` on, and the number of all. -/
structure IsPage (results : List Json) (s m : ℕ) (body : Json) : Prop where
  total : body.getElse "totalResults" (.num 0) = .ok (.num results.length)
  vulns : body.getElse "vulnerabilities" (.arr []) = .ok (.arr ((results.drop s).take m))

/-- **A stable server**: to an index before the end it answers that the limit is exceeded, or with a
page that begins there and is not empty; the limit is exceeded for some number of requests only. -/
structure StableServer (server : ℕ → ℕ → NvdAnswer) (results : List Json) : Prop where
  answers : ∀ k s, s < results.length → (∃ h, server k s = .rateLimited h) ∨
    ∃ m body, 0 < m ∧ s + m ≤ results.length ∧ IsPage results s m body ∧
      server k s = .body (some body)
  empty : results = [] → ∀ k, (∃ h, server k 0 = .rateLimited h) ∨ server k 0 = .notFound ∨
    ∃ body, IsPage results 0 0 body ∧ server k 0 = .body (some body)
  finitely : ∃ K, ∀ k, K ≤ k → ∀ s h, server k s ≠ .rateLimited h

/-- **The requests that it takes**: their number, the index, and the pages before. -/
inductive PageAsked (server : ℕ → ℕ → NvdAnswer) (results : List Json) : ℕ → ℕ → ℕ → Prop
  | first : PageAsked server results 0 0 0
  | again {k s p : ℕ} {h : Option Text} (asked : PageAsked server results k s p)
      (limited : server k s = .rateLimited h) : PageAsked server results (k + 1) s p
  | next {k s p m : ℕ} {body : Json} (asked : PageAsked server results k s p) (nonempty : 0 < m)
      (more : s + m < results.length) (page : IsPage results s m body)
      (answered : server k s = .body (some body)) : PageAsked server results (k + 1) (s + m) (p + 1)

/-- **The server is read completely**: given enough requests, the generator comes to its end and has
yielded every result that can be read, once and in order; and those left out are the ones for which
`from_nvd_cve` raises a `KeyError` or a `ValueError`. -/
structure PagesComplete (env : NvdEnv) (py : PyText) (server : ℕ → ℕ → NvdAnswer)
    (results : List Json) : Prop where
  yields : ∃ n, ∀ fuel, n ≤ fuel →
    iterPages env py server fuel 0 0 0 = ⟨results.filterMap (parsed env), .finished⟩
  skips : ∀ r ∈ results, parsed env r = none ↔
    ∃ e, fromNvdCve env r = .error e ∧ e.caught true = true

/-! ### One request -/

section Request

variable {env : NvdEnv} {py : PyText} {server : ℕ → ℕ → NvdAnswer} {results : List Json}
  {fuel k s p m : ℕ}

theorem iterPages_rateLimited (hp : p < maxPages) {h : Option Text}
    (hserver : server k s = .rateLimited h) :
    iterPages env py server (fuel + 1) k s p =
      if waits py h = true then iterPages env py server fuel (k + 1) s p else ⟨[], .raised⟩ := by
  rw [iterPages, if_pos hp, hserver]

theorem readPage_of_isPage {body : Json} (hpage : IsPage results s m body) :
    readPage body = .ok (.num results.length, (results.drop s).take m) := by
  rw [readPage, hpage.total, hpage.vulns]
  rfl

/-- A page before the end is not empty. -/
theorem pos_of_more (hm : 0 < m ∨ results = []) (hmore : s + m < results.length) : 0 < m := by
  refine hm.resolve_right fun hnil => ?_
  rw [hnil] at hmore
  exact absurd hmore (Nat.not_lt_zero _)

/-- **A page that gets through** is yielded, and the next one asked for, if there is one. -/
theorem iterPages_page (hp : p < maxPages) {body : Json} (hm : 0 < m ∨ results = [])
    (hle : s + m ≤ results.length) (hpage : IsPage results s m body)
    (hserver : server k s = .body (some body))
    (hshaped : ∀ r ∈ (results.drop s).take m, NvdShaped env true r) :
    iterPages env py server (fuel + 1) k s p =
      if s + m = results.length then
        ⟨((results.drop s).take m).filterMap (parsed env), .finished⟩
      else
        ⟨((results.drop s).take m).filterMap (parsed env) ++
            (iterPages env py server fuel (k + 1) (s + m) (p + 1)).records,
          (iterPages env py server fuel (k + 1) (s + m) (p + 1)).ending⟩ := by
  have hcollect : collect (nvdVuln env) ((results.drop s).take m) =
      (((results.drop s).take m).filterMap (parsed env), none) :=
    (isolates_iff fun _ _ => nvdVuln_eq_ok_iff).mpr hshaped
  have hlength : ((results.drop s).take m).length = m := by
    rw [List.length_take, List.length_drop]
    omega
  have hend : atEnd (s + m) (.num results.length) ((results.drop s).take m) =
      .ok (decide (s + m = results.length)) := by
    simp only [atEnd, Nat.cast_le]
    refine congrArg Except.ok ?_
    rcases Nat.eq_or_lt_of_le hle with hlast | hmore
    · simp [hlast]
    · have hm : 0 < m := pos_of_more hm hmore
      have hnil : ((results.drop s).take m).isEmpty = false := by
        rw [List.isEmpty_eq_false_iff, ← List.length_pos_iff, hlength]
        exact hm
      simp [hnil, hmore.ne, not_le.mpr hmore]
  rw [iterPages, if_pos hp, hserver]
  simp only [readPage_of_isPage hpage, hcollect, hlength, hend]
  by_cases hlast : s + m = results.length
  · simp only [hlast, decide_true, if_true]
  · simp only [hlast, decide_false, if_false]

/-- A page that does not get through ends in an exception. -/
theorem iterPages_page_of_not_shaped (hp : p < maxPages) {body : Json}
    (hpage : IsPage results s m body) (hserver : server k s = .body (some body))
    (hshaped : ¬∀ r ∈ (results.drop s).take m, NvdShaped env true r) :
    (iterPages env py server (fuel + 1) k s p).ending = .raised := by
  have hfailure : (collect (nvdVuln env) ((results.drop s).take m)).2 ≠ none := fun hnone => by
    refine hshaped fun r hr => ?_
    obtain ⟨o, ho⟩ := collect_snd_eq_none_iff.mp hnone r hr
    exact (nvdVuln_eq_ok_iff.mp ho).1
  rw [iterPages, if_pos hp, hserver]
  simp only [readPage_of_isPage hpage]
  rcases hcollect : collect (nvdVuln env) ((results.drop s).take m) with ⟨records, _ | e⟩
  · rw [hcollect] at hfailure
    exact absurd rfl hfailure
  · rfl

end Request

/-! ### A run -/

section Run

variable {env : NvdEnv} {py : PyText} {server : ℕ → ℕ → NvdAnswer} {results : List Json}
  {k s p : ℕ}

/-- A request is made for an index before the end, or for the first. -/
theorem PageAsked.lt_or (h : PageAsked server results k s p) : s < results.length ∨ s = 0 := by
  induction h with
  | first => exact .inr rfl
  | again _ _ ih => exact ih
  | next _ _ more _ _ _ => exact .inl more

/-- Each page before it has brought it forward. -/
theorem PageAsked.pages_le (h : PageAsked server results k s p) : p ≤ s := by
  induction h with
  | first => exact le_refl 0
  | again _ _ ih => exact ih
  | next _ nonempty _ _ _ ih => omega

/-- What a stable server answers to a request. -/
theorem StableServer.answer (hserver : StableServer server results)
    (h : PageAsked server results k s p) :
    (∃ h, server k s = .rateLimited h) ∨ results = [] ∧ server k s = .notFound ∨
      ∃ m body, (0 < m ∨ results = []) ∧ s + m ≤ results.length ∧ IsPage results s m body ∧
        server k s = .body (some body) := by
  by_cases hs : s < results.length
  · rcases hserver.answers k s hs with hlimited | ⟨m, body, hm, hle, hpage, hbody⟩
    · exact .inl hlimited
    · exact .inr (.inr ⟨m, body, .inl hm, hle, hpage, hbody⟩)
  · obtain rfl : s = 0 := h.lt_or.resolve_left hs
    have hnil : results = [] := List.length_eq_zero_iff.mp (Nat.eq_zero_of_not_pos hs)
    rcases hserver.empty hnil k with hlimited | hmissing | ⟨body, hpage, hbody⟩
    · exact .inl hlimited
    · exact .inr (.inl ⟨hnil, hmissing⟩)
    · exact .inr (.inr ⟨0, body, .inr hnil, Nat.zero_le _, hpage, hbody⟩)

/-- **What a run yields from a request on**, if nothing ends it: the records of the results from the
index on. The requests that are left are bounded by those for which the limit can be exceeded and
the results that are left. -/
theorem iterPages_of_shaped (hserver : StableServer server results)
    (hpages : ∀ k s p, PageAsked server results k s p → p < maxPages)
    (hshaped : ∀ r ∈ results, NvdShaped env true r)
    (hwaits : ∀ k s p h, PageAsked server results k s p → server k s = .rateLimited h →
      waits py h = true) {K : ℕ} (hK : ∀ k, K ≤ k → ∀ s h, server k s ≠ .rateLimited h)
    (fuel : ℕ) (hasked : PageAsked server results k s p)
    (hfuel : K - k + (results.length - s) < fuel) :
    iterPages env py server fuel k s p =
      ⟨(results.drop s).filterMap (parsed env), .finished⟩ := by
  induction fuel generalizing k s p with
  | zero => exact absurd hfuel (Nat.not_lt_zero _)
  | succ fuel ih =>
    have hp := hpages k s p hasked
    rcases hserver.answer hasked with ⟨h, hlimited⟩ | ⟨rfl, hmissing⟩ |
      ⟨m, body, hm, hle, hpage, hbody⟩
    · have hk : k < K := by
        by_contra hge
        exact hK k (not_lt.mp hge) s h hlimited
      rw [iterPages_rateLimited hp hlimited, if_pos (hwaits k s p h hasked hlimited)]
      exact ih (.again hasked hlimited) (by omega)
    · rw [iterPages, if_pos hp, hmissing]
      simp
    · have hslice : ∀ r ∈ (results.drop s).take m, NvdShaped env true r := fun r hr =>
        hshaped r (List.mem_of_mem_drop (List.mem_of_mem_take hr))
      rw [iterPages_page hp hm hle hpage hbody hslice]
      split_ifs with hlast
      · -- the last page
        rw [List.take_of_length_le (by rw [List.length_drop]; omega)]
      · have hmore : s + m < results.length := lt_of_le_of_ne hle hlast
        have hm : 0 < m := pos_of_more hm hmore
        rw [ih (.next hasked hm hmore hpage hbody) (by omega), ← List.filterMap_append,
          ← List.drop_drop, List.take_append_drop]

/-- A run that comes to its end makes a request. -/
theorem exists_succ_of_finished {fuel : ℕ}
    (h : (iterPages env py server fuel k s p).ending = .finished) : ∃ n, fuel = n + 1 := by
  cases fuel with
  | zero => cases h
  | succ n => exact ⟨n, rfl⟩

/-- It has waited for an answer that the limit is exceeded. -/
theorem finished_rateLimited (hp : p < maxPages) {fuel : ℕ} {h : Option Text}
    (hlimited : server k s = .rateLimited h)
    (hend : (iterPages env py server (fuel + 1) k s p).ending = .finished) :
    waits py h = true ∧ (iterPages env py server fuel (k + 1) s p).ending = .finished := by
  rw [iterPages_rateLimited hp hlimited] at hend
  split_ifs at hend with hwait
  exact ⟨hwait, hend⟩

/-- It has found a page to have the shape. -/
theorem finished_page (hp : p < maxPages) {fuel m : ℕ} {body : Json} (hm : 0 < m ∨ results = [])
    (hle : s + m ≤ results.length) (hpage : IsPage results s m body)
    (hbody : server k s = .body (some body))
    (hend : (iterPages env py server (fuel + 1) k s p).ending = .finished) :
    (∀ r ∈ (results.drop s).take m, NvdShaped env true r) ∧ (s + m < results.length →
      (iterPages env py server fuel (k + 1) (s + m) (p + 1)).ending = .finished) := by
  by_cases hshaped : ∀ r ∈ (results.drop s).take m, NvdShaped env true r
  · refine ⟨hshaped, fun hmore => ?_⟩
    rw [iterPages_page hp hm hle hpage hbody hshaped, if_neg hmore.ne] at hend
    exact hend
  · rw [iterPages_page_of_not_shaped hp hpage hbody hshaped] at hend
    cases hend

/-- **A run that comes to its end** has found all results that are left to have the shape. -/
theorem shaped_of_finished (hserver : StableServer server results)
    (hpages : ∀ k s p, PageAsked server results k s p → p < maxPages) {fuel : ℕ}
    (hasked : PageAsked server results k s p)
    (hend : (iterPages env py server fuel k s p).ending = .finished) :
    ∀ r ∈ results.drop s, NvdShaped env true r := by
  induction fuel generalizing k s p with
  | zero => cases hend
  | succ fuel ih =>
    have hp := hpages k s p hasked
    rcases hserver.answer hasked with ⟨h, hlimited⟩ | ⟨rfl, -⟩ | ⟨m, body, hm, hle, hpage, hbody⟩
    · exact ih (.again hasked hlimited) (finished_rateLimited hp hlimited hend).2
    · intro r hr
      rw [List.drop_nil] at hr
      cases hr
    · obtain ⟨hslice, hrest⟩ := finished_page hp hm hle hpage hbody hend
      intro r hr
      rw [← List.take_append_drop m (results.drop s), List.drop_drop] at hr
      rcases List.mem_append.mp hr with hr | hr
      · exact hslice r hr
      · -- what is left after the page comes with the next one
        have hmore : s + m < results.length := by
          by_contra hge
          rw [List.drop_eq_nil_of_le (not_lt.mp hge)] at hr
          cases hr
        have hm : 0 < m := pos_of_more hm hmore
        exact ih (.next hasked hm hmore hpage hbody) (hrest hmore) r hr

/-- It makes all requests that it takes, and comes to its end from each. -/
theorem exists_finished_of_asked
    (hpages : ∀ k s p, PageAsked server results k s p → p < maxPages) {n : ℕ}
    (hend : (iterPages env py server n 0 0 0).ending = .finished)
    (hasked : PageAsked server results k s p) :
    ∃ fuel, (iterPages env py server (fuel + 1) k s p).ending = .finished := by
  induction hasked with
  | first =>
    obtain ⟨fuel, rfl⟩ := exists_succ_of_finished hend
    exact ⟨fuel, hend⟩
  | again hasked hlimited ih =>
    obtain ⟨fuel, hfuel⟩ := ih
    have hnext := (finished_rateLimited (hpages _ _ _ hasked) hlimited hfuel).2
    obtain ⟨fuel', rfl⟩ := exists_succ_of_finished hnext
    exact ⟨fuel', hnext⟩
  | next hasked hm hmore hpage hbody ih =>
    obtain ⟨fuel, hfuel⟩ := ih
    have hnext :=
      (finished_page (hpages _ _ _ hasked) (.inl hm) hmore.le hpage hbody hfuel).2 hmore
    obtain ⟨fuel', rfl⟩ := exists_succ_of_finished hnext
    exact ⟨fuel', hnext⟩

/-- The results of the shape that cannot be read are those for which an expected exception is
raised. -/
theorem parsed_eq_none_iff {r : Json} (h : NvdShaped env true r) :
    parsed env r = none ↔ ∃ e, fromNvdCve env r = .error e ∧ e.caught true = true := by
  rw [parsed]
  cases hr : fromNvdCve env r with
  | ok record =>
    refine iff_of_false (fun hnone => by cases hnone) ?_
    rintro ⟨e, he, -⟩
    cases he
  | error e => exact iff_of_true rfl ⟨e, rfl, expects_true_fromNvdCve_iff.mpr h e hr⟩

end Run

/-- **A stable server is read completely exactly if** each of its results has the shape, and each of
its answers that the limit is exceeded can be waited for. -/
theorem pagesComplete_iff (env : NvdEnv) (py : PyText) {server : ℕ → ℕ → NvdAnswer}
    {results : List Json} (hserver : StableServer server results)
    (hpages : ∀ k s p, PageAsked server results k s p → p < maxPages) :
    PagesComplete env py server results ↔ (∀ r ∈ results, NvdShaped env true r) ∧
      ∀ k s p h, PageAsked server results k s p → server k s = .rateLimited h →
        waits py h = true := by
  constructor
  · rintro ⟨⟨n, hn⟩, -⟩
    have hend : (iterPages env py server n 0 0 0).ending = .finished := by
      rw [hn n (le_refl n)]
    refine ⟨shaped_of_finished hserver hpages .first hend, fun k s p h hasked hlimited => ?_⟩
    obtain ⟨fuel, hfuel⟩ := exists_finished_of_asked hpages hend hasked
    exact (finished_rateLimited (hpages k s p hasked) hlimited hfuel).1
  · rintro ⟨hshaped, hwaits⟩
    obtain ⟨K, hK⟩ := hserver.finitely
    refine ⟨⟨K + results.length + 1, fun fuel hfuel => ?_⟩, fun r hr =>
      parsed_eq_none_iff (hshaped r hr)⟩
    exact iterPages_of_shaped hserver hpages hshaped hwaits hK fuel .first (by omega)

/-- A server that is asked too soon at first, and then answers with one result at a time. -/
def oneByOne (results : List Json) : ℕ → ℕ → NvdAnswer
  | 0, _ => .rateLimited (some "1".toList)
  | _ + 1, s => .body (some (.obj [("totalResults", .num results.length),
    ("vulnerabilities", .arr ((results.drop s).take 1))]))

theorem stableServer_oneByOne {results : List Json} (h : results ≠ []) :
    StableServer (oneByOne results) results where
  answers k s hs := by
    cases k with
    | zero => exact .inl ⟨_, rfl⟩
    | succ k => exact .inr ⟨1, _, Nat.one_pos, hs, ⟨rfl, rfl⟩, rfl⟩
  empty hnil := absurd hnil h
  finitely := ⟨1, fun k hk s h hlimited => by
    obtain ⟨k, rfl⟩ := Nat.exists_eq_add_of_le' hk
    cases hlimited⟩

theorem asked_oneByOne_lt {results : List Json} (h : results.length ≤ maxPages)
    (hnil : results ≠ []) {k s p : ℕ} (hasked : PageAsked (oneByOne results) results k s p) :
    p < maxPages := by
  have hle := hasked.pages_le
  have hpos := List.length_pos_iff.mpr hnil
  rcases hasked.lt_or with hs | rfl <;> omega

theorem pagesComplete_two :
    PagesComplete .sample .ascii (oneByOne [.ofCve "CVE-2024-0001" [], .ofCve "CVE-2024-0002" []])
      [.ofCve "CVE-2024-0001" [], .ofCve "CVE-2024-0002" []] := by
  have hshaped : ∀ cveId, NvdShaped .sample true (.ofCve cveId []) := fun cveId =>
    expects_true_fromNvdCve_iff.mp fun e he => by cases he
  refine (pagesComplete_iff .sample .ascii (stableServer_oneByOne (List.cons_ne_nil _ _))
    fun k s p => asked_oneByOne_lt (by decide) (List.cons_ne_nil _ _)).mpr ⟨?_, ?_⟩
  · exact List.forall_mem_cons.mpr
      ⟨hshaped _, List.forall_mem_singleton.mpr (hshaped _)⟩
  · intro k s p h _ hlimited
    cases k with
    | zero =>
      obtain rfl := NvdAnswer.rateLimited.inj hlimited
      decide +kernel
    | succ k => cases hlimited

/-- **A null ends the pages**: the first of two results has no metrics but a null, and the second
one is never asked for. -/
theorem not_pagesComplete_null :
    ∃ env py server results, StableServer server results ∧
      (∀ k s p, PageAsked server results k s p → p < maxPages) ∧
      ¬PagesComplete env py server results := by
  let results : List Json :=
    [.ofCve "CVE-2024-0001" [("metrics", .null)], .ofCve "CVE-2024-0002" []]
  have hnil : results ≠ [] := List.cons_ne_nil _ _
  refine ⟨.sample, .ascii, oneByOne results, results, stableServer_oneByOne hnil,
    fun k s p => asked_oneByOne_lt (by decide) hnil, fun h => ?_⟩
  obtain ⟨n, hn⟩ := h.yields
  have hwait : waits .ascii (some "1".toList) = true := by decide +kernel
  have hraised : (iterPages .sample .ascii (oneByOne results) (n + 2) 0 0 0).ending = .raised := by
    rw [iterPages_rateLimited (by decide) rfl, if_pos hwait]
    rfl
  rw [hn (n + 2) (by omega)] at hraised
  cases hraised

end CveManagement
