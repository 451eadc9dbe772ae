import CveManagement.Query.OpenCve

/-!
# Polling OpenCVE

`OpenCveClient._poll_one` of `app/query/opencve_client.py` asks for the CVEs of a vendor and a
product page by page, and inserts the rows of each page. A body is an object with the items under
`results`, or the bare list of them; which of the two it is decides a conditional expression. It
binds weaker than the `or` before it, so that the items of an object are never read, and `.get` is
called on a list: nothing is ever submitted, whatever the server answers
(`CveManagement.submitted_pollOne`).
-/

namespace CveManagement

/-! ### The loop -/

/-- What OpenCVE answers to a request. -/
inductive OpenCveAnswer
  /-- No answer: an `httpx.RequestError`. -/
  | requestError
  /-- A response, and its JSON if it has one. -/
  | response (statusCode : ℕ) (body : Option Json)

/-- The exceptions of `_poll_one`. -/
inductive OpenCveError
  | httpStatusError
  | badJson
  | python (e : PyError)
  | database (text : String)

/-- What a poll meets with: the parsers, the time at which a page is read, the answer to the request
for it, and what the database does with an `executemany`. -/
structure OpenCveEnv where
  parse : PyParse
  clock : ℕ → Instant
  answer : ℕ → OpenCveAnswer
  executemany : List OpenCveRow → Except String Unit

/-- **What a poll leaves behind**: the rows it has submitted for insertion, by the page, and the
number it returns or the exception. -/
structure PollRun where
  submitted : List (List OpenCveRow)
  result : Except OpenCveError ℕ

namespace OpenCve

/-- `_PAGE_SIZE`. -/
def pageSize : ℕ := 20

/-- `_MAX_PAGES`. -/
def maxPages : ℕ := 50

end OpenCve

/-- `body.get("results") or body if isinstance(body, list) else []`. -/
def openCveResults (body : Json) : Except PyError Json :=
  match body with
  | .arr _ => do return (← body.get "results").or body
  | _ => .ok (.arr [])

/-- `_parse_cves`. -/
def parseCves (py : PyParse) (now : Instant) (results : Json) : Except PyError (List OpenCveRow) :=
  do
    let rows ← (← results.iter).mapM (openCveRow py now)
    return rows.filterMap id

/-- The two conditions to stop after a page; `len` fails on the values on which a loop does. -/
def isLastPage (body results : Json) : Except PyError Bool :=
  let noNext : Bool := match body with
    | .obj members => !((Json.member? "next" members).getD .null).truthy
    | _ => false
  if noNext then .ok true
  else do return decide ((← results.iter).length < OpenCve.pageSize)

/-- `executemany` of `_UPSERT_CVE_SQL`, if there are rows. -/
def submitRows (env : OpenCveEnv) (rows : List OpenCveRow) : Except String Unit :=
  if rows.isEmpty then .ok () else env.executemany rows

/-- The loop of `_poll_one`, with the number of pages that it still may ask for and the next one. -/
def pollFrom (env : OpenCveEnv) : ℕ → ℕ → PollRun
  | 0, _ => ⟨[], .ok 0⟩
  | pages + 1, page =>
    match env.answer page with
    | .requestError => ⟨[], .ok 0⟩
    | .response statusCode body =>
      -- not authorized, not found, rate limited
      if statusCode ∈ [401, 403, 404, 429] then ⟨[], .ok 0⟩
      -- `raise_for_status`
      else if statusCode < 200 ∨ 300 ≤ statusCode then ⟨[], .error .httpStatusError⟩
      else match body with
        | none => ⟨[], .error .badJson⟩
        | some body =>
          match openCveResults body with
          | .error e => ⟨[], .error (.python e)⟩
          | .ok results =>
            if !results.truthy then ⟨[], .ok 0⟩
            else match parseCves env.parse (env.clock page) results with
              | .error e => ⟨[], .error (.python e)⟩
              | .ok rows =>
                let submitted := if rows.isEmpty then [] else [rows]
                match submitRows env rows with
                | .error e => ⟨submitted, .error (.database e)⟩
                | .ok () =>
                  match isLastPage body results with
                  | .error e => ⟨submitted, .error (.python e)⟩
                  | .ok true => ⟨submitted, .ok rows.length⟩
                  | .ok false =>
                    let rest := pollFrom env pages (page + 1)
                    ⟨submitted ++ rest.submitted, rest.result.map (rows.length + ·)⟩

/-- **`_poll_one`.** -/
def pollOne (env : OpenCveEnv) : PollRun := pollFrom env OpenCve.maxPages 1

/-! ### Feeds -/

/-- The two shapes of a body. -/
inductive FeedShape
  | wrapped
  | bare
  deriving DecidableEq

/-- **A feed**: its pages, all but the last full. -/
structure OpenCveFeed where
  shape : FeedShape
  pages : List (List Json)
  some_page : pages ≠ []
  nonempty : ∀ page ∈ pages, page ≠ []
  full : ∀ page ∈ pages.dropLast, page.length = OpenCve.pageSize
  atMost : pages.length ≤ OpenCve.maxPages

/-- A body with these items; `more` says that there is another page. -/
def IsFeedBody (items : List Json) (more : Bool) (body : Json) : FeedShape → Prop
  | .wrapped => (∃ members, body = .obj members) ∧ body.get "results" = .ok (.arr items) ∧
      ((∃ link, link ≠ "" ∧ body.get "next" = .ok (.str link)) ∨
        more = false ∧ body.get "next" = .ok .null)
  | .bare => body = .arr items

/-- The server has the feed: it answers each page with its body. -/
def OpenCveFeed.ServedBy (feed : OpenCveFeed) (answer : ℕ → OpenCveAnswer) : Prop :=
  ∀ i items, feed.pages[i]? = some items → ∃ statusCode body, 200 ≤ statusCode ∧
    statusCode < 300 ∧ answer (i + 1) = .response statusCode (some body) ∧
      IsFeedBody items (decide (i + 1 < feed.pages.length)) body feed.shape

/-- An item has a CVE identifier. -/
def hasCveId : Json → Bool
  | .obj item =>
    match ((Json.member? "cve_id" item).getD .null).or ((Json.member? "id" item).getD .null) with
    | .str s => Text.startsWith s.toList "CVE-".toList
    | _ => false
  | _ => false

/-- **A feed is polled completely**: every item with a CVE identifier is submitted, once, and
nothing is raised. -/
structure PolledCompletely (env : OpenCveEnv) (feed : OpenCveFeed) : Prop where
  returns : ∃ inserted, (pollOne env).result = .ok inserted
  submits : ((pollOne env).submitted.flatten.map OpenCveRow.rawPayload).Perm
    (feed.pages.flatten.filter hasCveId)

/-! ### What a poll does -/

section Poll

variable {env : OpenCveEnv} {feed : OpenCveFeed}

/-- The expression for the items of a body: it raises on a list, and any other value has none. -/
theorem openCveResults_cases (body : Json) :
    (∃ items, body = .arr items ∧ openCveResults body = .error .attributeError) ∨
      (∀ items, body ≠ .arr items) ∧ openCveResults body = .ok (.arr []) := by
  cases body with
  | arr items => exact .inl ⟨items, rfl, rfl⟩
  | null | bool b | num q | str s | obj members => exact .inr ⟨fun _ h => (by cases h), rfl⟩

/-- **Nothing is ever submitted**, whatever the server answers. -/
theorem submitted_pollOne (env : OpenCveEnv) : (pollOne env).submitted = [] := by
  rw [pollOne, OpenCve.maxPages, pollFrom]
  cases env.answer 1 with
  | requestError => rfl
  | response statusCode body =>
    dsimp only
    split_ifs
    · rfl
    · rfl
    · cases body with
      | none => rfl
      | some body =>
        dsimp only
        rcases openCveResults_cases body with ⟨items, -, hraises⟩ | ⟨-, hnone⟩
        · rw [hraises]
        · rw [hnone]
          rfl

/-- **The first page ends the poll**: quietly if its body is an object, and with an exception if it
is a list. -/
theorem result_pollOne (h : feed.ServedBy env.answer) :
    (∃ inserted, (pollOne env).result = .ok inserted) ↔ feed.shape = .wrapped := by
  obtain ⟨items, hitems⟩ : ∃ items, feed.pages[0]? = some items :=
    ⟨_, List.getElem?_eq_getElem (List.length_pos_iff.mpr feed.some_page)⟩
  obtain ⟨statusCode, body, hlow, hhigh, hanswer, hbody⟩ := h 0 items hitems
  rw [Nat.zero_add] at hanswer
  have hcode : statusCode ∉ [401, 403, 404, 429] := by
    simp only [List.mem_cons, List.not_mem_nil, or_false, not_or]
    omega
  rw [pollOne, OpenCve.maxPages, pollFrom, hanswer]
  dsimp only
  rw [if_neg hcode, if_neg (by omega)]
  cases hshape : feed.shape with
  | wrapped =>
    rw [hshape] at hbody
    obtain ⟨⟨members, rfl⟩, -⟩ := hbody
    exact iff_of_true ⟨0, rfl⟩ rfl
  | bare =>
    rw [hshape] at hbody
    obtain rfl : body = .arr items := hbody
    refine iff_of_false ?_ fun hno => by cases hno
    rintro ⟨_, hok⟩
    cases hok

/-- **A feed is polled completely exactly if** its bodies are objects, and there is no CVE on it. -/
theorem polledCompletely_iff (h : feed.ServedBy env.answer) :
    PolledCompletely env feed ↔
      feed.shape = .wrapped ∧ ∀ page ∈ feed.pages, ∀ item ∈ page, hasCveId item = false := by
  have hnothing : feed.pages.flatten.filter hasCveId = [] ↔
      ∀ page ∈ feed.pages, ∀ item ∈ page, hasCveId item = false := by
    rw [List.filter_eq_nil_iff]
    simp only [Bool.not_eq_true]
    exact List.forall_mem_flatten
  constructor
  · rintro ⟨hreturns, hsubmits⟩
    rw [submitted_pollOne, List.flatten_nil, List.map_nil, List.nil_perm] at hsubmits
    exact ⟨(result_pollOne h).mp hreturns, hnothing.mp hsubmits⟩
  · rintro ⟨hshape, hnone⟩
    refine ⟨(result_pollOne h).mpr hshape, ?_⟩
    rw [submitted_pollOne, hnothing.mpr hnone]
    exact List.Perm.nil

end Poll

/-- A feed of one page with one item, in an object or not. -/
def OpenCveFeed.ofItem (shape : FeedShape) (item : Json) : OpenCveFeed where
  shape := shape
  pages := [[item]]
  some_page := List.cons_ne_nil _ _
  nonempty page hpage := by
    obtain rfl := List.mem_singleton.mp hpage
    exact List.cons_ne_nil _ _
  full page hpage := by cases hpage
  atMost := Nat.le_of_ble_eq_true rfl

/-- A server that answers every request with the same body, and a database that takes all rows. -/
def OpenCveEnv.ofBody (body : Json) : OpenCveEnv where
  parse := ⟨fun _ => none, fun _ => none⟩
  clock _ := 0
  answer _ := .response 200 (some body)
  executemany _ := .ok ()

theorem servedBy_ofItem (item : Json) :
    (OpenCveFeed.ofItem .wrapped item).ServedBy
      (OpenCveEnv.ofBody (.obj [("results", .arr [item]), ("next", .null)])).answer := by
  intro i items hitems
  cases i with
  | zero =>
    obtain rfl := Option.some.inj hitems
    exact ⟨200, _, le_refl _, by decide, rfl, ⟨_, rfl⟩, rfl, .inr ⟨rfl, rfl⟩⟩
  | succ i => cases hitems

theorem polledCompletely_other :
    PolledCompletely
      (.ofBody (.obj [("results", .arr [.obj [("id", .str "GHSA-1")]]), ("next", .null)]))
      (.ofItem .wrapped (.obj [("id", .str "GHSA-1")])) := by
  refine (polledCompletely_iff (servedBy_ofItem _)).mpr ⟨rfl, fun page hpage item hitem => ?_⟩
  obtain rfl := List.mem_singleton.mp hpage
  obtain rfl := List.mem_singleton.mp hitem
  decide

/-- **A CVE is not submitted**: one page with one item, as the client expects it. -/
theorem not_polledCompletely_cve :
    ∃ env feed, OpenCveFeed.ServedBy feed (OpenCveEnv.answer env) ∧ feed.shape = .wrapped ∧
      ¬PolledCompletely env feed := by
  refine ⟨_, _, servedBy_ofItem (.obj [("cve_id", .str "CVE-2024-0001")]), rfl, fun h => ?_⟩
  have hsubmits := h.submits.length_eq
  rw [submitted_pollOne] at hsubmits
  revert hsubmits
  decide

end CveManagement
