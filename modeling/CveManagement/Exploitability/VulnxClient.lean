import CveManagement.Library.Slices
import CveManagement.Payload.Python
import CveManagement.Priority.CallSites
import Mathlib

/-!
# The client of vulnx

`app/ingestion/vulnx_client.py`. `fetch_intel` asks about its ids in batches, each of which the
daily counter has to let through, and returns what vulnx has answered. It stops at the first batch
that the counter refuses, and goes on after a batch that failed: an `HTTPError` or a `ValueError`
ends the batch and not the call. So a call may return with an answer to some of the batches, or to
none, and nothing in its result says which of them were sent.
-/

namespace CveManagement

/-! ### Ids -/

/-- **The operations of `str`**, with the other case. -/
structure PyCase extends PyText where
  /-- `str.upper`. -/
  upper : Text → Text
  upper_ascii : ∀ s, (∀ c ∈ s, c.toNat < 128) → upper s = s.map Char.toUpper

namespace PyCase

/-- The operations that know no character but ASCII. -/
def ascii : PyCase := ⟨.ascii, List.map Char.toUpper, fun _ _ => rfl⟩

/-- `cid.strip().upper()`. -/
def normalize (py : PyCase) (cid : String) : String :=
  String.ofList (py.upper (py.strip cid.toList))

/-- An id is added to those seen, unless it is blank or one of them. -/
def collect (py : PyCase) (seen : List String) (cid : String) : List String :=
  let up := py.normalize cid
  if up ≠ "" ∧ up ∉ seen then seen ++ [up] else seen

/-- The ids as `fetch_intel` normalizes them. -/
def normalized (py : PyCase) (cveIds : List String) : List String := cveIds.foldl py.collect []

end PyCase

/-! ### The daily counter -/

/-- `_DailyCounter`; a day is counted from some first one. -/
structure DailyCounter where
  limit : ℤ
  count : ℕ
  day : ℤ

namespace DailyCounter

/-- The counter on a day. -/
def rollover (c : DailyCounter) (today : ℤ) : DailyCounter :=
  if today ≠ c.day then { c with day := today, count := 0 } else c

/-- `consume`. -/
def consume (c : DailyCounter) (today : ℤ) (n : ℕ) : Bool × DailyCounter :=
  let c := c.rollover today
  if c.limit < c.count + n then (false, c) else (true, { c with count := c.count + n })

end DailyCounter

/-! ### Answers -/

/-- `IntelRecord`. -/
structure FetchedIntel extends IntelRecord where
  cveId : String
  pocUrls : List String
  templatePaths : List String
  references : List String
  fetchedAt : Instant

/-- The mapping that `fetch_intel` returns. -/
abbrev Intel := String → Option FetchedIntel

/-- A member of an object, `None` if it is not there. -/
def Json.field (members : List (String × Json)) (key : String) : Json :=
  (Json.member? key members).getD .null

/-- What `_coerce_str_list` takes from an element of a list. -/
def coerceStr : Json → Option String
  | .str s => if s = "" then none else some s
  | .obj v =>
    match ((Json.field v "url").or (Json.field v "path")).or (Json.field v "href") with
    | .str s => if s = "" then none else some s
    | _ => none
  | _ => none

/-- `_coerce_str_list`. -/
def coerceStrList : List Json → List String
  | [] => []
  | c :: candidates =>
    if !c.truthy then coerceStrList candidates
    else match c with
      | .str s => [s]
      | .arr items =>
        let out := items.filterMap coerceStr
        if out.isEmpty then coerceStrList candidates else out
      | _ => coerceStrList candidates

/-- The objects among the elements of a list. -/
def Json.objects (items : List Json) : List (List (String × Json)) :=
  items.filterMap fun
    | .obj members => some members
    | _ => none

/-- The items of a payload. -/
def payloadItems (py : PyCase) : Json → List (List (String × Json))
  | .arr items => Json.objects items
  | .obj body =>
    match Json.field body "data", Json.field body "results" with
    | .arr items, _ => Json.objects items
    | _, .arr items => Json.objects items
    | _, _ => body.filterMap fun
      | (key, .obj value) =>
        if (py.upper key.toList).startsWith "CVE-".toList then
          -- `setdefault`
          some (if (Json.member? "cve_id" value).isSome then value
            else value ++ [("cve_id", .str key)])
        else none
      | _ => none
  | _ => []

/-- The record of an item, if it names a CVE. -/
def parseItem (py : PyCase) (now : Instant) (item : List (String × Json)) :
    Except PyError (Option FetchedIntel) := do
  let named := ((Json.field item "cve_id").or (Json.field item "cve")).or (Json.field item "id")
  let text ← (named.or (.str "")).text
  let cveId := py.upper (py.strip text)
  if !cveId.startsWith "CVE-".toList then return none
  let pocUrls := coerceStrList
    [Json.field item "poc_urls", Json.field item "poc", Json.field item "exploits"]
  let templates := coerceStrList
    [Json.field item "nuclei_templates", Json.field item "templates", Json.field item "nuclei"]
  return some
    { cveId := String.ofList cveId
      hasPublicPoc := !pocUrls.isEmpty
      hasNucleiTemplate := !templates.isEmpty
      pocUrls := pocUrls
      templatePaths := templates
      references := coerceStrList [Json.field item "references"]
      fetchedAt := now }

/-- The record of the item with a number is put into the mapping. -/
def parseInto (py : PyCase) (clock : ℕ → Instant) (out : Intel)
    (item : List (String × Json) × ℕ) : Except PyError Intel := do
  match ← parseItem py (clock item.2) item.1 with
  | none => return out
  | some r => return Function.update out r.cveId (some r)

/-- `_parse_batch_payload`, with the readings of the clock for its records. -/
def parseBatchPayload (py : PyCase) (clock : ℕ → Instant) (body : Json) : Except PyError Intel :=
  (payloadItems py body).zipIdx.foldlM (parseInto py clock) fun _ => none

/-! ### Batches -/

/-- **What becomes of the request of a batch.** -/
inductive Exchange
  /-- An `HTTPError` before the body has left. -/
  | unsent
  /-- An `HTTPError` after that. -/
  | unanswered
  /-- The body is not let out, with a `RuntimeError`. -/
  | opsecViolation (reason : String)
  /-- A response, and its JSON if it has one. -/
  | response (statusCode : ℕ) (body : Option Json)

/-- The body leaves for vulnx. -/
def Exchange.sends : Exchange → Bool
  | .unsent | .opsecViolation _ => false
  | .unanswered | .response .. => true

/-- What a batch meets with. -/
structure BatchEnv where
  /-- What other calls take from the daily counter before it: a day and a number each. -/
  meanwhile : List (ℤ × ℕ)
  today : ℤ
  exchange : Exchange
  clock : ℕ → Instant

/-- The exceptions of `_fetch_batch`. -/
inductive FetchError
  | httpError
  | python (e : PyError)
  | opsecViolation (reason : String)

namespace FetchError

/-- `fetch_intel` catches `HTTPError` and `ValueError`. -/
def caught : FetchError → Bool
  | .httpError | .python .valueError => true
  | _ => false

/-- A text for the log. -/
def text : FetchError → String
  | .httpError => "HTTPError"
  | .python .attributeError => "AttributeError"
  | .python .typeError => "TypeError"
  | .python .valueError => "ValueError"
  | .python .overflowError => "OverflowError"
  | .opsecViolation reason => "OpSec violation in provider=vulnx: " ++ reason

end FetchError

/-- `_fetch_batch`. -/
def fetchBatch (py : PyCase) (env : BatchEnv) : Except FetchError Intel :=
  match env.exchange with
  | .unsent | .unanswered => .error .httpError
  | .opsecViolation reason => .error (.opsecViolation reason)
  | .response statusCode body =>
    -- rate limited
    if statusCode = 429 then .error .httpError
    -- not authorized
    else if statusCode = 401 ∨ statusCode = 403 then .error .httpError
    -- `raise_for_status`
    else if statusCode < 200 ∨ 300 ≤ statusCode then .error .httpError
    else match body with
      | none => .error (.python .valueError)
      | some body => (parseBatchPayload py env.clock body).mapError .python

/-- What the daily counter says to a batch. -/
def BatchEnv.consume (env : BatchEnv) (daily : DailyCounter) (n : ℕ) : Bool × DailyCounter :=
  (env.meanwhile.foldl (fun c other => (c.consume other.1 other.2).2) daily).consume env.today n

/-- **What a call leaves behind**: the daily counter, the batches that were sent, and the mapping
or the exception. -/
structure FetchRun where
  daily : DailyCounter
  sent : List (List String)
  result : Except FetchError Intel

/-- The loop of `fetch_intel`, from the batch with a number on. -/
def fetchBatches (py : PyCase) (env : ℕ → BatchEnv) :
    ℕ → List (List String) → DailyCounter → Intel → FetchRun
  | _, [], daily, results => ⟨daily, [], .ok results⟩
  | i, batch :: batches, daily, results =>
    match (env i).consume daily batch.length with
    | (false, daily) => ⟨daily, [], .ok results⟩
    | (true, daily) =>
      let sent := if (env i).exchange.sends then [batch] else []
      match fetchBatch py (env i) with
      | .ok intel =>
        let rest :=
          fetchBatches py env (i + 1) batches daily fun cid => (intel cid).or (results cid)
        { rest with sent := sent ++ rest.sent }
      | .error e =>
        if e.caught then
          let rest := fetchBatches py env (i + 1) batches daily results
          { rest with sent := sent ++ rest.sent }
        else ⟨daily, sent, .error e⟩

/-- The batches of a call, with `settings.vulnx_batch_size`. -/
def PyCase.batches (py : PyCase) (batchSize : ℤ) (cveIds : List String) : List (List String) :=
  (py.normalized cveIds).slices (max 1 batchSize).toNat

/-- **`fetch_intel`.** -/
def fetchIntel (py : PyCase) (batchSize : ℤ) (env : ℕ → BatchEnv) (daily : DailyCounter)
    (cveIds : List String) : FetchRun :=
  if cveIds = [] then ⟨daily, [], .ok fun _ => none⟩
  else fetchBatches py env 0 (py.batches batchSize cveIds) daily fun _ => none

end CveManagement
