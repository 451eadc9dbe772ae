import CveManagement.Ingestion.Stubs
import CveManagement.Library.Expiring
import CveManagement.Query.CirclStore
import CveManagement.Sync.Jobs
import Mathlib

/-!
# The cache of CIRCL's answers

Three functions keep what CIRCL has answered in Redis for an hour: `CirclClient.fetch_and_store`
of `app/query/circl_client.py` the ids of a page's CVEs, and `circl_search` and `circl_products`
of `app/api/routers/circl_router.py` the items, and the names of a vendor's products. Their keys
are texts that begin with `circl:`, and each function takes what it finds under its key for what
it would have written there itself.

What CIRCL answers is given with the call; the rest of the application, which works on the same
database, can do anything to it between two calls (`CveManagement.CirclEvent.others`).
-/

namespace CveManagement

/-- The functions that share the cache. -/
inductive CirclFunction
  | fetchAndStore
  | circlSearch
  | circlProducts
  deriving DecidableEq, Repr

/-- **A value of the cache**, by what it lists. -/
inductive CirclValue
  /-- Ids of CVEs. -/
  | ids (cveIds : List String)
  /-- Items of CIRCL. -/
  | items (allItems : List Json)
  /-- Names of products. -/
  | names (products : List String)

namespace CirclValue

/-- The function that writes values of this type. -/
def writtenBy : CirclValue → CirclFunction
  | .ids _ => .fetchAndStore
  | .items _ => .circlSearch
  | .names _ => .circlProducts

/-- What `json.loads` makes of the value, which says nothing of its type. -/
def elements : CirclValue → List Json
  | .ids cveIds => cveIds.map .str
  | .items allItems => allItems
  | .names products => products.map .str

end CirclValue

/-- What a call raises. -/
inductive CirclError
  /-- `_paginate` raises: a status that is no success, or a body that is no JSON. -/
  | http
  | python (e : PyError)
  /-- A value that is none of the column, or that the column does not take. -/
  | dataError
  | notNullViolation
  | foreignKeyViolation
  deriving DecidableEq

/-- A call that has found its key: who has read which value, and what it has raised. -/
structure CirclHit where
  reader : CirclFunction
  value : CirclValue
  raised : Option CirclError

/-- The database and the cache; who has written a key last, and the calls that have found
theirs. -/
structure CirclState where
  now : Instant
  system : System
  redis : Expiring.Store Text CirclValue Instant
  writer : Text → Option CirclFunction
  hits : List CirclHit

/-- `_CACHE_TTL`. -/
def circlCacheTtl : Instant := seconds 3600

/-- `f"circl:{vendor}:{product}"`; for the products of a vendor it is
`f"circl:products:{vendor}"`. -/
def circlCacheKey (vendor product : Text) : Text :=
  "circl:".toList ++ vendor ++ ":".toList ++ product

namespace CirclState

variable (s : CirclState)

/-- `redis.get`; a text of JSON is not empty, so what is there counts as found. -/
def cached (key : Text) : Option CirclValue := s.redis.get? s.now key

/-- `redis.setex`. -/
def setex (key : Text) (value : CirclValue) : CirclState :=
  { s with
    redis := s.redis.set key value (s.now + circlCacheTtl)
    writer := Function.update s.writer key (some value.writtenBy) }

/-- The call has found its key. -/
def hit (reader : CirclFunction) (value : CirclValue) (raised : Option CirclError) : CirclState :=
  { s with hits := s.hits ++ [⟨reader, value, raised⟩] }

/-- The state without the key. -/
def forget (key : Text) : CirclState := { s with redis := s.redis.del key }

end CirclState

/-! ### `CirclClient` -/

/-- A severity as the column has it. -/
def severityOfColumn : Option String → Option Severity
  | some "CRITICAL" => some .critical
  | some "HIGH" => some .high
  | some "MEDIUM" => some .medium
  | some "LOW" => some .low
  | _ => none

/-- The row of `cves` that `_UPSERT_CVE_SQL` inserts; `none` if the database refuses it. -/
def CirclRow.toMirror (r : CirclRow) : Option MirrorRow :=
  (numericColumn r.cvssV2Score).map fun v2 =>
    { cveId := String.ofList r.cveId, rawPayload := r.rawPayload, cvssV3Score := none,
      cvssV2Score := v2, severity := severityOfColumn r.severity, epssScore := none,
      isKev := false, publishedAt := r.publishedAt, hasPublicPoc := none,
      hasNucleiTemplate := none }

/-- A value where a text is to go into `cve_id`. -/
def cveIdArgument : Json → Except CirclError String
  | .str s => .ok s
  | .null => .error .notNullViolation
  | _ => .error .dataError

namespace CirclClient

/-- `_upsert_findings_only`. -/
def upsertFindingsOnly (now : Instant) (productId : ℕ) (cveIds : List Json) (s : System) :
    Except CirclError System :=
  if cveIds.isEmpty then .ok s
  else do
    let rows ← cveIds.mapM cveIdArgument
    if rows.all fun cveId => (s.cves.get? cveId).isSome then
      pure (s.storeCircl now productId (.cached rows))
    else .error .foreignKeyViolation

/-- `_store`: the number of its rows, which it returns, and the database after it. -/
def store (py : PyParse) (now : Instant) (productId : ℕ) (items : List Json) (s : System) :
    Except CirclError (ℕ × System) := do
  let cveRows ← (circlRows py now items).mapError .python
  if cveRows.isEmpty then pure (0, s)
  else match cveRows.mapM CirclRow.toMirror with
    | some rows => pure (cveRows.length, s.storeCircl now productId (.fetched rows))
    | none => .error .dataError

/-- The id of an item that is cached; with any other shape of an item or of an id that counts as
true, `_store` has raised before. -/
def cachedId (item : Json) : Option String :=
  match item.get "id" with
  | .ok (.str id) => if id = "" then none else some id
  | _ => none

/-- `[i.get("id") for i in items if i.get("id")]`. -/
def cachedIds (items : List Json) : List String := items.filterMap cachedId

/-- **`fetch_and_store`**: what it returns or raises, and the state after it. `pages` is what
`_paginate` returns or raises. -/
def fetchAndStore (py : PyParse) (productId : ℕ) (normalizedCpe : Text)
    (pages : Except CirclError (List Json)) (s : CirclState) : Except CirclError ℕ × CirclState :=
  match parseCpeVendorProduct normalizedCpe with
  | none => (.ok 0, s)
  | some (vendor, product) =>
    let key := circlCacheKey vendor product
    match s.cached key with
    | some value =>
      match upsertFindingsOnly s.now productId value.elements s.system with
      | .ok system => (.ok 0, { s with system }.hit .fetchAndStore value none)
      | .error e => (.error e, s.hit .fetchAndStore value (some e))
    | none =>
      match pages with
      | .error e => (.error e, s)
      | .ok items =>
        if items.isEmpty then (.ok 0, s)
        else match store py s.now productId items s.system with
          | .ok (inserted, system) =>
            (.ok inserted, { s with system }.setex key (.ids (cachedIds items)))
          | .error e => (.error e, s)

end CirclClient

/-! ### The routes -/

/-- `.get(key, default)`. -/
def Json.getOr (j : Json) (key : String) (fallback : Json) : Except PyError Json :=
  match j with
  | .obj members => .ok ((Json.member? key members).getD fallback)
  | _ => .error .attributeError

/-- `_parse_dt`. -/
def circlParseDt (py : PyParse) (s : Json) : Except PyError (Option Instant) :=
  if s.truthy then do
    let text ← s.text
    pure (py.fromisoformat (replaceZulu text))
  else pure none

/-- What `_normalise_item` returns, without the fields that are the same for all items and the
score that is computed from the others. -/
structure NormalisedItem where
  cveId : Json
  description : Json
  severity : Option String
  cvssV2Score : Option PyFloat
  publishedAt : Option Instant

/-- `_normalise_item`. -/
def normaliseItem (py : PyParse) (item : Json) : Except PyError NormalisedItem := do
  let cvss := (← item.get "cvss").or (← item.get "cvss3")
  let cvssFloat ← py.scoreOf cvss
  let pub ← circlParseDt py (← item.get "Published")
  pure
    { cveId := ← item.getOr "id" (.str ""), description := ← item.getOr "summary" (.str ""),
      severity := circlSeverity cvssFloat, cvssV2Score := cvssFloat, publishedAt := pub }

/-- `[_normalise_item(i) for i in all_items if i.get("id")]`, one item. -/
def normaliseListed (py : PyParse) (item : Json) : Except PyError (Option NormalisedItem) := do
  if (← item.get "id").truthy then some <$> normaliseItem py item else pure none

/-- `normalised` of `circl_search`, before the filters. -/
def normalised (py : PyParse) (allItems : List Json) : Except PyError (List NormalisedItem) := do
  let listed ← allItems.mapM (normaliseListed py)
  pure (listed.filterMap id)

/-- The exception of a call. -/
def raisedBy {α : Type} : Except PyError α → Option CirclError
  | .ok _ => none
  | .error e => some (.python e)

/-- **`circl_search`**: its items or what it raises, and the state after it. `fetched` is what
`_fetch_all_pages` returns, `none` if it raises. -/
def circlSearch (py : PyParse) (text : PyText) (vendor product : Text)
    (fetched : Option (List Json)) (s : CirclState) :
    Except PyError (List NormalisedItem) × CirclState :=
  let key := circlCacheKey (text.lower vendor) (text.lower product)
  match s.cached key with
  | some value =>
    let answer := normalised py value.elements
    (answer, s.hit .circlSearch value (raisedBy answer))
  | none =>
    -- a failure is cached as an answer without items
    let allItems := fetched.getD []
    (normalised py allItems, s.setex key (.items allItems))

/-- `sorted(set(data))`. -/
def sortedNames (names : List String) : List String := names.dedup.mergeSort

/-- **`circl_products`**: what it returns, and the state after it. `browsed` are the names of a
list that CIRCL sends, `none` if anything else comes of the request. -/
def circlProducts (text : PyText) (vendor : Text) (browsed : Option (List String))
    (s : CirclState) : List Json × CirclState :=
  let key := circlCacheKey "products".toList (text.lower vendor)
  match s.cached key with
  | some value => (value.elements, s.hit .circlProducts value none)
  | none =>
    let products := sortedNames (browsed.getD [])
    (products.map .str, s.setex key (.names products))

/-! ### Sequences of calls -/

/-- What happens. -/
inductive CirclEvent
  /-- Time passes. -/
  | tick (elapsed : ℕ)
  /-- The rest of the application works on the database. -/
  | others (system : System)
  | fetchAndStore (productId : ℕ) (normalizedCpe : Text) (pages : Except CirclError (List Json))
  | circlSearch (vendor product : Text) (fetched : Option (List Json))
  | circlProducts (vendor : Text) (browsed : Option (List String))

namespace CirclState

/-- An empty cache. -/
def start (now : Instant) (system : System) : CirclState := ⟨now, system, .empty, fun _ => none, []⟩

/-- **One event.** -/
def step (py : PyParse) (text : PyText) (s : CirclState) : CirclEvent → CirclState
  | .tick elapsed => { s with now := s.now + elapsed }
  | .others system => { s with system }
  | .fetchAndStore productId normalizedCpe pages =>
    (CirclClient.fetchAndStore py productId normalizedCpe pages s).2
  | .circlSearch vendor product fetched =>
    (CveManagement.circlSearch py text vendor product fetched s).2
  | .circlProducts vendor browsed => (CveManagement.circlProducts text vendor browsed s).2

end CirclState

end CveManagement
