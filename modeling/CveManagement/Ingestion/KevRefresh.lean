import CveManagement.Governance.Schema
import CveManagement.Library.Projection
import CveManagement.Library.ReadThrough
import CveManagement.Sync.Jobs

/-!
# The refresh of the KEV flags

`KevClient.get_catalog` of `app/ingestion/kev_client.py` returns the catalog of CISA out of Redis,
where it is kept for six hours, or fetches it and keeps it: a reader in the sense of `ReadThrough`,
of one key. `run_kev_refresh` of `app/ingestion/enrichment.py` then selects those CVEs of the
catalog that are in the mirror, and flags them in one transaction. CISA publishes new catalogs, CVEs
are inserted, and those that are not flagged are deleted by the retention, between any two of these
steps; and refreshes of several processes may overlap.
-/

namespace CveManagement

open Trajectory

/-! ### The catalog -/

/-- An entry of `vulnerabilities`. -/
structure KevEntry where
  cveID : Option String
  dateAdded : Option String

/-- A `dict[str, date]`, in the order of insertion. -/
abbrev KevCatalog := List (String × Date)

/-- `catalog[cve_id] = …`. -/
def KevCatalog.set (catalog : KevCatalog) (cveId : String) (added : Date) : KevCatalog :=
  if (catalog.map Prod.fst).contains cveId then
    catalog.map fun e => if e.1 == cveId then (cveId, added) else e
  else catalog ++ [(cveId, added)]

/-- The body of the loop of `_fetch`; a date that is none is left out. -/
def KevCatalog.add (fromisoformat : String → Option Date) (catalog : KevCatalog) (vuln : KevEntry) :
    KevCatalog :=
  match vuln.cveID, vuln.dateAdded with
  | some cveId, some text =>
    if cveId = "" ∨ text = "" then catalog
    else match fromisoformat text with
      | some added => catalog.set cveId added
      | none => catalog
  | _, _ => catalog

/-- **`_fetch`**, of what CISA publishes. -/
def kevCatalog (fromisoformat : String → Option Date) (vulnerabilities : List KevEntry) :
    KevCatalog :=
  vulnerabilities.foldl (KevCatalog.add fromisoformat) []

/-- `_TTL`. -/
def kevTtl : ℕ := 6 * 3600

/-- **How `get_catalog` keeps the catalog**: under one key, for six hours. -/
def kevPolicy (fromisoformat : String → Option Date) :
    ReadThrough.Policy Unit Unit (List KevEntry) KevCatalog Instant where
  key := id
  queries _ := [fun _ vulnerabilities => kevCatalog fromisoformat vulnerabilities]
  ttl _ := seconds kevTtl
  ttl_pos _ := by decide

/-! ### The mirror -/

/-- The two columns of `cves` that the refresh writes. -/
structure KevColumns where
  isKev : Bool
  kevAddedDate : Option Date
  deriving DecidableEq

/-- The table `cves`, by its ids. -/
abbrev KevRows := String → Option KevColumns

/-- `_UPDATE_KEV_SQL`, of a row with the id. -/
def KevColumns.flag (added : Date) (c : KevColumns) : KevColumns :=
  if !c.isKev || c.kevAddedDate.isNone then ⟨true, some added⟩ else c

/-- `_UPDATE_KEV_SQL`. -/
def KevRows.update (rows : KevRows) (e : String × Date) : KevRows :=
  Function.update rows e.1 ((rows e.1).map (KevColumns.flag e.2))

/-! ### The world -/

/-- Where a refresh is, once it has the catalog. -/
inductive KevRefresh
  | waiting
  /-- With the parameters of the updates. -/
  | selected (toUpdate : List (String × Date)) (skipped : ℕ)
  /-- `EnrichResult`. -/
  | done (updated skipped : ℕ)
  | failed

/-- **CISA, Redis, the refreshes and the mirror.** -/
structure KevWorld (ω : Type) where
  client : ReadThrough.World Unit Unit (List KevEntry) KevCatalog Instant ω Empty
  refreshes : ω → KevRefresh
  cves : KevRows

/-- What happens next. -/
inductive KevEvent (ω : Type)
  /-- Time passes, CISA publishes, or a refresh goes on with `get_catalog`. -/
  | client (e : ReadThrough.Event Unit Unit (List KevEntry) Instant ω Empty)
  /-- The rows of the catalog are selected, in some order. -/
  | select (refresh : ω) (order : RowOrder (String × Date))
  /-- The transaction with the updates, if it is committed. -/
  | update (refresh : ω) (committed : Bool)
  /-- A CVE is inserted, if it is not there. -/
  | insert (cveId : String)
  /-- The retention deletes a CVE, if it is not flagged. -/
  | delete (cveId : String)

variable {ω : Type} [DecidableEq ω] (fromisoformat : String → Option Date)

namespace KevWorld

variable (s : KevWorld ω)

/-- A refresh moves on. -/
def moveTo (refresh : ω) (phase : KevRefresh) : KevWorld ω :=
  { s with refreshes := Function.update s.refreshes refresh phase }

/-- The catalog that a refresh has got. -/
def catalog (refresh : ω) : Option KevCatalog :=
  match s.client.readers refresh with
  | .returned _ _ parts => parts.head?.map ReadThrough.Part.value
  | _ => none

/-- **The updates that a refresh is to make.** -/
def toUpdate (order : RowOrder (String × Date)) (catalog : KevCatalog) : List (String × Date) :=
  order.arrange (catalog.filter fun e => (s.cves e.1).isSome)

/-- A refresh selects the rows of its catalog. -/
def select (refresh : ω) (order : RowOrder (String × Date)) : KevWorld ω :=
  match s.refreshes refresh, s.catalog refresh with
  | .waiting, some catalog =>
    let toUpdate := s.toUpdate order catalog
    let skipped := catalog.length - toUpdate.length
    if toUpdate.isEmpty then s.moveTo refresh (.done 0 skipped)
    else s.moveTo refresh (.selected toUpdate skipped)
  | _, _ => s

/-- The transaction of a refresh. -/
def commit (refresh : ω) (committed : Bool) : KevWorld ω :=
  match s.refreshes refresh with
  | .selected toUpdate skipped =>
    if committed then
      { s.moveTo refresh (.done toUpdate.length skipped) with
        cves := toUpdate.foldl KevRows.update s.cves }
    else s.moveTo refresh .failed
  | _ => s

/-- **What a refresh does when it selects**: nothing, or it moves on with what it has found. -/
theorem select_cases (refresh : ω) (order : RowOrder (String × Date)) :
    s.select refresh order = s ∨ ∃ catalog phase, s.refreshes refresh = .waiting ∧
      s.catalog refresh = some catalog ∧ s.select refresh order = s.moveTo refresh phase ∧
        ∀ toUpdate skipped, phase = .selected toUpdate skipped →
          toUpdate = s.toUpdate order catalog := by
  rw [select]
  split
  next catalog hwaiting hcatalog =>
    dsimp only
    split_ifs
    · exact .inr ⟨catalog, _, hwaiting, hcatalog, rfl, fun _ _ hphase => by cases hphase⟩
    · refine .inr ⟨catalog, _, hwaiting, hcatalog, rfl, ?_⟩
      rintro _ _ ⟨⟩
      rfl
  · exact .inl rfl

/-- **What becomes of its transaction**: there is none, or it is committed, or it fails. -/
theorem commit_cases (refresh : ω) (committed : Bool) :
    s.commit refresh committed = s ∧
        (∀ toUpdate skipped, s.refreshes refresh ≠ .selected toUpdate skipped) ∨
      ∃ toUpdate skipped, s.refreshes refresh = .selected toUpdate skipped ∧
        (s.commit refresh committed =
            { s.moveTo refresh (.done toUpdate.length skipped) with
              cves := toUpdate.foldl KevRows.update s.cves } ∨
          s.commit refresh committed = s.moveTo refresh .failed) := by
  rw [commit]
  split
  next toUpdate skipped hselected =>
    refine .inr ⟨toUpdate, skipped, hselected, ?_⟩
    split_ifs
    · exact .inl rfl
    · exact .inr rfl
  next hnone => exact .inl ⟨rfl, fun toUpdate skipped hselected => hnone _ _ hselected⟩

end KevWorld

/-- **One event.** -/
def kevStep (s : KevWorld ω) : KevEvent ω → KevWorld ω
  | .client e => { s with client := ReadThrough.step (kevPolicy fromisoformat) s.client e }
  | .select refresh order => s.select refresh order
  | .update refresh committed => s.commit refresh committed
  | .insert cveId =>
    { s with
      cves := Function.update s.cves cveId (some ((s.cves cveId).getD ⟨false, none⟩)) }
  | .delete cveId =>
    { s with cves := Function.update s.cves cveId ((s.cves cveId).filter KevColumns.isKev) }

/-- Nothing is kept, and no refresh has begun. -/
def KevWorld.start (now : Instant) (vulnerabilities : List KevEntry) (cves : KevRows) :
    KevWorld ω :=
  ⟨ReadThrough.start now vulnerabilities, fun _ => .waiting, cves⟩

/-- The events of `get_catalog`. -/
def KevEvent.client? : KevEvent ω → Option
    (ReadThrough.Event Unit Unit (List KevEntry) Instant ω Empty)
  | .client e => some e
  | _ => none

/-- **The client does not care for the mirror.** -/
theorem projects_client : Projects (kevStep (ω := ω) fromisoformat)
    (ReadThrough.step (kevPolicy fromisoformat)) KevWorld.client KevEvent.client? := by
  intro s e
  cases e with
  | client e => rfl
  | select refresh order =>
    rcases s.select_cases refresh order with hsame | ⟨_, phase, -, -, hmoved, -⟩
    · rw [kevStep, hsame]
      rfl
    · rw [kevStep, hmoved]
      rfl
  | update refresh committed =>
    rcases s.commit_cases refresh committed with ⟨hsame, -⟩ | ⟨_, _, -, hdone | hfailed⟩
    · rw [kevStep, hsame]
      rfl
    · rw [kevStep, hdone]
      rfl
    · rw [kevStep, hfailed]
      rfl
  | insert cveId => rfl
  | delete cveId => rfl

end CveManagement
