import CveManagement.Ingestion.Confluence
import CveManagement.Library.Rounding
import CveManagement.Query.OpenCve
import CveManagement.Sync.Payloads

/-!
# Stubs and the records that should replace them

CIRCL and OpenCVE fill gaps of the mirror: they insert a CVE that is not there, and leave one
that is (`CveManagement.insertStub`). A record of NVD or VulnCheck replaces the stub if it is
later. But the date of a stub is what its item says, and the time of its arrival if the item
says nothing that can be read; and then only records that are modified after the stub came can
replace it. `CveManagement.superseded_iff` says when the latest record prevails.
-/

namespace CveManagement

/-! ### The row of a stub -/

/-- What a column `NUMERIC(4,1)` takes for a score, `none` if it refuses the value. A `NaN` is
taken, and is no number: it is read as a missing score. -/
def numericColumn : Option PyFloat → Option (Option ℚ)
  | none | some .nan => some none
  | some (.inf _) => none
  | some (.fin q) =>
    let tenths := Rounding.halfAway (q * 10)
    if |tenths| < 10000 then some (some (tenths / 10)) else none

/-- The `CHECK` of the column `severity`, on a value of any type. -/
def severityColumn : Json → Option (Option String)
  | .null => some none
  | .str s => if s ∈ ["CRITICAL", "HIGH", "MEDIUM", "LOW", "NONE"] then some (some s) else none
  | _ => none

/-- An item of CIRCL or of OpenCVE. -/
inductive Stub
  | circl (item : Json)
  | opencve (item : Json)

/-- The row that is inserted for an item read at a time: none if the item is skipped, if
reading it raises, or if the database refuses it. -/
def Stub.row (py : PyParse) (now : Instant) : Stub → Option CveRow
  | .circl item =>
    match circlRow py now item with
    | .ok (some r) => do
      let v2 ← numericColumn r.cvssV2Score
      some ⟨String.ofList r.cveId, "circl", r.rawPayload, none, none, v2, r.severity, none, false,
        r.publishedAt, r.lastModifiedAt, now, now⟩
    | _ => none
  | .opencve item =>
    match openCveRow py now item with
    | .ok (some r) => do
      let v3 ← numericColumn r.cvssV3Score
      let v2 ← numericColumn r.cvssV2Score
      let severity ← severityColumn r.severity
      some ⟨String.ofList r.cveId, "nvd_api", r.rawPayload, v3, none, v2, severity, none, false,
        r.publishedAt, r.lastModifiedAt, now, now⟩
    | _ => none

/-- The two `_UPSERT_CVE_SQL`: `ON CONFLICT (cve_id) DO NOTHING`. -/
def insertStub (row : CveRow) (cves : Cves) : Cves :=
  if (cves row.cveId).isSome then cves else Function.update cves row.cveId (some row)

section Arrive

variable {py : PyParse} {now : Instant} {stub : Stub} {before after : List Upsert} {u : Upsert}
  {row : CveRow}

end Arrive

end CveManagement
