import CveManagement.Query.CirclClient

/-!
# What OpenCVE sends

`OpenCveClient._parse_cves` of `app/query/opencve_client.py`, the counterpart of
`CveManagement.circlRow`. The two read their dates alike: a date that is missing or malformed
is the time of the reading. What is called the severity here is a vector.
-/

namespace CveManagement

/-- `_parse_dt`, which is `_parse_circl_dt` once more. -/
def parseOpenCveDt (py : PyParse) (now : Instant) (s : Json) : Except PyError Instant :=
  parseCirclDt py now s

/-- The values of `_UPSERT_CVE_SQL`; what is in `severity` can be any value. -/
structure OpenCveRow where
  cveId : Text
  rawPayload : Json
  cvssV3Score : Option PyFloat
  cvssV2Score : Option PyFloat
  severity : Json
  publishedAt : Instant
  lastModifiedAt : Instant

/-- What `_parse_cves` takes from the member `cvss`: the two scores and the severity. -/
def openCveCvss : Json → Except PyError (Json × Json × Json)
  | .obj members => do
    let cvss : Json := .obj members
    let v3 := (← cvss.get "v3").or (← cvss.get "v31")
    let v2 ← cvss.get "v2"
    pure (v3, v2, ((Json.member? "v3_vector" members).getD (.str "")))
  | .num q =>
    -- the number is converted here, where nothing is expected
    if (Json.num q).TooLarge then .error .overflowError else pure (.null, .num q, .null)
  | .bool b => pure (.null, .bool b, .null)
  | _ => pure (.null, .null, .null)

/-- `float(score) if score is not None else None`. -/
def PyParse.readScore (py : PyParse) : Json → Except PyError (Option PyFloat)
  | .null => .ok none
  | j => some <$> py.floatOf j

/-- The `try` block of the scores: those that are there, and neither if one fails. -/
def openCveScores (py : PyParse) (v3 v2 : Json) :
    Except PyError (Option PyFloat × Option PyFloat) :=
  exceptTypeOrValue (none, none) do
    let v3Score ← py.readScore v3
    let v2Score ← py.readScore v2
    pure (v3Score, v2Score)

/-- The body of the loop of `_parse_cves`; `none` is `continue`. -/
def openCveRow (py : PyParse) (now : Instant) (item : Json) :
    Except PyError (Option OpenCveRow) := do
  let id := (← item.get "cve_id").or (← item.get "id")
  if id.truthy then
    let cveId ← id.text
    if Text.startsWith cveId "CVE-".toList then
      let (v3, v2, severity) ← openCveCvss (← item.get "cvss")
      let (v3Score, v2Score) ← openCveScores py v3 v2
      let published ←
        parseOpenCveDt py now ((← item.get "created_at").or (← item.get "published"))
      let modified ← parseOpenCveDt py now
        (((← item.get "updated_at").or (← item.get "modified")).or (← item.get "created_at"))
      pure (some
        { cveId, rawPayload := item, cvssV3Score := v3Score, cvssV2Score := v2Score,
          severity := severity.or .null, publishedAt := published, lastModifiedAt := modified })
    else pure none
  else pure none

end CveManagement
