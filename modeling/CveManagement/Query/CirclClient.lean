import CveManagement.Governance.Schema
import CveManagement.Payload.Python
import Mathlib.Algebra.Order.Ring.Abs
import Mathlib.Algebra.Order.Ring.Rat

/-!
# What CIRCL sends, and what is stored of it

`CirclClient._store` of `app/query/circl_client.py` turns the items of a page into rows of
`cves`. An item is any JSON object with an `id` that begins with `CVE-`; it is stored whole
in `raw_payload`, whatever else is in it.
-/

namespace CveManagement

/-- A `float`, exact where it is finite. -/
inductive PyFloat
  | fin (q : ℚ)
  | inf (negative : Bool)
  | nan
  deriving DecidableEq

/-- `x >= q`. -/
def PyFloat.ge : PyFloat → ℚ → Bool
  | .fin x, q => decide (q ≤ x)
  | .inf negative, _ => !negative
  | .nan, _ => false

/-- **The parsers of the standard library** that the clients call on texts of a payload. -/
structure PyParse where
  /-- `float`; `none` is a `ValueError`. -/
  float : Text → Option PyFloat
  /-- `datetime.fromisoformat`, a result without time zone taken as UTC; `none` is a
  `ValueError`. -/
  fromisoformat : Text → Option Instant

/-- **A number that no `float` holds**: an integer that would be rounded to `2 ** 1024`, or
beyond. -/
def Json.TooLarge : Json → Prop
  | .num q => 2 ^ 1024 - 2 ^ 970 ≤ |q|
  | _ => False

instance : DecidablePred Json.TooLarge
  | .num q => inferInstanceAs (Decidable (2 ^ 1024 - 2 ^ 970 ≤ |q|))
  | .null | .bool _ | .str _ | .arr _ | .obj _ => inferInstanceAs (Decidable False)

/-- `float(value)`. -/
def PyParse.floatOf (py : PyParse) (j : Json) : Except PyError PyFloat :=
  if j.TooLarge then .error .overflowError
  else match j with
    | .num q => .ok (.fin q)
    | .bool b => .ok (.fin (if b then 1 else 0))
    | .str s => (py.float s.toList).elim (.error .valueError) .ok
    | _ => .error .typeError

/-- `except (TypeError, ValueError)`, with what the block then gives. -/
def exceptTypeOrValue {α : Type} (fallback : α) : Except PyError α → Except PyError α
  | .error .typeError | .error .valueError => .ok fallback
  | result => result

/-- `float(value) if value is not None else None`, or `None` if that raises what is expected. -/
def PyParse.scoreOf (py : PyParse) (j : Json) : Except PyError (Option PyFloat) :=
  exceptTypeOrValue none (some <$> py.floatOf j)

section Float

variable {py : PyParse} {j : Json}

/-- `float` overflows on what is too large, and on nothing else. -/
theorem PyParse.floatOf_eq_overflow_iff : py.floatOf j = .error .overflowError ↔ j.TooLarge := by
  unfold floatOf
  split_ifs with h
  · exact iff_of_true rfl h
  · refine iff_of_false ?_ h
    cases j with
    | str s => cases hs : py.float s.toList <;> simp [hs]
    | _ => simp

theorem PyParse.floatOf_num {q : ℚ} (h : ¬(Json.num q).TooLarge) :
    py.floatOf (.num q) = .ok (.fin q) := if_neg h

/-- **A score raises exactly if it is too large**; what cannot be read is no score. -/
theorem PyParse.scoreOf_cases (py : PyParse) (j : Json) :
    j.TooLarge ∧ py.scoreOf j = .error .overflowError ∨
      ¬j.TooLarge ∧ py.scoreOf j = .ok (py.floatOf j).toOption := by
  unfold scoreOf floatOf
  split_ifs with h
  · exact .inl ⟨h, rfl⟩
  · refine .inr ⟨h, ?_⟩
    cases j with
    | str s => cases hs : py.float s.toList <;> simp [hs, exceptTypeOrValue, Except.toOption]
    | _ => rfl

end Float

/-- `s.replace("Z", "+00:00")`. -/
def replaceZulu (s : Text) : Text :=
  s.flatMap fun c => if c = 'Z' then "+00:00".toList else [c]

/-- `_circl_severity`. -/
def circlSeverity : Option PyFloat → Option String
  | none => none
  | some score =>
    if score.ge 9 then some "CRITICAL"
    else if score.ge 7 then some "HIGH"
    else if score.ge 4 then some "MEDIUM"
    else some "LOW"

/-- `_parse_circl_dt`. -/
def parseCirclDt (py : PyParse) (now : Instant) (s : Json) : Except PyError Instant :=
  if s.truthy then do
    let text ← s.text
    pure ((py.fromisoformat (replaceZulu text)).getD now)
  else pure now

/-- The values that `_store` inserts into `cves`; `cvss_v3_score` is `NULL`. -/
structure CirclRow where
  cveId : Text
  rawPayload : Json
  cvssV2Score : Option PyFloat
  severity : Option String
  publishedAt : Instant
  lastModifiedAt : Instant

/-- The body of the loop of `_store`; `none` is `continue`. -/
def circlRow (py : PyParse) (now : Instant) (item : Json) : Except PyError (Option CirclRow) := do
  let id ← item.get "id"
  if id.truthy then
    let cveId ← id.text
    if Text.startsWith cveId "CVE-".toList then
      -- a score of zero counts as missing, and `cvss3` is read in its place
      let cvss := (← item.get "cvss").or (← item.get "cvss3")
      let cvssFloat ← py.scoreOf cvss
      let published ← parseCirclDt py now (← item.get "Published")
      let modified ←
        parseCirclDt py now ((← item.get "Modified").or (← item.get "Published"))
      pure (some
        { cveId, rawPayload := item, cvssV2Score := cvssFloat,
          severity := circlSeverity cvssFloat, publishedAt := published,
          lastModifiedAt := modified })
    else pure none
  else pure none

/-- `cve_rows` of `_store`. -/
def circlRows (py : PyParse) (now : Instant) (items : List Json) :
    Except PyError (List CirclRow) := do
  let rows ← items.mapM (circlRow py now)
  pure (rows.filterMap id)

end CveManagement
