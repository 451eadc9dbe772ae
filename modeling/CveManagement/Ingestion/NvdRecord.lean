import CveManagement.Ingestion.Mirror
import CveManagement.Library.Salvage
import CveManagement.Query.CirclClient
import CveManagement.Sync.Candidates

/-!
# Records of NVD 2.0

`app/models/nvd.py`: `from_nvd_cve` reads a CVE of NVD or VulnCheck into an `NvdCveRecord`. It goes
down the object with `.get`, `[0]` and `[…]`, and what it raises on a value of another shape depends
on the place: an object where a list is expected is a `KeyError`, a missing date too, a date that
cannot be read is a `ValueError`, and almost everything else is an `AttributeError` or a
`TypeError`. The loops around it expect some of these and not the others.

`CveManagement.expects_fromNvdCve_iff` says of which shape a CVE is if `from_nvd_cve` raises nothing
but what is expected.
-/

namespace CveManagement

/-! ### Exceptions -/

/-- The exceptions of `from_nvd_cve`. -/
inductive NvdError
  | keyError
  | indexError
  | raised (e : PyError)
  deriving DecidableEq

/-- An exception of the operations on payloads. -/
def raising {α : Type} (x : Except PyError α) : Except NvdError α := x.mapError .raised

/-- `.get(key, default)`. -/
def Json.getElse (j : Json) (key : String) (default : Json) : Except NvdError Json :=
  match j with
  | .obj members => .ok ((Json.member? key members).getD default)
  | _ => .error (.raised .attributeError)

/-- `value[key]`, of an object. -/
def Json.item (j : Json) (key : String) : Except NvdError Json :=
  match j with
  | .obj members =>
    match Json.member? key members with
    | some v => .ok v
    | none => .error .keyError
  | _ => .error (.raised .typeError)

/-- `value[0]`. -/
def Json.head : Json → Except NvdError Json
  | .arr (first :: _) => .ok first
  | .arr [] => .error .indexError
  | .obj _ => .error .keyError
  | .str s =>
    match s.toList with
    | c :: _ => .ok (.str (String.singleton c))
    | [] => .error .indexError
  | _ => .error (.raised .typeError)

/-! ### Reading a CVE -/

/-- The fields that `cls(…)` is called with. -/
structure NvdFields where
  cveId : Json
  publishedAt : Instant
  lastModifiedAt : Instant
  cvssV3Score : Json
  cvssV3Vector : Json
  cvssV2Score : Json
  severity : Json
  rawPayload : Json

/-- What `from_nvd_cve` takes from outside: the parser of dates, `str.upper`, and the validation of
the fields by the model class; `none` is a `ValidationError`, which is a `ValueError`. -/
structure NvdEnv where
  parse : PyParse
  upper : Text → Text
  validate : NvdFields → Option NvdCveRecord

/-- `_parse_dt`. -/
def parseDt (env : NvdEnv) (s : Json) : Except NvdError Instant := do
  let text ← raising s.text
  match env.parse.fromisoformat (replaceZulu text) with
  | some t => .ok t
  | none => .error (.raised .valueError)

/-- `entries[0].get("cvssData", {})`. -/
def cvssData (entries : Json) : Except NvdError Json := do
  let first ← entries.head
  first.getElse "cvssData" (.obj [])

/-- What is taken from the CVSS data of version 3. -/
structure CvssV3 where
  score : Json
  vector : Json
  severity : Json

/-- What is read of the CVSS data of version 3. -/
def readV3 (data : Json) : Except NvdError CvssV3 := do
  return ⟨← data.getElse "baseScore" .null, ← data.getElse "vectorString" .null,
    ← data.getElse "baseSeverity" .null⟩

/-- The loop over the keys of version 3, up to the first that has entries. -/
def cvssV3 (metrics : Json) : List String → Except NvdError CvssV3
  | [] => .ok ⟨.null, .null, .null⟩
  | key :: keys => do
    let entries ← metrics.getElse key .null
    if entries.truthy then cvssData entries >>= readV3 else cvssV3 metrics keys

/-- The score of version 2. -/
def cvssV2Score (metrics : Json) : Except NvdError Json := do
  let entries ← metrics.getElse "cvssMetricV2" .null
  if entries.truthy then cvssData entries >>= fun data => data.getElse "baseScore" .null
  else return .null

/-- The severity of a score of version 2. -/
def severityOfScore (q : ℚ) : String := if q ≥ 7 then "HIGH" else if q ≥ 4 then "MEDIUM" else "LOW"

/-- The severity, where there is none, by the score of version 2: a truth value is compared as a
number, and no other value is. -/
def derivedSeverity (severity v2Score : Json) : Except NvdError Json :=
  if severity.truthy then .ok severity
  else match v2Score with
    | .null => .ok severity
    | .num q => .ok (.str (severityOfScore q))
    | .bool b => .ok (.str (severityOfScore (if b then 1 else 0)))
    | _ => .error (.raised .typeError)

/-- `severity.upper()`, if there is one. -/
def upperSeverity (env : NvdEnv) (severity : Json) : Except NvdError Json :=
  if severity.truthy then do
    let text ← raising severity.text
    return .str (String.ofList (env.upper text))
  else .ok severity

/-- The arguments of `cls(…)` in `from_nvd_cve`. -/
def nvdFields (env : NvdEnv) (cve : Json) : Except NvdError NvdFields := do
  let obj ← cve.getElse "cve" cve
  let metrics ← obj.getElse "metrics" (.obj [])
  let v3 ← cvssV3 metrics ["cvssMetricV31", "cvssMetricV30"]
  let v2Score ← cvssV2Score metrics
  let severity ← upperSeverity env (← derivedSeverity v3.severity v2Score)
  let cveId ← obj.item "id"
  let publishedAt ← parseDt env (← obj.item "published")
  let lastModifiedAt ← parseDt env (← obj.item "lastModified")
  return ⟨cveId, publishedAt, lastModifiedAt, v3.score, v3.vector, v2Score, severity, obj⟩

/-- **`from_nvd_cve`.** -/
def fromNvdCve (env : NvdEnv) (cve : Json) : Except NvdError NvdCveRecord := do
  let fields ← nvdFields env cve
  match env.validate fields with
  | some r => .ok r
  | none => .error (.raised .valueError)

/-! ### The shape of a CVE -/

/-- `except (KeyError, ValueError)`, or `except KeyError` alone. -/
def NvdError.caught (valueErrors : Bool) : NvdError → Bool
  | .keyError => true
  | .raised .valueError => valueErrors
  | _ => false

/-- The value is an object. -/
def Json.IsObj (j : Json) : Prop := ∃ members, j = .obj members

/-- The value of a key, or a default. -/
def Json.valueOr (j : Json) (key : String) (default : Json) : Json := (j.arrow key).getD default

/-- The CVE itself, which may be wrapped. -/
def recordOf (item : Json) : Json := item.valueOr "cve" item

/-- Its metrics. -/
def metricsOf (obj : Json) : Json := obj.valueOr "metrics" (.obj [])

/-- The entries of version 3: those of 3.1, or else those of 3.0. -/
def v3Entries (metrics : Json) : Json :=
  (metrics.valueOr "cvssMetricV31" .null).or (metrics.valueOr "cvssMetricV30" .null)

/-- The entries of version 2. -/
def v2Entries (metrics : Json) : Json := metrics.valueOr "cvssMetricV2" .null

/-- The CVSS data of the first entry. -/
def dataOf : Json → Json
  | .arr (first :: _) => first.valueOr "cvssData" (.obj [])
  | _ => .obj []

/-- There is an object in the place of the entries, of which no first one can be taken. -/
def Keyed (entries : Json) : Prop := entries.truthy = true ∧ entries.IsObj

/-- **The entries can be read**: there are none, or the first one is an object, with an object for
its data. -/
def HasData (entries : Json) : Prop :=
  entries.truthy = false ∨
    ∃ first rest, entries = .arr (first :: rest) ∧ first.IsObj ∧ (dataOf entries).IsObj

/-- What version 3 takes from its data. -/
def v3Of (data : Json) : CvssV3 :=
  ⟨data.valueOr "baseScore" .null, data.valueOr "vectorString" .null,
    data.valueOr "baseSeverity" .null⟩

/-- What version 2 takes from its data. -/
def v2Of (data : Json) : Json := data.valueOr "baseScore" .null

/-- A value that can be compared with a number, or `None`. -/
def Json.IsScore : Json → Prop
  | .null | .num _ | .bool _ => True
  | _ => False

/-- The severity is a text, or there is none and the score is a number. -/
def SeverityShaped (severity v2Score : Json) : Prop :=
  (severity.truthy = true → ∃ s, severity = .str s) ∧ (severity.truthy = false → v2Score.IsScore)

/-- A date is missing, or it is a text; if it cannot be read, that is expected, and if it can, there
is more to be said. -/
def DateShaped (env : NvdEnv) (valueErrors : Bool) (obj : Json) (key : String) (next : Prop) :
    Prop :=
  match obj.arrow key with
  | none => True
  | some (.str s) =>
    if (env.parse.fromisoformat (replaceZulu s.toList)).isSome then next else valueErrors = true
  | some _ => False

/-- The id is missing, or the dates are as they should be. -/
def RequiredShaped (env : NvdEnv) (valueErrors : Bool) (obj : Json) : Prop :=
  obj.arrow "id" = none ∨
    DateShaped env valueErrors obj "published" (DateShaped env valueErrors obj "lastModified" True)

/-- **The shape of a CVE whose fields can be taken, or fail to in an expected way.** -/
def NvdShaped (env : NvdEnv) (valueErrors : Bool) (item : Json) : Prop :=
  item.IsObj ∧ (recordOf item).IsObj ∧ (metricsOf (recordOf item)).IsObj ∧
    let v3 := v3Entries (metricsOf (recordOf item))
    let v2 := v2Entries (metricsOf (recordOf item))
    (Keyed v3 ∨ HasData v3 ∧ (Keyed v2 ∨ HasData v2 ∧
      SeverityShaped (v3Of (dataOf v3)).severity (v2Of (dataOf v2)) ∧
        RequiredShaped env valueErrors (recordOf item)))

/-! ### What is raised on the way -/

/-- The computation raises nothing but what is expected. -/
abbrev Expects {α : Type} (valueErrors : Bool) (x : Except NvdError α) : Prop :=
  Salvage.Only (fun e => NvdError.caught valueErrors e = true) x

section Steps

variable {α β : Type} {b : Bool} {env : NvdEnv} {j obj entries metrics default : Json}
  {key : String}

theorem Json.getElse_of_isObj (h : j.IsObj) :
    j.getElse key default = .ok (j.valueOr key default) := by
  obtain ⟨members, rfl⟩ := h
  rfl

theorem Json.getElse_of_not_isObj (h : ¬j.IsObj) :
    j.getElse key default = .error (.raised .attributeError) := by
  cases j with
  | obj members => exact absurd ⟨members, rfl⟩ h
  | _ => rfl

/-- `.get` raises nothing that is expected. -/
theorem expects_getElse_bind_iff {f : Json → Except NvdError β} :
    Expects b (j.getElse key default >>= f) ↔ j.IsObj ∧ Expects b (f (j.valueOr key default)) := by
  by_cases h : j.IsObj
  · rw [Json.getElse_of_isObj h, and_iff_right h]
    rfl
  · rw [Json.getElse_of_not_isObj h]
    exact iff_of_false (fun hc => by cases hc _ rfl) fun hc => h hc.1

/-- An exception that no loop expects fails a computation. -/
theorem not_expects_bind_of_error {x : Except NvdError α} {f : α → Except NvdError β} {e : NvdError}
    (hx : x = .error e) (he : e.caught b = false) : ¬Expects b (x >>= f) := by
  rw [hx]
  intro h
  rw [h e rfl] at he
  cases he

/-- Of a text, a number or a truth value no data can be taken. -/
theorem cvssData_of_scalar (hobj : ¬entries.IsObj) (hlist : ∀ items, entries ≠ .arr items) :
    ∃ e, cvssData entries = .error e ∧ e.caught b = false := by
  cases entries with
  | arr items => exact absurd rfl (hlist items)
  | obj members => exact absurd ⟨members, rfl⟩ hobj
  | str s =>
    rw [cvssData, Json.head]
    cases s.toList with
    | nil => exact ⟨.indexError, rfl, rfl⟩
    | cons c rest => exact ⟨.raised .attributeError, rfl, rfl⟩
  | null => exact ⟨.raised .typeError, rfl, rfl⟩
  | num q => exact ⟨.raised .typeError, rfl, rfl⟩
  | bool c => exact ⟨.raised .typeError, rfl, rfl⟩

/-- What is read of the first entry: an object in the place of the entries is a `KeyError`, which is
expected, and what is raised on anything else that is no list of objects is not. -/
theorem expects_cvssData_bind_iff {f : Json → Except NvdError β} (ht : entries.truthy = true) :
    Expects b (cvssData entries >>= f) ↔ Keyed entries ∨
      ∃ first rest, entries = .arr (first :: rest) ∧ first.IsObj ∧
        Expects b (f (dataOf entries)) := by
  by_cases hobj : entries.IsObj
  · obtain ⟨members, rfl⟩ := hobj
    have hstep : cvssData (.obj members) >>= f = .error .keyError := rfl
    rw [hstep]
    exact iff_of_true (Salvage.only_error.mpr rfl) (.inl ⟨ht, members, rfl⟩)
  by_cases hlist : ∃ items, entries = .arr items
  · obtain ⟨_ | ⟨first, rest⟩, rfl⟩ := hlist
    · cases ht
    · have hstep : cvssData (.arr (first :: rest)) >>= f =
          first.getElse "cvssData" (.obj []) >>= f := rfl
      rw [hstep, expects_getElse_bind_iff, or_iff_right fun h => hobj h.2]
      constructor
      · rintro ⟨hfirst, hf⟩
        exact ⟨first, rest, rfl, hfirst, hf⟩
      · rintro ⟨first', rest', h, hfirst, hf⟩
        cases h
        exact ⟨hfirst, hf⟩
  · obtain ⟨e, he, hcaught⟩ := @cvssData_of_scalar b entries hobj fun items h => hlist ⟨items, h⟩
    refine iff_of_false (not_expects_bind_of_error he hcaught) ?_
    rintro (⟨-, h⟩ | ⟨first, rest, h, -⟩)
    · exact hobj h
    · exact hlist ⟨_, h⟩

/-- **What a version takes from its entries**, if there are any. -/
theorem expects_entries_bind_iff {read : Json → Except NvdError α} {value : Json → α}
    (hok : ∀ data : Json, data.IsObj → read data = .ok (value data))
    (hbad : ∀ data : Json, ¬data.IsObj → read data = .error (.raised .attributeError))
    {x : Except NvdError α}
    (hx : x = if entries.truthy then cvssData entries >>= read else .ok (value (.obj [])))
    {f : α → Except NvdError β} :
    Expects b (x >>= f) ↔
      Keyed entries ∨ HasData entries ∧ Expects b (f (value (dataOf entries))) := by
  by_cases ht : entries.truthy = true
  · rw [hx, if_pos ht, bind_assoc, expects_cvssData_bind_iff ht]
    refine or_congr_right ?_
    have htruthy : ¬entries.truthy = false := by rw [ht]; exact Bool.noConfusion
    rw [HasData, or_iff_right htruthy]
    by_cases hdata : (dataOf entries).IsObj
    · have hstep : read (dataOf entries) >>= f = f (value (dataOf entries)) := by
        rw [hok _ hdata]
        rfl
      rw [hstep]
      constructor
      · rintro ⟨first, rest, h, hfirst, hf⟩
        exact ⟨⟨first, rest, h, hfirst, hdata⟩, hf⟩
      · rintro ⟨⟨first, rest, h, hfirst, -⟩, hf⟩
        exact ⟨first, rest, h, hfirst, hf⟩
    · refine iff_of_false ?_ fun h => hdata ?_
      · rintro ⟨first, rest, h, hfirst, hf⟩
        exact not_expects_bind_of_error (hbad _ hdata) rfl hf
      · obtain ⟨⟨first, rest, -, -, hobj⟩, -⟩ := h
        exact hobj
  · have hdata : dataOf entries = .obj [] := by
      cases entries with
      | arr items =>
        cases items with
        | nil => rfl
        | cons first rest => exact absurd rfl ht
      | _ => rfl
    have hnone : HasData entries := .inl (by simpa using ht)
    rw [hx, if_neg ht, hdata, or_iff_right fun h => ht h.1, and_iff_right hnone]
    rfl

theorem expects_cvssV3_bind_iff (hm : metrics.IsObj) {f : CvssV3 → Except NvdError β} :
    Expects b (cvssV3 metrics ["cvssMetricV31", "cvssMetricV30"] >>= f) ↔
      Keyed (v3Entries metrics) ∨
        HasData (v3Entries metrics) ∧ Expects b (f (v3Of (dataOf (v3Entries metrics)))) := by
  have hok : ∀ data : Json, data.IsObj → readV3 data = .ok (v3Of data) := fun data hdata => by
    rw [readV3, Json.getElse_of_isObj hdata, Json.getElse_of_isObj hdata,
      Json.getElse_of_isObj hdata]
    rfl
  have hbad : ∀ data : Json, ¬data.IsObj → readV3 data = .error (.raised .attributeError) :=
    fun data hdata => by
      rw [readV3, Json.getElse_of_not_isObj hdata]
      rfl
  refine expects_entries_bind_iff hok hbad ?_
  -- the entries of 3.1 if there are any, and else those of 3.0
  rw [cvssV3, Json.getElse_of_isObj hm, v3Entries, Json.or]
  by_cases h31 : (metrics.valueOr "cvssMetricV31" .null).truthy = true
  · rw [if_pos h31, if_pos h31]
    exact if_pos h31
  · rw [if_neg h31]
    refine (if_neg h31).trans ?_
    rw [cvssV3, Json.getElse_of_isObj hm]
    rfl

theorem expects_cvssV2Score_bind_iff (hm : metrics.IsObj) {f : Json → Except NvdError β} :
    Expects b (cvssV2Score metrics >>= f) ↔ Keyed (v2Entries metrics) ∨
      HasData (v2Entries metrics) ∧ Expects b (f (v2Of (dataOf (v2Entries metrics)))) := by
  refine expects_entries_bind_iff (fun data hdata => Json.getElse_of_isObj hdata)
    (fun data hdata => Json.getElse_of_not_isObj hdata) ?_
  rw [cvssV2Score, Json.getElse_of_isObj hm]
  rfl

/-- `.upper()` is called on texts only. -/
theorem expects_upperSeverity_bind_iff {severity : Json} {f : Json → Except NvdError β} {P : Prop}
    (hf : ∀ s, Expects b (f s) ↔ P) :
    Expects b (upperSeverity env severity >>= f) ↔
      (severity.truthy = true → ∃ s, severity = .str s) ∧ P := by
  by_cases ht : severity.truthy = true
  · cases severity with
    | str s =>
      have hstep : upperSeverity env (.str s) >>= f =
          f (.str (String.ofList (env.upper s.toList))) := by
        rw [upperSeverity, if_pos ht]
        rfl
      rw [hstep, hf, and_iff_right fun _ => ⟨s, rfl⟩]
    | _ =>
      refine iff_of_false ?_ fun h => by
        obtain ⟨s, hstr⟩ := h.1 ht
        cases hstr
      rw [upperSeverity, if_pos ht]
      exact not_expects_bind_of_error rfl rfl
  · have hstep : upperSeverity env severity >>= f = f severity := by
      rw [upperSeverity, if_neg ht]
      rfl
    rw [hstep, hf, and_iff_right fun h => absurd h ht]

/-- Without a severity, the score decides: by its number, or not at all. -/
theorem derivedSeverity_cases {severity v2Score : Json} (hs : severity.truthy = false) :
    (v2Score.IsScore ∧ ∃ s : Json, derivedSeverity severity v2Score = .ok s ∧
        (s.truthy = true → ∃ t, s = .str t)) ∨
      ¬v2Score.IsScore ∧ derivedSeverity severity v2Score = .error (.raised .typeError) := by
  have hnone : ¬severity.truthy = true := by rw [hs]; exact Bool.noConfusion
  unfold derivedSeverity
  rw [if_neg hnone]
  cases v2Score with
  | null => exact .inl ⟨trivial, severity, rfl, fun h => absurd h hnone⟩
  | num q => exact .inl ⟨trivial, _, rfl, fun _ => ⟨_, rfl⟩⟩
  | bool c => exact .inl ⟨trivial, _, rfl, fun _ => ⟨_, rfl⟩⟩
  | _ => exact .inr ⟨fun h => h, rfl⟩

theorem expects_severity_bind_iff {severity v2Score : Json} {f : Json → Except NvdError β}
    {P : Prop} (hf : ∀ s, Expects b (f s) ↔ P) :
    Expects b (derivedSeverity severity v2Score >>= fun s => upperSeverity env s >>= f) ↔
      SeverityShaped severity v2Score ∧ P := by
  by_cases ht : severity.truthy = true
  · have hstep : derivedSeverity severity v2Score = .ok severity := if_pos ht
    rw [hstep, SeverityShaped, and_iff_left fun h : severity.truthy = false => by
      rw [ht] at h
      cases h]
    exact expects_upperSeverity_bind_iff hf
  · have hs : severity.truthy = false := by simpa using ht
    rw [SeverityShaped, and_iff_right fun h => absurd h ht]
    rcases derivedSeverity_cases hs with ⟨hscore, s, hstep, htext⟩ | ⟨hscore, hstep⟩
    · rw [hstep, and_iff_right fun _ => hscore]
      exact (expects_upperSeverity_bind_iff hf).trans (and_iff_right htext)
    · exact iff_of_false (not_expects_bind_of_error hstep rfl) fun h => hscore (h.1 hs)

/-- A missing key is expected. -/
theorem expects_item_bind_iff (hobj : obj.IsObj) {f : Json → Except NvdError β} :
    Expects b (obj.item key >>= f) ↔
      ∀ v, obj.arrow key = some v → Expects b (f v) := by
  obtain ⟨members, rfl⟩ := hobj
  cases hm : Json.member? key members with
  | none =>
    have harrow : (Json.obj members).arrow key = none := hm
    have hstep : (Json.obj members).item key >>= f = .error .keyError := by
      rw [Json.item, hm]
      rfl
    rw [hstep, harrow]
    exact iff_of_true (Salvage.only_error.mpr rfl) fun v h => by cases h
  | some v =>
    have harrow : (Json.obj members).arrow key = some v := hm
    have hstep : (Json.obj members).item key >>= f = f v := by
      rw [Json.item, hm]
      rfl
    rw [hstep, harrow]
    simp

theorem expects_id_bind_iff (hobj : obj.IsObj) {f : Json → Except NvdError β} {P : Prop}
    (hf : ∀ v, Expects b (f v) ↔ P) :
    Expects b (obj.item key >>= f) ↔ obj.arrow key = none ∨ P := by
  rw [expects_item_bind_iff hobj]
  cases obj.arrow key with
  | none => exact iff_of_true (fun v h => by cases h) (.inl rfl)
  | some v => simp [hf]

theorem expects_date_bind_iff (hobj : obj.IsObj) {f : Instant → Except NvdError β} {P : Prop}
    (hf : ∀ t, Expects b (f t) ↔ P) :
    Expects b (obj.item key >>= fun v => parseDt env v >>= f) ↔ DateShaped env b obj key P := by
  rw [expects_item_bind_iff hobj, DateShaped]
  cases obj.arrow key with
  | none => exact iff_of_true (fun v h => by cases h) trivial
  | some v =>
    simp only [Option.some.injEq, forall_eq']
    cases v with
    | str s =>
      cases hdate : env.parse.fromisoformat (replaceZulu s.toList) with
      | none =>
        have hstep : parseDt env (.str s) >>= f = .error (.raised .valueError) := by
          rw [parseDt]
          simp only [Json.text, raising, Except.mapError, bind, Except.bind, hdate]
        rw [hstep]
        refine Salvage.only_error.trans ?_
        simp only [hdate, Option.isSome_none, Bool.false_eq_true, if_false, NvdError.caught]
      | some t =>
        have hstep : parseDt env (.str s) >>= f = f t := by
          rw [parseDt]
          simp only [Json.text, raising, Except.mapError, bind, Except.bind, hdate]
        rw [hstep, hf]
        simp only [hdate, Option.isSome_some, if_true]
    | _ => exact iff_of_false (not_expects_bind_of_error rfl rfl) fun h => h

end Steps

/-! ### What `from_nvd_cve` raises -/

/-- **The fields of a CVE are taken, or fail to be in an expected way, exactly if it has the
shape.** -/
theorem expects_nvdFields_iff {b : Bool} {env : NvdEnv} {item : Json} :
    Expects b (nvdFields env item) ↔ NvdShaped env b item := by
  rw [nvdFields, expects_getElse_bind_iff]
  refine and_congr_right fun _ => ?_
  rw [expects_getElse_bind_iff]
  refine and_congr_right fun hobj => ?_
  by_cases hmetrics : (metricsOf (recordOf item)).IsObj
  · rw [and_iff_right hmetrics]
    refine (expects_cvssV3_bind_iff hmetrics).trans ?_
    refine or_congr_right (and_congr_right fun _ => ?_)
    refine (expects_cvssV2Score_bind_iff hmetrics).trans ?_
    refine or_congr_right (and_congr_right fun _ => ?_)
    refine expects_severity_bind_iff fun s => ?_
    refine (expects_id_bind_iff hobj fun v => ?_)
    exact expects_date_bind_iff hobj fun t => expects_date_bind_iff hobj fun t' =>
      Salvage.only_pure
  · have hraises : cvssV3 (metricsOf (recordOf item)) ["cvssMetricV31", "cvssMetricV30"] =
        .error (.raised .attributeError) := by
      rw [cvssV3, Json.getElse_of_not_isObj hmetrics]
      rfl
    exact iff_of_false (not_expects_bind_of_error hraises rfl) fun h => hmetrics h.1

/-- **`from_nvd_cve` raises nothing but what is expected exactly if** the CVE has the shape and,
where a `ValueError` is not expected, its fields are valid. -/
theorem expects_fromNvdCve_iff {b : Bool} {env : NvdEnv} {item : Json} :
    Expects b (fromNvdCve env item) ↔ NvdShaped env b item ∧
      ∀ fields, nvdFields env item = .ok fields → b = true ∨ (env.validate fields).isSome := by
  rw [fromNvdCve, ← expects_nvdFields_iff]
  refine Salvage.only_bind_iff.trans ?_
  refine and_congr_right fun _ => forall₂_congr fun fields _ => ?_
  cases env.validate fields with
  | none => simp [NvdError.caught]
  | some r => simp

end CveManagement
