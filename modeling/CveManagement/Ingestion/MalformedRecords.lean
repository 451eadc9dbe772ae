import CveManagement.Ingestion.NvdRecord

/-!
# Malformed records

Three loops read CVEs with `from_nvd_cve`: over a page of NVD, over a page of VulnCheck, and over
the lines of a file that VulnCheck keeps in S3. Each means to leave out a CVE that it cannot read,
with a warning. But the loops expect the exceptions of a missing key and – the first two – of a bad
value, and not those of a value that is of the wrong type: such a CVE ends the loop, and what comes
after it is never seen. The third loop is not even come to: the client that is to download the file
is given a timeout that `httpx` refuses.

`CveManagement.malformedIsolated_iff` says for which pages each loop yields the records of all CVEs
that can be read, and for which texts the loop over lines would.
-/

namespace CveManagement

open Salvage

/-! ### The loops -/

section Loops

variable (env : NvdEnv)

/-- The record of a CVE that can be read. -/
def parsed (item : Json) : Option NvdCveRecord := (fromNvdCve env item).toOption

/-- `try: yield from_nvd_cve(…)`, with the exceptions that are expected and what the warning about
them evaluates. -/
def rescue (valueErrors : Bool) (warning : Except NvdError Json)
    (record : Except NvdError NvdCveRecord) : Except NvdError (Option NvdCveRecord) :=
  match record with
  | .ok r => .ok (some r)
  | .error e => if e.caught valueErrors then warning.map fun _ => none else .error e

/-- One round over a page of NVD; the warning names the CVE. -/
def nvdVuln (vuln : Json) : Except NvdError (Option NvdCveRecord) :=
  rescue true (do (← vuln.getElse "cve" (.obj [])).getElse "id" (.str "unknown"))
    (fromNvdCve env vuln)

/-- One round over a page of VulnCheck. -/
def vulnCheckItem (item : Json) : Except NvdError (Option NvdCveRecord) :=
  rescue true (item.getElse "id" .null) (fromNvdCve env item)

/-- What `json.loads` raises. -/
inductive LoadsError
  | jsonDecodeError
  /-- Another exception, such as the `ValueError` of a number with too many digits. -/
  | raised (e : PyError)

/-- One round over the lines of a file. -/
def s3Line (loads : Text → Except LoadsError Json) (line : Text) :
    Except NvdError (Option NvdCveRecord) :=
  match loads line with
  | .error .jsonDecodeError => .ok none
  | .error (.raised e) => .error (.raised e)
  -- no `ValueError` is expected here
  | .ok obj => rescue false (.ok .null) (fromNvdCve env obj)

/-- Where `str.splitlines` ends a line. -/
def isLineBoundary (c : Char) : Bool :=
  [10, 11, 12, 13, 28, 29, 30, 0x85, 0x2028, 0x2029].contains c.toNat

/-- `str.splitlines`, from within a line. -/
def splitlinesFrom : Text → Text → List Text
  | line, [] => if line.isEmpty then [] else [line.reverse]
  | line, '\r' :: '\n' :: s => line.reverse :: splitlinesFrom [] s
  | line, c :: s =>
    if isLineBoundary c then line.reverse :: splitlinesFrom [] s else splitlinesFrom (c :: line) s

/-- The lines of a file that the loop looks at. -/
def s3Lines (py : PyText) (text : Text) : List Text :=
  ((splitlinesFrom [] text).map py.strip).filter fun line => !line.isEmpty

/-- The loop of `_stream_s3_ndjson`, over the text of a file. -/
def streamLines (py : PyText) (loads : Text → Except LoadsError Json) (text : Text) :
    List NvdCveRecord × Option NvdError :=
  collect (s3Line env loads) (s3Lines py text)

/-- The seconds that `httpx.Timeout` is given, each of them or not. -/
structure TimeoutArgs where
  default : Option ℚ
  connect : Option ℚ
  read : Option ℚ
  write : Option ℚ
  pool : Option ℚ

/-- The four are given explicitly. -/
def TimeoutArgs.explicit (args : TimeoutArgs) : Bool :=
  args.connect.isSome && args.read.isSome && args.write.isSome && args.pool.isSome

/-- **`httpx.Timeout`**: it wants a default, or all four. -/
structure HttpxTimeout where
  /-- Whether the construction raises. -/
  construct : TimeoutArgs → Except PyError Unit
  construct_of_default : ∀ args, args.default.isSome = true → construct args = .ok ()
  construct_of_explicit : ∀ args, args.explicit = true → construct args = .ok ()
  construct_of_neither : ∀ args, args.default = none → args.explicit = false →
    construct args = .error .valueError

/-- `httpx.Timeout` as documented. -/
def HttpxTimeout.documented : HttpxTimeout where
  construct args :=
    if args.default.isSome || args.explicit then .ok () else .error .valueError
  construct_of_default args h := by rw [h]; rfl
  construct_of_explicit args h := by rw [h, Bool.or_true]; rfl
  construct_of_neither args hdefault hexplicit := by rw [hdefault, hexplicit]; rfl

/-- `httpx.Timeout(read=300.0)`. -/
def s3Timeout : TimeoutArgs := ⟨none, none, some 300, none, none⟩

/-- **`_stream_s3_ndjson`**, of a file with the text: the client is made first, and only an
`httpx.RequestError` is expected of that. -/
def streamS3Ndjson (timeout : HttpxTimeout) (py : PyText) (loads : Text → Except LoadsError Json)
    (text : Text) : List NvdCveRecord × Option NvdError :=
  match timeout.construct s3Timeout with
  | .error e => ([], some (.raised e))
  | .ok () => streamLines env py loads text

/-- A line of a file, where it is neither JSON nor ends the loop, or is a CVE whose fields are
taken and are valid, or whose key is missing. -/
def LineShaped (loads : Text → Except LoadsError Json) (line : Text) : Prop :=
  match loads line with
  | .error .jsonDecodeError => True
  | .error (.raised _) => False
  | .ok obj => NvdShaped env false obj ∧
    ∀ fields, nvdFields env obj = .ok fields → (env.validate fields).isSome

/-- The record of a line. -/
def parsedLine (loads : Text → Except LoadsError Json) (line : Text) : Option NvdCveRecord :=
  (loads line).toOption.bind (parsed env)

end Loops

/-! ### One round -/

section Round

variable {env : NvdEnv} {loads : Text → Except LoadsError Json} {item : Json} {line : Text}

/-- **A round gets through if only what is expected is raised**, and leaves that out. -/
theorem rescue_eq_ok_iff {b : Bool} {warning : Except NvdError Json}
    {record : Except NvdError NvdCveRecord} {o : Option NvdCveRecord}
    (hwarning : Expects b record → ∃ j, warning = .ok j) :
    rescue b warning record = .ok o ↔ Expects b record ∧ o = record.toOption := by
  cases record with
  | ok r =>
    have hround : rescue b warning (.ok r) = .ok (some r) := rfl
    rw [hround, and_iff_right (only_ok.mpr trivial), Except.ok.injEq]
    exact eq_comm
  | error e =>
    have hexpects : Expects b (.error e : Except NvdError NvdCveRecord) ↔ e.caught b = true :=
      only_error
    rw [hexpects]
    by_cases hcaught : e.caught b = true
    · obtain ⟨j, rfl⟩ := hwarning (hexpects.mpr hcaught)
      have hround : rescue b (.ok j) (.error e) = .ok none := if_pos hcaught
      rw [hround, and_iff_right hcaught, Except.ok.injEq]
      exact eq_comm
    · have hround : rescue b warning (.error e) = .error e := if_neg hcaught
      rw [hround]
      exact iff_of_false (fun h => by cases h) fun h => hcaught h.1

/-- A round that expects a `ValueError` gets through if the CVE has the shape. -/
theorem expects_true_fromNvdCve_iff :
    Expects true (fromNvdCve env item) ↔ NvdShaped env true item :=
  expects_fromNvdCve_iff.trans (and_iff_left fun _ _ => .inl rfl)

/-- The warnings raise nothing. -/
theorem nvdWarning_ok (h : NvdShaped env true item) :
    ∃ j, (do (← item.getElse "cve" (.obj [])).getElse "id" (.str "unknown")) = Except.ok j := by
  obtain ⟨hitem, hobj, -⟩ := h
  have hcve : (item.valueOr "cve" (.obj [])).IsObj := by
    rw [recordOf, Json.valueOr] at hobj
    rw [Json.valueOr]
    cases hm : item.arrow "cve" with
    | none => exact ⟨[], rfl⟩
    | some v =>
      rw [hm] at hobj
      exact hobj
  rw [Json.getElse_of_isObj hitem]
  exact ⟨_, Json.getElse_of_isObj hcve⟩

theorem nvdVuln_eq_ok_iff {o : Option NvdCveRecord} :
    nvdVuln env item = .ok o ↔ NvdShaped env true item ∧ o = parsed env item := by
  rw [← expects_true_fromNvdCve_iff]
  exact rescue_eq_ok_iff fun h => nvdWarning_ok (expects_true_fromNvdCve_iff.mp h)

theorem vulnCheckItem_eq_ok_iff {o : Option NvdCveRecord} :
    vulnCheckItem env item = .ok o ↔ NvdShaped env true item ∧ o = parsed env item := by
  rw [← expects_true_fromNvdCve_iff]
  exact rescue_eq_ok_iff fun h =>
    ⟨_, Json.getElse_of_isObj (expects_true_fromNvdCve_iff.mp h).1⟩

theorem s3Line_eq_ok_iff {o : Option NvdCveRecord} :
    s3Line env loads line = .ok o ↔ LineShaped env loads line ∧ o = parsedLine env loads line := by
  rw [s3Line, LineShaped, parsedLine]
  cases loads line with
  | error e =>
    cases e with
    | jsonDecodeError => simp [Except.toOption, eq_comm]
    | raised e => simp
  | ok obj =>
    refine (rescue_eq_ok_iff fun _ => ⟨.null, rfl⟩).trans (and_congr_left fun _ => ?_)
    simp [expects_fromNvdCve_iff]

end Round

/-! ### A page or a file -/

/-- **A loop isolates what is malformed**: it comes to its end, and has yielded the record of every
item that can be read, in order. -/
def Isolates {α : Type} (round : α → Except NvdError (Option NvdCveRecord))
    (record : α → Option NvdCveRecord) (items : List α) : Prop :=
  collect round items = (items.filterMap record, none)

/-- A loop isolates what is malformed exactly if every round of it gets through. -/
theorem isolates_iff {α : Type} {round : α → Except NvdError (Option NvdCveRecord)}
    {record : α → Option NvdCveRecord} {shaped : α → Prop} {items : List α}
    (hround : ∀ a o, round a = .ok o ↔ shaped a ∧ o = record a) :
    Isolates round record items ↔ ∀ a ∈ items, shaped a := by
  refine (collect_eq_iff fun a o h => ((hround a o).mp h).2).trans ?_
  refine forall₂_congr fun a _ => ⟨?_, fun h => ⟨record a, (hround a _).mpr ⟨h, rfl⟩⟩⟩
  rintro ⟨o, ho⟩
  exact ((hround a o).mp ho).1

/-- **No file is read**: the client cannot be made. -/
theorem streamS3Ndjson_eq (env : NvdEnv) (timeout : HttpxTimeout) (py : PyText)
    (loads : Text → Except LoadsError Json) (text : Text) :
    streamS3Ndjson env timeout py loads text = ([], some (.raised .valueError)) := by
  rw [streamS3Ndjson, timeout.construct_of_neither s3Timeout rfl rfl]

/-- **Malformed records are isolated on a page exactly if each item has the shape** of a CVE which
fails in no way but by a missing key or a bad value, **and in no file**, since none is read. The
loop over lines, were it come to, would isolate them exactly if each line is not JSON, or has the
shape of a CVE which fails in no way but by a missing key. -/
theorem malformedIsolated_iff (env : NvdEnv) (timeout : HttpxTimeout) (py : PyText)
    (loads : Text → Except LoadsError Json) (items : List Json) (text : Text) :
    (Isolates (nvdVuln env) (parsed env) items ↔ ∀ item ∈ items, NvdShaped env true item) ∧
      (Isolates (vulnCheckItem env) (parsed env) items ↔
        ∀ item ∈ items, NvdShaped env true item) ∧
      streamS3Ndjson env timeout py loads text ≠
        ((s3Lines py text).filterMap (parsedLine env loads), none) ∧
      (streamLines env py loads text =
          ((s3Lines py text).filterMap (parsedLine env loads), none) ↔
        ∀ line ∈ s3Lines py text, LineShaped env loads line) := by
  refine ⟨isolates_iff fun _ _ => nvdVuln_eq_ok_iff,
    isolates_iff fun _ _ => vulnCheckItem_eq_ok_iff, fun h => ?_,
    isolates_iff fun _ _ => s3Line_eq_ok_iff⟩
  rw [streamS3Ndjson_eq] at h
  cases (Prod.mk.inj h).2

/-- A parser that knows one date, and a validation of fields without scores. -/
def NvdEnv.sample : NvdEnv where
  parse :=
    { float _ := none
      fromisoformat s := if s = "2024-01-01T00:00:00".toList then some 1704067200000000 else none }
  upper := List.map Char.toUpper
  validate f :=
    match f.cveId, f.cvssV3Score, f.cvssV3Vector, f.cvssV2Score, f.severity with
    | .str cveId, .null, .null, .null, .null =>
      some ⟨cveId, f.publishedAt, f.lastModifiedAt, none, none, none, none, f.rawPayload⟩
    | _, _, _, _, _ => none

/-- A CVE of NVD without scores, with more members. -/
def Json.ofCve (cveId : String) (more : List (String × Json)) : Json :=
  .obj [("cve", .obj (("id", .str cveId) :: ("published", .str "2024-01-01T00:00:00") ::
    ("lastModified", .str "2024-01-01T00:00:00") :: more))]

/-- Not even an empty file is read to its end. -/
theorem malformedIsolated_iff_empty :
    streamS3Ndjson .sample .documented .ascii (fun _ => .error .jsonDecodeError) [] ≠ ([], none) :=
  (malformedIsolated_iff .sample .documented .ascii (fun _ => .error .jsonDecodeError) [] []).2.2.1

/-- A page of two CVEs, the first of them with a null for its metrics. -/
def nullPage : List Json :=
  [.ofCve "CVE-2024-0001" [("metrics", .null)], .ofCve "CVE-2024-0002" []]

/-- **A null ends the loop**: the well-formed CVE behind it is not yielded. -/
theorem not_malformedIsolated_null :
    (∃ record ∈ nullPage.filterMap (parsed .sample),
        record ∉ (collect (nvdVuln .sample) nullPage).1) ∧
      ¬Isolates (nvdVuln .sample) (parsed .sample) nullPage := by
  have hraised : collect (nvdVuln .sample) nullPage = ([], some (.raised .attributeError)) := rfl
  refine ⟨⟨_, List.mem_cons_self, ?_⟩, fun h => ?_⟩
  · rw [hraised]
    exact List.not_mem_nil
  · cases hraised.symm.trans h

end CveManagement
