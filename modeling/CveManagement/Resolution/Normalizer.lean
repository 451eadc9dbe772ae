import CveManagement.Library.Rounding
import CveManagement.Query.Local
import CveManagement.Sync.Prefilter

/-!
# The CPE normalizer

`app/resolution/cpe_normalizer.py`: a text that a user has typed becomes a CPE name. The last word
is the version if it begins with a digit, the others are the product, and the CVE mirror is asked
for the vendors and products that resemble it; a scorer picks one of them, and the name is put
together from its fields and the version.

The fields of a candidate are what stands between two colons of a name in the mirror, so that they
have none (`CveManagement.CpeCandidate`), and the name can be taken apart again. Nothing makes sure
of that for the version, which is whatever the user has typed: `CveManagement.roundTrips_iff`.
-/

namespace CveManagement

/-! ### Names -/

section Names

variable (py : PyText)

/-- `_CPE_RE.match(s.lower())`: a beginning of five fields, of which the kind is one letter and the
last two are not empty. -/
def isCpeString (s : Text) : Bool :=
  match (py.lower s).splitColon with
  | cpe :: two :: kind :: vendor :: product :: _ =>
    cpe == "cpe".toList && two == "2.3".toList &&
      [['a'], ['o'], ['h']].contains kind && !vendor.isEmpty && !product.isEmpty
  | _ => false

/-- `s.split()`. -/
def Text.words (s : Text) : List Text := (s.splitOnP py.isSpace).filter fun w => !w.isEmpty

/-- What `_extract_hints` returns, without the vendor, which is always empty. -/
structure CpeHints where
  product : Text
  version : Text

/-- `re.match(r"^\d[\d.]*", word)`: the word *begins* with a digit. -/
def looksNumeric (word : Text) : Bool := word.head?.any py.isDigit

/-- `_extract_hints`. -/
def extractHints (input : Text) : CpeHints :=
  let words := Text.words py (py.strip input)
  let product := fun words : List Text => ['_'].intercalate (words.map py.lower)
  match words.getLast? with
  | none => ⟨[], []⟩
  | some last =>
    -- the last word is numeric: the version
    if looksNumeric py last then ⟨product words.dropLast, last⟩ else ⟨product words, []⟩

/-- `version if version else "*"`. -/
def orStar (version : Text) : Text := if version.isEmpty then ['*'] else version

/-- `_build_cpe`. -/
def buildCpe (part vendor product version : Text) : Text :=
  "cpe:2.3:".toList ++ part ++ [':'] ++ vendor ++ [':'] ++ product ++ [':'] ++ orStar version ++
    ":*:*:*:*:*:*:*".toList

end Names

/-! ### Candidates -/

/-- A field of a name is free of colons. -/
theorem colon_notMem_of_mem_splitColon {s field : Text} (h : field ∈ s.splitColon) :
    ':' ∉ field := by
  rw [Text.splitColon] at h
  induction s generalizing field with
  | nil =>
    obtain rfl := List.mem_singleton.mp h
    exact List.not_mem_nil
  | cons c s ih =>
    rw [List.splitOn_cons_eq_if_modifyHead] at h
    split at h
    · rcases List.mem_cons.mp h with rfl | h
      · exact List.not_mem_nil
      · exact ih h
    · rename_i hc
      obtain ⟨first, rest, hsplit⟩ := List.exists_cons_of_ne_nil (List.splitOn_ne_nil ':' s)
      rw [hsplit, List.modifyHead_cons] at h
      rcases List.mem_cons.mp h with rfl | h
      · rw [List.mem_cons, not_or]
        exact ⟨fun he => hc (beq_iff_eq.mpr he.symm),
          ih (by rw [hsplit]; exact List.mem_cons_self)⟩
      · exact ih (by rw [hsplit]; exact List.mem_cons_of_mem _ h)

/-- `split_part(s, ':', n)`: empty where there is no such field. -/
def splitPart (s : Text) (n : ℕ) : Text := (s.splitColon[n - 1]?).getD []

theorem colon_notMem_splitPart (s : Text) (n : ℕ) : ':' ∉ splitPart s n := by
  rw [splitPart]
  cases hfield : s.splitColon[n - 1]? with
  | none => exact List.not_mem_nil
  | some field => exact colon_notMem_of_mem_splitColon (List.mem_of_getElem? hfield)

/-- **A row of `_CANDIDATES_SQL`**: three fields of a name. -/
structure CpeCandidate where
  vendor : Text
  product : Text
  part : Text
  colon_notMem_vendor : ':' ∉ vendor
  colon_notMem_product : ':' ∉ product
  colon_notMem_part : ':' ∉ part
  deriving DecidableEq

/-- The fields of a name that the query selects. -/
def CpeCandidate.ofName (criteria : Text) : CpeCandidate where
  vendor := splitPart criteria 4
  product := splitPart criteria 5
  part := splitPart criteria 3
  colon_notMem_vendor := colon_notMem_splitPart criteria 4
  colon_notMem_product := colon_notMem_splitPart criteria 5
  colon_notMem_part := colon_notMem_splitPart criteria 3

/-- `rfprocess.extractOne` with its scorer: the position of the choice it takes, and the score. -/
structure FuzzyScorer where
  extractOne : Text → (choices : List Text) → Option (Fin choices.length × ℚ)

/-- What the normalizer takes from outside: the operations on texts, the database, the scorer, and
the settings. -/
structure NormalizerContext where
  py : PyText
  cf : CaseFold
  /-- The text of a value of type `jsonb`. -/
  jsonbOut : Json → String
  /-- The order in which the rows of the query come. -/
  order : RowOrder CpeCandidate
  /-- The query fails, for no reason in the rows. -/
  failing : Text → Bool
  scorer : FuzzyScorer
  autoThreshold : ℚ
  confirmThreshold : ℚ

/-- `_CANDIDATE_LIMIT`. -/
def candidateLimit : ℕ := 500

namespace NormalizerContext

variable (ctx : NormalizerContext)

/-- The condition on `raw_payload->'configurations'`. -/
def hasConfigurations (rawPayload : Json) : Bool :=
  match rawPayload.arrow "configurations" with
  | none | some .null => false
  | some _ => true

/-- The condition on the fields. -/
def resembles (pattern : Text) (c : CpeCandidate) : Bool :=
  ctx.cf.ilike c.product pattern || ctx.cf.ilike c.vendor pattern

/-- `_fetch_candidates`; an error of the query, such as a value that cannot be walked, leaves no
candidates. -/
def fetchCandidates (rawPayloads : List Json) (keyword : Text) : List CpeCandidate :=
  let pattern := ['%'] ++ keyword ++ ['%']
  let entries := Rows.each visibleEntries (rawPayloads.filter hasConfigurations)
  if ctx.failing pattern || entries.error then []
  else
    let rows := (entries.items.filterMap fun entry =>
      (entry.arrowText ctx.jsonbOut "criteria").map fun s => CpeCandidate.ofName s.toList).filter
        (ctx.resembles pattern)
    (ctx.order.arrange rows.dedup).take candidateLimit

/-- The text of a candidate that the scorer compares. -/
def choice (c : CpeCandidate) : Text := c.vendor ++ [':'] ++ c.product

/-- `_fuzzy_match`. -/
def fuzzyMatch (productHint : Text) (candidates : List CpeCandidate) :
    Option CpeCandidate × ℚ :=
  if candidates.isEmpty then (none, 0)
  else
    match ctx.scorer.extractOne productHint (candidates.map choice) with
    | none => (none, 0)
    | some (i, score) =>
      if score < ctx.confirmThreshold then (none, score)
      else (candidates[i.1]?, score)

end NormalizerContext

/-! ### Resolutions -/

/-- The values of `CpeResolution.confidence`. -/
inductive ResolutionConfidence
  | certain
  | uncertain
  | manual
  deriving DecidableEq

/-- The values of `CpeResolution.resolved_by`. -/
inductive ResolvedBy
  | auto
  | manual
  deriving DecidableEq

/-- `CpeResolution`. -/
structure CpeResolution where
  inputString : Text
  resolvedCpe : Text
  confidence : ResolutionConfidence
  matchScore : Option ℚ
  resolvedBy : ResolvedBy
  fromCache : Bool
  deriving DecidableEq

/-- `round(score, 2)`. -/
def roundScore (score : ℚ) : ℚ := Rounding.halfEven (score * 100) / 100

/-- **`CpeNormalizer.normalize`**, on the payloads of the mirror. -/
def normalize (ctx : NormalizerContext) (rawPayloads : List Json) (input : Text) :
    Option CpeResolution :=
  let s := ctx.py.strip input
  if s.isEmpty then none
  else if isCpeString ctx.py s then some ⟨s, s, .certain, some 100, .auto, false⟩
  else
    let hints := extractHints ctx.py s
    if hints.product.isEmpty then none
    else
      match ctx.fuzzyMatch hints.product (ctx.fetchCandidates rawPayloads hints.product) with
      | (none, _) => none
      | (some best, score) =>
        let confidence := if score ≥ ctx.autoThreshold then .certain else .uncertain
        some ⟨s, buildCpe best.part best.vendor best.product hints.version, confidence,
          some (roundScore score), .auto, false⟩

/-! ### Taking a name apart -/

/-- What `_extract_hints` makes of an input, once it is stripped. -/
def NormalizerContext.hints (ctx : NormalizerContext) (input : Text) : CpeHints :=
  extractHints ctx.py (ctx.py.strip input)

/-- **An input is resolved through the fuzzy path**, to a candidate. -/
structure ResolvedTo (ctx : NormalizerContext) (rawPayloads : List Json) (input : Text)
    (c : CpeCandidate) (r : CpeResolution) : Prop where
  freeText : isCpeString ctx.py (ctx.py.strip input) = false
  candidate : ∃ score, ctx.fuzzyMatch (ctx.hints input).product
    (ctx.fetchCandidates rawPayloads (ctx.hints input).product) = (some c, score)
  resolved : normalize ctx rawPayloads input = some r

/-- **The name can be taken apart again**, into the fields of the candidate and the version of the
input, or a star where there is none. -/
structure RoundTrips (c : CpeCandidate) (version : Text) (r : CpeResolution) : Prop where
  vendorProduct : parseCpeVendorProduct r.resolvedCpe = some (c.vendor, c.product)
  version : extractCpeVersion r.resolvedCpe = some (orStar version)

section RoundTrip

variable {ctx : NormalizerContext} {rawPayloads : List Json} {input : Text} {c : CpeCandidate}
  {r : CpeResolution}

/-- What is resolved is put together from the candidate and the version. -/
theorem ResolvedTo.resolvedCpe (h : ResolvedTo ctx rawPayloads input c r) :
    r.resolvedCpe = buildCpe c.part c.vendor c.product (ctx.hints input).version := by
  obtain ⟨hfree, ⟨score, hcandidate⟩, hresolved⟩ := h
  rw [NormalizerContext.hints] at *
  rw [normalize] at hresolved
  simp only [hfree, Bool.false_eq_true, if_false, hcandidate] at hresolved
  split_ifs at hresolved <;> rw [← Option.some.inj hresolved]

/-- A field of a name, up to the next colon. -/
theorem splitColon_append_cons {field : Text} (h : ':' ∉ field) (rest : Text) :
    Text.splitColon (field ++ ':' :: rest) = field :: rest.splitColon :=
  List.splitOn_append_cons_self_of_not_mem h rest

/-- Fields after a beginning, with a colon after each. -/
theorem append_fields {head start two tail stars : Text}
    (hhead : head = start ++ ':' :: (two ++ [':'])) (htail : tail = ':' :: stars)
    (part vendor product version : Text) :
    head ++ part ++ [':'] ++ vendor ++ [':'] ++ product ++ [':'] ++ version ++ tail =
      start ++ ':' :: (two ++ ':' :: (part ++ ':' :: (vendor ++ ':' :: (product ++ ':' ::
        (version ++ ':' :: stars))))) := by
  rw [hhead, htail]
  simp only [List.append_assoc, List.cons_append, List.nil_append]

/-- The fields of a name that was put together: those of the candidate, and then the pieces of what
was made of the version. -/
theorem splitColon_buildCpe (c : CpeCandidate) (version : Text) :
    (buildCpe c.part c.vendor c.product version).splitColon =
      "cpe".toList :: "2.3".toList :: c.part :: c.vendor :: c.product ::
        Text.splitColon (orStar version ++ ':' :: "*:*:*:*:*:*:*".toList) := by
  have hhead : "cpe:2.3:".toList = "cpe".toList ++ ':' :: ("2.3".toList ++ [':']) := by decide
  have htail : ":*:*:*:*:*:*:*".toList = ':' :: "*:*:*:*:*:*:*".toList := by decide
  have hcpe : ':' ∉ "cpe".toList := by decide
  have htwo : ':' ∉ "2.3".toList := by decide
  unfold buildCpe
  rw [append_fields hhead htail, splitColon_append_cons hcpe, splitColon_append_cons htwo,
    splitColon_append_cons c.colon_notMem_part, splitColon_append_cons c.colon_notMem_vendor,
    splitColon_append_cons c.colon_notMem_product]

/-- A text is the first field of a longer one exactly if it has no colon. -/
theorem head?_splitColon_append_cons_iff {field rest : Text} :
    (Text.splitColon (field ++ ':' :: rest)).head? = some field ↔ ':' ∉ field := by
  constructor
  · intro h
    exact colon_notMem_of_mem_splitColon (List.mem_of_head? h)
  · intro h
    rw [splitColon_append_cons h, List.head?_cons]

theorem colon_notMem_orStar_iff {version : Text} : ':' ∉ orStar version ↔ ':' ∉ version := by
  rw [orStar]
  split_ifs with hempty
  · rw [List.isEmpty_iff.mp hempty]
    exact iff_of_true (by decide) List.not_mem_nil
  · exact Iff.rfl

/-- **A resolution can be taken apart again exactly if the version has no colon.** -/
theorem roundTrips_iff (h : ResolvedTo ctx rawPayloads input c r) :
    RoundTrips c (ctx.hints input).version r ↔ ':' ∉ (ctx.hints input).version := by
  have hfields := splitColon_buildCpe c (ctx.hints input).version
  rw [← h.resolvedCpe] at hfields
  have hversion : extractCpeVersion r.resolvedCpe =
      (Text.splitColon (orStar (ctx.hints input).version ++
        ':' :: "*:*:*:*:*:*:*".toList)).head? := by
    rw [extractCpeVersion, hfields, List.head?_eq_getElem?]
    rfl
  rw [← colon_notMem_orStar_iff, ← head?_splitColon_append_cons_iff, ← hversion]
  constructor
  · intro htrip
    exact htrip.version
  · intro hv
    exact ⟨by rw [parseCpeVendorProduct, hfields], hv⟩

end RoundTrip

/-- A mirror with one name in it, and a scorer that takes the first choice. -/
def NormalizerContext.sample : NormalizerContext where
  py := .ascii
  cf := .ascii
  jsonbOut _ := ""
  order := .insertion
  failing _ := false
  scorer := ⟨fun _ choices => if h : 0 < choices.length then some (⟨0, h⟩, 1000 / 13) else none⟩
  autoThreshold := 85
  confirmThreshold := 60

/-- The one candidate. -/
def CpeCandidate.nginx : CpeCandidate := .ofName "cpe:2.3:a:f5:nginx:1.25.1:*:*:*:*:*:*:*".toList

/-- The payloads of that mirror. -/
def nginxPayloads : List Json :=
  [.ofEntries [.ofCriteria "cpe:2.3:a:f5:nginx:1.25.1:*:*:*:*:*:*:*"]]

/-- The resolution of nginx with a version. -/
def CpeResolution.ofNginx (input resolvedCpe : String) : CpeResolution :=
  ⟨input.toList, resolvedCpe.toList, .uncertain, some (1923 / 25), .auto, false⟩

/-- An input that names nginx and a version is resolved to that candidate. -/
theorem resolvedTo_nginx {input : Text} {r : CpeResolution}
    (hfree : isCpeString .ascii (PyText.ascii.strip input) = false)
    (hproduct : (NormalizerContext.sample.hints input).product = "nginx".toList)
    (hresolved : normalize .sample nginxPayloads input = some r) :
    ResolvedTo .sample nginxPayloads input .nginx r where
  freeText := hfree
  candidate := by
    have hfetch : NormalizerContext.sample.fetchCandidates nginxPayloads "nginx".toList =
        [.nginx] := by decide +kernel
    rw [hproduct, hfetch]
    exact ⟨1000 / 13, by decide +kernel⟩
  resolved := hresolved

theorem roundTrips_plain :
    ResolvedTo .sample nginxPayloads "nginx 1.27.0".toList .nginx
        (.ofNginx "nginx 1.27.0" "cpe:2.3:a:f5:nginx:1.27.0:*:*:*:*:*:*:*") ∧
      RoundTrips .nginx "1.27.0".toList
        (.ofNginx "nginx 1.27.0" "cpe:2.3:a:f5:nginx:1.27.0:*:*:*:*:*:*:*") := by
  have hresolved : ResolvedTo .sample nginxPayloads "nginx 1.27.0".toList .nginx
      (.ofNginx "nginx 1.27.0" "cpe:2.3:a:f5:nginx:1.27.0:*:*:*:*:*:*:*") :=
    resolvedTo_nginx (by decide +kernel) (by decide +kernel) (by decide +kernel)
  exact ⟨hresolved, (roundTrips_iff hresolved).mpr (by decide +kernel)⟩

/-- **A version with a colon is cut**: of the version `1:2.3`, an epoch as Debian writes it, the
name has `1`. -/
theorem not_roundTrips_epoch :
    ∃ ctx rawPayloads input c r, ResolvedTo ctx rawPayloads input c r ∧ c.vendor ≠ [] ∧
      c.product ≠ [] ∧ ':' ∉ c.vendor ∧ ':' ∉ c.product ∧
      ¬RoundTrips c (ctx.hints input).version r := by
  refine ⟨.sample, nginxPayloads, "nginx 1:2.3".toList, .nginx,
    .ofNginx "nginx 1:2.3" "cpe:2.3:a:f5:nginx:1:2.3:*:*:*:*:*:*:*",
    resolvedTo_nginx (by decide +kernel) (by decide +kernel) (by decide +kernel), by decide,
    by decide, CpeCandidate.nginx.colon_notMem_vendor, CpeCandidate.nginx.colon_notMem_product,
    fun h => ?_⟩
  have hversion : extractCpeVersion
      "cpe:2.3:a:f5:nginx:1:2.3:*:*:*:*:*:*:*".toList = some ['1'] := by decide
  have htoken : (NormalizerContext.sample.hints "nginx 1:2.3".toList).version =
      "1:2.3".toList := by decide +kernel
  have hcut := h.version
  rw [htoken] at hcut
  exact absurd (hversion.symm.trans hcut) (by decide)

end CveManagement
