import CveManagement.Ingestion.NvdRecord
import CveManagement.Library.Slices
import Mathlib

/-!
# The client of EPSS

`EpssClient` of `app/ingestion/epss_client.py`: the scores of some CVEs, out of the cache in Redis
or from the API, which is asked for a hundred at a time. An entry that cannot be read is left out,
and what has been fetched is cached. A CVE of which EPSS has no score is in no answer, and leaves no
trace.
-/

namespace CveManagement

/-- `EpssScore`. -/
structure EpssScore where
  cveId : String
  score : PyFloat
  percentile : PyFloat

/-- The entries `epss:…` of Redis; what is read there is what `_cache_scores` has written. -/
abbrev EpssCache := String → Option EpssScore

/-- What the client gets from the interpreter: `float`, and the text of an exception. -/
structure EpssPython where
  parse : PyParse
  excText : NvdError → String

/-- The requests of a call: the body that answers one for some ids, or what raises. -/
abbrev EpssApi := List String → Except String Json

/-! ### Reading an answer -/

/-- What an entry adds to the results. -/
def readEpssEntry (py : PyParse) (entry : Json) : Except NvdError (Option EpssScore) := do
  let cveId ← entry.item "cve"
  let score ← raising (py.floatOf (← entry.item "epss"))
  let percentile ← raising (py.floatOf (← entry.item "percentile"))
  match cveId with
  | .str id => .ok (some ⟨id, score, percentile⟩)
  | .arr _ | .obj _ => .error (.raised .typeError)
  -- a key of the dictionary, but the id of no CVE
  | _ => .ok none

/-- The body of the loop over the entries, which goes on after a `KeyError` or a `ValueError`. -/
def epssEntry (py : PyParse) (entry : Json) : Except NvdError (Option EpssScore) :=
  match readEpssEntry py entry with
  | .error .keyError | .error (.raised .valueError) => .ok none
  | result => result

/-- The scores of a body, in the order of its entries. -/
def epssScores (py : PyParse) (body : Json) : Except NvdError (List EpssScore) := do
  let data ← body.getElse "data" (.arr [])
  let entries ← raising data.iter
  let scores ← entries.mapM (epssEntry py)
  return scores.reduceOption

/-! ### Fetching -/

/-- `_BATCH`. -/
def epssBatchSize : ℕ := 100

/-- The body of the loop over the batches. -/
def fetchEpssBatch (py : EpssPython) (api : EpssApi) (batch : List String) :
    Except String (List EpssScore) := do
  let body ← api batch
  (epssScores py.parse body).mapError py.excText

/-- `_fetch_from_api`; of the scores of one CVE the last one counts. -/
def fetchFromApi (py : EpssPython) (api : EpssApi) (cveIds : List String) :
    Except String (List EpssScore) := do
  let batches ← (cveIds.slices epssBatchSize).mapM (fetchEpssBatch py api)
  return batches.flatten

/-- The value of a key, when the scores have been put into a dictionary one after the other. -/
def lastScore (scores : List EpssScore) (cveId : String) : Option EpssScore :=
  scores.reverse.find? fun s => s.cveId == cveId

/-- What `fetch_scores` returns, and the cache as it leaves it. -/
structure EpssFetch where
  scores : String → Option EpssScore
  cache : EpssCache

/-- **`fetch_scores`.** -/
def fetchScores (py : EpssPython) (api : EpssApi) (cache : EpssCache) (cveIds : List String) :
    Except String EpssFetch :=
  let uncached := cveIds.filter fun cveId => (cache cveId).isNone
  let cached := fun cveId => if cveId ∈ cveIds then cache cveId else none
  if uncached.isEmpty then .ok ⟨cached, cache⟩
  else do
    let fetched ← fetchFromApi py api uncached
    return {
      scores := fun cveId => (lastScore fetched cveId).or (cached cveId)
      cache := fun cveId => (lastScore fetched cveId).or (cache cveId) }

/-! ### An API that answers -/

/-- A score is a probability, and so is its percentile. -/
def EpssScore.IsProbability (s : EpssScore) : Prop :=
  (∃ q : ℚ, s.score = .fin q ∧ 0 ≤ q ∧ q ≤ 1) ∧
    ∃ q : ℚ, s.percentile = .fin q ∧ 0 ≤ q ∧ q ≤ 1

/-- **The API answers**: each request for at most a hundred CVEs gets a body with the scores of
those that have one, and with no other. -/
def EpssApi.Answers (py : EpssPython) (scored : String → Bool) (api : EpssApi) : Prop :=
  ∀ batch : List String, batch.length ≤ epssBatchSize →
    ∃ scores, fetchEpssBatch py api batch = .ok scores ∧
      (∀ s ∈ scores, s.cveId ∈ batch ∧ scored s.cveId = true ∧ s.IsProbability) ∧
      ∀ cveId ∈ batch, scored cveId = true → ∃ s ∈ scores, s.cveId = cveId

section Answers

variable {py : EpssPython} {scored : String → Bool} {api : EpssApi} {cache : EpssCache}
  {cveIds : List String}

/-- What a dictionary has under a key, one of its items has put there. -/
theorem mem_of_lastScore {scores : List EpssScore} {cveId : String} {s : EpssScore}
    (h : lastScore scores cveId = some s) : s ∈ scores ∧ s.cveId = cveId :=
  ⟨List.mem_reverse.mp (List.mem_of_find?_eq_some h), by simpa using List.find?_some h⟩

theorem isSome_lastScore_iff {scores : List EpssScore} {cveId : String} :
    (lastScore scores cveId).isSome = true ↔ ∃ s ∈ scores, s.cveId = cveId := by
  simp [lastScore]

/-- The scores of some batches. -/
theorem mapM_fetchEpssBatch (h : api.Answers py scored) {batches : List (List String)}
    (hsize : ∀ batch ∈ batches, batch.length ≤ epssBatchSize) :
    ∃ results, batches.mapM (fetchEpssBatch py api) = .ok results ∧
      (∀ s ∈ results.flatten,
        s.cveId ∈ batches.flatten ∧ scored s.cveId = true ∧ s.IsProbability) ∧
      ∀ cveId ∈ batches.flatten, scored cveId = true → ∃ s ∈ results.flatten, s.cveId = cveId := by
  induction batches with
  | nil => exact ⟨[], rfl, by simp, by simp⟩
  | cons batch batches ih =>
    obtain ⟨hbatch, hrest⟩ := List.forall_mem_cons.mp hsize
    obtain ⟨scores, hscores, hsound, hcomplete⟩ := h batch hbatch
    obtain ⟨results, hresults, ihsound, ihcomplete⟩ := ih hrest
    refine ⟨scores :: results, ?_, fun s hs => ?_, fun cveId hid hscored => ?_⟩
    · rw [List.mapM_cons, hscores, hresults]
      rfl
    · rw [List.flatten_cons, List.mem_append] at hs ⊢
      rcases hs with hs | hs
      · exact ⟨.inl (hsound s hs).1, (hsound s hs).2⟩
      · exact ⟨.inr (ihsound s hs).1, (ihsound s hs).2⟩
    · rw [List.flatten_cons, List.mem_append] at hid
      rcases hid with hid | hid
      · obtain ⟨s, hs, heq⟩ := hcomplete cveId hid hscored
        exact ⟨s, List.mem_append_left _ hs, heq⟩
      · obtain ⟨s, hs, heq⟩ := ihcomplete cveId hid hscored
        exact ⟨s, List.mem_append_right _ hs, heq⟩

/-- **The scores of an API that answers.** -/
theorem fetchFromApi_of_answers (h : api.Answers py scored) (cveIds : List String) :
    ∃ scores, fetchFromApi py api cveIds = .ok scores ∧
      (∀ s ∈ scores, s.cveId ∈ cveIds ∧ scored s.cveId = true ∧ s.IsProbability) ∧
      ∀ cveId ∈ cveIds, scored cveId = true → ∃ s ∈ scores, s.cveId = cveId := by
  have hsize : ∀ batch ∈ cveIds.slices epssBatchSize, batch.length ≤ epssBatchSize :=
    fun batch hbatch => List.length_le_of_mem_slices hbatch
  obtain ⟨results, hresults, hsound, hcomplete⟩ := mapM_fetchEpssBatch h hsize
  rw [List.flatten_slices (by decide)] at hsound hcomplete
  exact ⟨results.flatten, by rw [fetchFromApi, hresults]; rfl, hsound, hcomplete⟩

/-- All that is cached is a probability. -/
def EpssCache.Sound (cache : EpssCache) : Prop :=
  ∀ cveId s, cache cveId = some s → s.cveId = cveId ∧ s.IsProbability

/-- **What a call returns if the API answers**: of the CVEs it is about, those have a score that are
cached or that EPSS scores, and nothing but these scores gets into the cache. -/
structure FetchesScores (scored : String → Bool) (cache : EpssCache) (cveIds : List String)
    (fetch : EpssFetch) : Prop where
  isSome_iff : ∀ cveId ∈ cveIds,
    (fetch.scores cveId).isSome = true ↔ (cache cveId).isSome = true ∨ scored cveId = true
  isProbability : ∀ cveId ∈ cveIds, ∀ s, fetch.scores cveId = some s → s.IsProbability
  sound : fetch.cache.Sound
  cached_iff : ∀ cveId, (fetch.cache cveId).isSome = true ∨ scored cveId = true ↔
    (cache cveId).isSome = true ∨ scored cveId = true

/-- The scores of CVEs that are all cached. -/
theorem fetchesScores_cached (hcache : cache.Sound)
    (hall : ∀ cveId ∈ cveIds, (cache cveId).isSome = true) :
    FetchesScores scored cache cveIds
      ⟨fun cveId => if cveId ∈ cveIds then cache cveId else none, cache⟩ where
  isSome_iff cveId hid := by
    dsimp only
    rw [if_pos hid]
    exact iff_of_true (hall cveId hid) (.inl (hall cveId hid))
  isProbability cveId hid s hs := by
    dsimp only at hs
    rw [if_pos hid] at hs
    exact (hcache cveId s hs).2
  sound := hcache
  cached_iff _ := Iff.rfl

/-- The scores that are cached, with those that have been fetched. -/
theorem fetchesScores_fetched (hcache : cache.Sound) {fetched : List EpssScore}
    (hsound : ∀ s ∈ fetched, scored s.cveId = true ∧ s.IsProbability)
    (hcomplete : ∀ cveId ∈ cveIds, cache cveId = none → scored cveId = true →
      ∃ s ∈ fetched, s.cveId = cveId) :
    FetchesScores scored cache cveIds
      ⟨fun cveId => (lastScore fetched cveId).or (if cveId ∈ cveIds then cache cveId else none),
        fun cveId => (lastScore fetched cveId).or (cache cveId)⟩ := by
  have hscored : ∀ cveId, (lastScore fetched cveId).isSome = true → scored cveId = true := by
    intro cveId hsome
    obtain ⟨s, hs, rfl⟩ := isSome_lastScore_iff.mp hsome
    exact (hsound s hs).1
  have hlast : ∀ cveId s, (lastScore fetched cveId).or (cache cveId) = some s →
      s.cveId = cveId ∧ s.IsProbability := by
    intro cveId s hs
    rcases Option.or_eq_some_iff.mp hs with hs | ⟨-, hs⟩
    · obtain ⟨hmem, hid⟩ := mem_of_lastScore hs
      exact ⟨hid, (hsound s hmem).2⟩
    · exact hcache cveId s hs
  refine ⟨fun cveId hid => ?_, fun cveId hid s hs => ?_, hlast, fun cveId => ?_⟩
  · dsimp only
    rw [if_pos hid, Option.isSome_or, Bool.or_eq_true]
    constructor
    · rintro (hsome | hsome)
      · exact .inr (hscored cveId hsome)
      · exact .inl hsome
    · rintro (hsome | hyes)
      · exact .inr hsome
      · cases hentry : cache cveId with
        | some s => exact .inr rfl
        | none => exact .inl (isSome_lastScore_iff.mpr (hcomplete cveId hid hentry hyes))
  · dsimp only at hs
    rw [if_pos hid] at hs
    exact (hlast cveId s hs).2
  · dsimp only
    rw [Option.isSome_or, Bool.or_eq_true]
    constructor
    · rintro ((hsome | hsome) | hyes)
      · exact .inr (hscored cveId hsome)
      · exact .inl hsome
      · exact .inr hyes
    · rintro (hsome | hyes)
      · exact .inl (.inr hsome)
      · exact .inr hyes

theorem fetchScores_of_answers (h : api.Answers py scored) (hcache : cache.Sound)
    (cveIds : List String) :
    ∃ fetch, fetchScores py api cache cveIds = .ok fetch ∧
      FetchesScores scored cache cveIds fetch := by
  unfold fetchScores
  dsimp only
  split_ifs with hempty
  · rw [List.isEmpty_iff, List.filter_eq_nil_iff] at hempty
    refine ⟨_, rfl, fetchesScores_cached hcache fun cveId hid => ?_⟩
    exact Option.isSome_iff_ne_none.mpr (by simpa using hempty cveId hid)
  · obtain ⟨fetched, hfetched, hsound, hcomplete⟩ :=
      fetchFromApi_of_answers h (cveIds.filter fun cveId => (cache cveId).isNone)
    rw [hfetched]
    refine ⟨_, rfl, fetchesScores_fetched hcache (fun s hs => (hsound s hs).2) ?_⟩
    intro cveId hid hnone hyes
    exact hcomplete cveId (List.mem_filter.mpr ⟨hid, by rw [hnone]; rfl⟩) hyes

/-- An entry of an answer. -/
def epssEntryOf (cveId : String) : Json :=
  .obj [("cve", .str cveId), ("epss", .num (1 / 2)), ("percentile", .num (1 / 2))]

/-- An API that gives the same score to all that have one. -/
def answeringApi (scored : String → Bool) : EpssApi := fun batch =>
  .ok (.obj [("data", .arr ((batch.filter scored).map epssEntryOf))])

theorem epssEntry_epssEntryOf (py : PyParse) (cveId : String) :
    epssEntry py (epssEntryOf cveId) = .ok (some ⟨cveId, .fin (1 / 2), .fin (1 / 2)⟩) := by
  have hhalf : py.floatOf (.num (1 / 2)) = .ok (.fin (1 / 2)) :=
    PyParse.floatOf_num (by decide +kernel)
  have hread : readEpssEntry py (epssEntryOf cveId) = (do
      let score ← raising (py.floatOf (.num (1 / 2)))
      let percentile ← raising (py.floatOf (.num (1 / 2)))
      .ok (some ⟨cveId, score, percentile⟩)) := rfl
  rw [epssEntry, hread, hhalf]
  rfl

theorem fetchEpssBatch_answeringApi (scored : String → Bool) (batch : List String) :
    fetchEpssBatch py (answeringApi scored) batch = .ok ((batch.filter scored).map fun cveId =>
      ⟨cveId, .fin (1 / 2), .fin (1 / 2)⟩) := by
  have hentries : ((batch.filter scored).map epssEntryOf).mapM (epssEntry py.parse) =
      .ok ((batch.filter scored).map fun cveId =>
        some (⟨cveId, .fin (1 / 2), .fin (1 / 2)⟩ : EpssScore)) := by
    rw [List.mapM_map]
    exact mapM_eq_ok fun cveId _ => epssEntry_epssEntryOf py.parse cveId
  have hscores : epssScores py.parse
      (.obj [("data", .arr ((batch.filter scored).map epssEntryOf))]) =
        .ok (((batch.filter scored).map fun cveId =>
          some (⟨cveId, .fin (1 / 2), .fin (1 / 2)⟩ : EpssScore)).reduceOption) := by
    have hstep : epssScores py.parse
        (.obj [("data", .arr ((batch.filter scored).map epssEntryOf))]) =
          ((batch.filter scored).map epssEntryOf).mapM (epssEntry py.parse) >>= fun scores =>
            .ok scores.reduceOption := rfl
    rw [hstep, hentries]
    rfl
  have hstep : fetchEpssBatch py (answeringApi scored) batch =
      (epssScores py.parse
        (.obj [("data", .arr ((batch.filter scored).map epssEntryOf))])).mapError py.excText := rfl
  rw [hstep, hscores, List.reduceOption, List.filterMap_map]
  simp [Except.mapError]

/-- **It answers**, whatever the scored CVEs are. -/
theorem answers_answeringApi (scored : String → Bool) :
    (answeringApi scored).Answers py scored := by
  intro batch hsize
  refine ⟨_, fetchEpssBatch_answeringApi scored batch, fun s hs => ?_, fun cveId hid hscored => ?_⟩
  · obtain ⟨cveId, hid, rfl⟩ := List.mem_map.mp hs
    obtain ⟨hmem, hscored⟩ := List.mem_filter.mp hid
    exact ⟨hmem, hscored, ⟨1 / 2, rfl, by norm_num, by norm_num⟩,
      ⟨1 / 2, rfl, by norm_num, by norm_num⟩⟩
  · exact ⟨_, List.mem_map.mpr ⟨cveId, List.mem_filter.mpr ⟨hid, hscored⟩, rfl⟩, rfl⟩

end Answers

end CveManagement
