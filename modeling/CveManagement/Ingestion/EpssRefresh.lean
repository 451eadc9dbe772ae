import CveManagement.Exploitability.Refresh
import CveManagement.Ingestion.EpssClient
import CveManagement.Library.Draining
import Mathlib

/-!
# The refresh of the EPSS scores

`run_epss_refresh` of `app/ingestion/enrichment.py`: a page of the stale CVEs, by KEV and by score,
is asked for at EPSS, and those that have a score are written. The others stay as they are, and so
stale, and stand where they stood at the next run.

A scored CVE is reached in the end exactly if fewer than a page of stale ones without a score can
stand before it (`CveManagement.epssProgress_iff`). The refresh of the exploitability flags
marks the CVEs that have no answer.
-/

namespace CveManagement

/-! ### The table -/

/-- `_EPSS_PAGE`. -/
def epssPage : ℕ := 5000

/-- `_EPSS_STALE_HOURS`. -/
def epssStaleHours : ℤ := 24

/-- An hour, in microseconds. -/
def hourMicros : ℤ := 60 * 60 * 1000000

/-- A value of type `NUMERIC(6,5)`; there is none for a number out of its range. -/
def epssColumn : PyFloat → Option (Option ℚ)
  | .nan => some none
  | .inf _ => none
  | .fin q =>
    let units := Rounding.halfAway (q * 100000)
    if |units| < 1000000 then some (some (units / 100000)) else none

/-- The parameters of `_UPDATE_EPSS_SQL` and of `_INSERT_EPSS_HISTORY_SQL`, as columns hold them. -/
structure EpssRow where
  cveId : String
  score : Option ℚ
  percentile : Option ℚ

/-- The parameters for a score. -/
def EpssScore.row (cveId : String) (s : EpssScore) : Option EpssRow := do
  return ⟨cveId, ← epssColumn s.score, ← epssColumn s.percentile⟩

/-- The tables `cves`, with the other columns of EPSS, and `epss_history`. -/
structure EpssStore where
  cves : Mirror
  epssPercentile : String → Option ℚ
  epssUpdatedAt : String → Option Instant
  epssHistory : List EpssRow

namespace MirrorRow

/-- `CASE WHEN is_kev THEN 0 ELSE 1 END`. -/
def kevRank (c : MirrorRow) : ℕ := if c.isKev then 0 else 1

/-- The `ORDER BY` of `_STALE_CVE_SQL`. -/
def epssOrder (a b : MirrorRow) : Ordering :=
  (compare a.kevRank b.kevRank).then (Select.desc a.coalescedScore b.coalescedScore)

instance transCmp_epssOrder : Std.TransCmp epssOrder :=
  Select.transCmp_then (Select.transCmp_on kevRank) (Select.transCmp_on coalescedScore)

/-- `_UPDATE_EPSS_SQL`, of the column `epss_score`. -/
def epssRows (rows : List EpssRow) : Assignment :=
  .each rows fun row => .ofCve row.cveId fun c => { c with epssScore := row.score }

end MirrorRow

namespace EpssStore

/-- The condition of `_STALE_CVE_SQL`. -/
def staleRow (s : EpssStore) (now : Instant) (c : MirrorRow) : Bool :=
  (s.epssUpdatedAt c.cveId).all fun t => decide (t < now - epssStaleHours * hourMicros)

/-- The stale rows. -/
def stale (s : EpssStore) (now : Instant) : List MirrorRow := s.cves.rows.filter (s.staleRow now)

/-- `_STALE_CVE_SQL`. -/
def staleCveIds (s : EpssStore) (now : Instant) (order : RowOrder MirrorRow) : List String :=
  ((Select.orderBy MirrorRow.epssOrder (order.arrange (s.stale now))).take epssPage).map
    MirrorRow.cveId

/-- `_UPDATE_EPSS_SQL` and `_INSERT_EPSS_HISTORY_SQL`. -/
def write (s : EpssStore) (now : Instant) (rows : List EpssRow) : EpssStore where
  cves := s.cves.update (MirrorRow.epssRows rows)
  epssPercentile := rows.foldl (fun column row => Function.update column row.cveId row.percentile)
    s.epssPercentile
  epssUpdatedAt := rows.foldl (fun column row => Function.update column row.cveId (some now))
    s.epssUpdatedAt
  epssHistory := s.epssHistory ++ rows

end EpssStore

/-! ### The run -/

/-- `EnrichResult`, without the duration. -/
structure EnrichResult where
  job : String
  updated : ℕ
  skipped : ℕ
  errors : ℕ

/-- What a run finds and leaves behind. -/
structure EpssWorld where
  store : EpssStore
  cache : EpssCache
  circuit : CircuitBreaker

/-- What a run meets with: the API, the order of the rows that are tied, and the clock of the
circuit. -/
structure EpssEnv where
  api : EpssApi
  order : RowOrder MirrorRow
  clock : CallClock

/-- What `_do` leaves behind. -/
structure EpssWork where
  store : EpssStore
  cache : EpssCache
  /-- How many are updated, and how many are skipped. -/
  result : Except String (ℕ × ℕ)

/-- **`_do`** of `run_epss_refresh`. -/
def epssWork (py : EpssPython) (now : Instant) (env : EpssEnv) (store : EpssStore)
    (cache : EpssCache) : EpssWork :=
  let cveIds := store.staleCveIds now env.order
  if cveIds.isEmpty then ⟨store, cache, .ok (0, 0)⟩
  else match fetchScores py env.api cache cveIds with
    | .error e => ⟨store, cache, .error e⟩
    | .ok fetch =>
      let scored := cveIds.filterMap fun cveId => (fetch.scores cveId).map fun s => (cveId, s)
      let skipped := cveIds.length - scored.length
      if scored.isEmpty then ⟨store, fetch.cache, .ok (0, skipped)⟩
      else match scored.mapM fun pair => pair.2.row pair.1 with
        -- the transaction is rolled back, but the scores are cached
        | none => ⟨store, fetch.cache, .error "numeric field overflow"⟩
        | some rows => ⟨store.write now rows, fetch.cache, .ok (rows.length, skipped)⟩

/-- **`run_epss_refresh`.** -/
def runEpssRefresh (py : EpssPython) (now : Instant) (env : EpssEnv) (w : EpssWorld) :
    Except String EnrichResult × EpssWorld :=
  let work := epssWork py now env w.store w.cache
  let call := w.circuit.call env.clock work.result
  let after := if call.invoked then ⟨work.store, work.cache, call.circuit⟩
    else { w with circuit := call.circuit }
  match call.result with
  | .ok (updated, skipped) => (.ok ⟨"epss_refresh", updated, skipped, 0⟩, after)
  | .error (.circuitOpen _ _) => (.ok ⟨"epss_refresh", 0, 0, 1⟩, after)
  | .error (.raised e) => (.error e, after)

/-- What a run makes of the world. -/
def EpssWorld.step (py : EpssPython) (now : Instant) (w : EpssWorld) (env : EpssEnv) : EpssWorld :=
  (runEpssRefresh py now env w).2

/-- **The API is available** to a run: the circuit lets the call through, and the requests are
answered. -/
def EpssAvailable (py : EpssPython) (scored : String → Bool) (w : EpssWorld) (env : EpssEnv) :
    Prop :=
  ¬w.circuit.Refuses env.clock.admittedAt ∧ env.api.Answers py scored

/-! ### What a run writes -/

section Write

variable {now : Instant} {store : EpssStore} {rows : List EpssRow}

/-- A probability is in the range of the columns. -/
theorem exists_epssColumn {q : ℚ} (h0 : 0 ≤ q) (h1 : q ≤ 1) :
    ∃ x, epssColumn (.fin q) = some x := by
  have hrange : |Rounding.halfAway (q * 100000)| < 1000000 := by
    refine Rounding.abs_halfAway_lt_iff.mpr ?_
    rw [abs_of_nonneg (by positivity)]
    push_cast
    linarith
  rw [epssColumn, if_pos hrange]
  exact ⟨_, rfl⟩

/-- A score that is a probability can be written. -/
theorem EpssScore.IsProbability.exists_row {s : EpssScore} (h : s.IsProbability)
    (cveId : String) : ∃ row, s.row cveId = some row ∧ row.cveId = cveId := by
  obtain ⟨⟨q, hq, hq0, hq1⟩, r, hr, hr0, hr1⟩ := h
  obtain ⟨x, hx⟩ := exists_epssColumn hq0 hq1
  obtain ⟨y, hy⟩ := exists_epssColumn hr0 hr1
  refine ⟨⟨cveId, x, y⟩, ?_, rfl⟩
  rw [EpssScore.row, hq, hr, hx, hy]
  rfl

/-- So can a list of them. -/
theorem exists_rows {scored : List (String × EpssScore)}
    (h : ∀ pair ∈ scored, pair.2.IsProbability) :
    ∃ rows, (scored.mapM fun pair => pair.2.row pair.1) = some rows ∧
      rows.map EpssRow.cveId = scored.map Prod.fst := by
  induction scored with
  | nil => exact ⟨[], rfl, rfl⟩
  | cons pair scored ih =>
    obtain ⟨hpair, hrest⟩ := List.forall_mem_cons.mp h
    obtain ⟨row, hrow, hid⟩ := hpair.exists_row pair.1
    obtain ⟨rows, hrows, hids⟩ := ih hrest
    refine ⟨row :: rows, ?_, by rw [List.map_cons, List.map_cons, hid, hids]⟩
    rw [List.mapM_cons, hrow, hrows]
    rfl

/-- The time is written for the rows, and for no other. -/
theorem epssUpdatedAt_write (cveId : String) :
    (store.write now rows).epssUpdatedAt cveId =
      if cveId ∈ rows.map EpssRow.cveId then some now else store.epssUpdatedAt cveId := by
  have hfold : ∀ column : String → Option Instant,
      rows.foldl (fun (column : String → Option Instant) row =>
          Function.update column row.cveId (some now)) column cveId =
        if cveId ∈ rows.map EpssRow.cveId then some now else column cveId := by
    induction rows with
    | nil => exact fun _ => rfl
    | cons row rows ih =>
      intro column
      rw [List.foldl_cons, ih, Function.update_apply]
      by_cases hid : cveId = row.cveId
      · simp [hid]
      · simp [hid]
  exact hfold store.epssUpdatedAt

/-- A row that is not written is as it was. -/
theorem set_epssRows_of_not_mem {c : MirrorRow} (h : c.cveId ∉ rows.map EpssRow.cveId) :
    (MirrorRow.epssRows rows).set c = c := by
  have hfold : ∀ rows : List EpssRow, c.cveId ∉ rows.map EpssRow.cveId →
      rows.foldl (fun c row => (MirrorRow.Assignment.ofCve row.cveId fun c : MirrorRow =>
        { c with epssScore := row.score }).set c) c = c := by
    intro rows hrows
    induction rows with
    | nil => rfl
    | cons row rows ih =>
      rw [List.map_cons, List.mem_cons, not_or] at hrows
      rw [List.foldl_cons]
      have hkeep : (MirrorRow.Assignment.ofCve row.cveId fun c : MirrorRow =>
          { c with epssScore := row.score }).set c = c := if_neg hrows.1
      rw [hkeep]
      exact ih hrows.2
  exact hfold rows h

theorem write_nil : store.write now [] = store := by
  have hcves : store.cves.update (MirrorRow.epssRows []) = store.cves := by
    have hset : (MirrorRow.epssRows []).set = id := rfl
    simp only [Mirror.update, hset, List.map_id]
  rw [EpssStore.write, hcves, List.append_nil]
  rfl

/-- **What is stale after the writing** was so before, and has not been written. -/
theorem stale_write : (store.write now rows).stale now =
    (store.stale now).filter fun c => !decide (c.cveId ∈ rows.map EpssRow.cveId) := by
  have hstale : ∀ c, (store.write now rows).staleRow now ((MirrorRow.epssRows rows).set c) =
      (!decide (c.cveId ∈ rows.map EpssRow.cveId) && store.staleRow now c) := by
    intro c
    rw [EpssStore.staleRow, MirrorRow.Assignment.cveId_set, epssUpdatedAt_write]
    by_cases hid : c.cveId ∈ rows.map EpssRow.cveId
    · have hfresh : ¬now < now - epssStaleHours * hourMicros :=
        not_lt.mpr (sub_le_self now (by decide))
      rw [if_pos hid, decide_eq_true hid]
      simpa using hfresh
    · rw [if_neg hid, decide_eq_false hid]
      rfl
  have hrows : (store.write now rows).cves.rows =
      store.cves.rows.map (MirrorRow.epssRows rows).set := rfl
  rw [EpssStore.stale, hrows, List.filter_map, EpssStore.stale, List.filter_filter]
  have hcongr : store.cves.rows.filter
      ((store.write now rows).staleRow now ∘ (MirrorRow.epssRows rows).set) =
        store.cves.rows.filter fun c =>
          !decide (c.cveId ∈ rows.map EpssRow.cveId) && store.staleRow now c :=
    List.filter_congr fun c _ => hstale c
  rw [hcongr]
  refine (List.map_congr_left fun c hc => ?_).trans (List.map_id _)
  have hnot := (Bool.and_eq_true_iff.mp (List.mem_filter.mp hc).2).1
  exact set_epssRows_of_not_mem (by simpa using hnot)

end Write

/-! ### Runs are rounds -/

section Rounds

variable {py : EpssPython} {now : Instant} {scored : String → Bool} {env : EpssEnv}

/-- The rows whose id is on the page are the rows on the page. -/
theorem mem_staleCveIds_iff {store : EpssStore} {order : RowOrder MirrorRow} {c : MirrorRow}
    (hc : c ∈ store.stale now) : c.cveId ∈ store.staleCveIds now order ↔
      c ∈ (Select.orderBy MirrorRow.epssOrder (order.arrange (store.stale now))).take epssPage := by
  rw [EpssStore.staleCveIds, List.mem_map]
  constructor
  · rintro ⟨c', hc', hid⟩
    have hmem : c' ∈ store.stale now :=
      (Ties.sorting_insertionSort order (store.stale now)).perm.mem_iff.mp
        (List.mem_of_mem_take hc')
    have heq : c' = c := List.inj_on_of_nodup_map store.cves.uniqueCve
      (List.mem_filter.mp hmem).1 (List.mem_filter.mp hc).1 hid
    rwa [← heq]
  · intro hc'
    exact ⟨c, hc', rfl⟩

/-- The CVEs of the pairs that are written. -/
theorem FetchesScores.mem_pairs_iff {cache : EpssCache} {cveIds : List String} {fetch : EpssFetch}
    (h : FetchesScores scored cache cveIds fetch) (cveId : String) :
    cveId ∈ (cveIds.filterMap fun cveId =>
        (fetch.scores cveId).map fun s => (cveId, s)).map Prod.fst ↔
      cveId ∈ cveIds ∧ ((cache cveId).isSome = true ∨ scored cveId = true) := by
  rw [List.mem_map]
  constructor
  · rintro ⟨pair, hpair, rfl⟩
    obtain ⟨cveId, hid, hsome⟩ := List.mem_filterMap.mp hpair
    obtain ⟨s, hs, rfl⟩ := Option.map_eq_some_iff.mp hsome
    exact ⟨hid, (h.isSome_iff cveId hid).mp (Option.isSome_of_eq_some hs)⟩
  · rintro ⟨hid, hserved⟩
    obtain ⟨s, hs⟩ := Option.isSome_iff_exists.mp ((h.isSome_iff cveId hid).mpr hserved)
    exact ⟨(cveId, s), List.mem_filterMap.mpr ⟨cveId, hid, by rw [hs]; rfl⟩, rfl⟩

/-- And their scores. -/
theorem FetchesScores.isProbability_of_mem {cache : EpssCache} {cveIds : List String}
    {fetch : EpssFetch} (h : FetchesScores scored cache cveIds fetch) :
    ∀ pair ∈ cveIds.filterMap fun cveId => (fetch.scores cveId).map fun s => (cveId, s),
      pair.2.IsProbability := by
  intro pair hpair
  obtain ⟨cveId, hid, hsome⟩ := List.mem_filterMap.mp hpair
  obtain ⟨s, hs, rfl⟩ := Option.map_eq_some_iff.mp hsome
  exact h.isProbability cveId hid s hs

/-- **What `_do` does if the API answers**: it writes those CVEs of the page that are scored or
cached. -/
theorem epssWork_of_answers (now : Instant) (store : EpssStore) {cache : EpssCache}
    (h : env.api.Answers py scored) (hcache : cache.Sound) :
    ∃ rows cache' counts,
      epssWork py now env store cache = ⟨store.write now rows, cache', .ok counts⟩ ∧
        cache'.Sound ∧
        (∀ cveId, (cache' cveId).isSome = true ∨ scored cveId = true ↔
          (cache cveId).isSome = true ∨ scored cveId = true) ∧
        ∀ cveId, cveId ∈ rows.map EpssRow.cveId ↔ cveId ∈ store.staleCveIds now env.order ∧
          ((cache cveId).isSome = true ∨ scored cveId = true) := by
  unfold epssWork
  dsimp only
  generalize store.staleCveIds now env.order = cveIds
  split_ifs with hempty
  · rw [List.isEmpty_iff] at hempty
    exact ⟨[], cache, _, by rw [write_nil], hcache, fun _ => Iff.rfl, by simp [hempty]⟩
  · obtain ⟨fetch, hfetch, hscores⟩ := fetchScores_of_answers h hcache cveIds
    rw [hfetch]
    dsimp only
    have hpair := hscores.mem_pairs_iff
    have hprobability := hscores.isProbability_of_mem
    generalize (cveIds.filterMap fun cveId =>
      (fetch.scores cveId).map fun s => (cveId, s)) = pairs at hpair hprobability
    split_ifs with hnone
    · rw [List.isEmpty_iff] at hnone
      rw [hnone] at hpair
      exact ⟨[], fetch.cache, _, by rw [write_nil], hscores.sound, hscores.cached_iff, hpair⟩
    · obtain ⟨rows, hrows, hids⟩ := exists_rows hprobability
      rw [hrows]
      exact ⟨rows, fetch.cache, _, rfl, hscores.sound, hscores.cached_iff, by rwa [hids]⟩

/-- The CVEs that a run can serve: they are scored, or cached. -/
def EpssWorld.served (scored : String → Bool) (w : EpssWorld) (c : MirrorRow) : Bool :=
  (w.cache c.cveId).isSome || scored c.cveId

/-- A run that the circuit lets through leaves behind what its work does. -/
theorem step_eq_of_invoked {w : EpssWorld}
    (h : (w.circuit.call env.clock (epssWork py now env w.store w.cache).result).invoked = true) :
    w.step py now env = ⟨(epssWork py now env w.store w.cache).store,
      (epssWork py now env w.store w.cache).cache,
      (w.circuit.call env.clock (epssWork py now env w.store w.cache).result).circuit⟩ := by
  rw [EpssWorld.step, runEpssRefresh, if_pos h]
  split <;> rfl

/-- **A run with the API available** takes a round of the stale rows. -/
theorem step_of_available (now : Instant) {w : EpssWorld} (h : EpssAvailable py scored w env)
    (hcache : w.cache.Sound) :
    (w.step py now env).cache.Sound ∧
      (w.step py now env).served scored = w.served scored ∧
      Draining.RoundBy (w.served scored) epssPage
        (Select.orderBy MirrorRow.epssOrder (env.order.arrange (w.store.stale now)))
        (w.store.stale now) ((w.step py now env).store.stale now) := by
  obtain ⟨hcircuit, hanswers⟩ := h
  obtain ⟨rows, cache', counts, hwork, hsound, hcached, hids⟩ :=
    epssWork_of_answers now w.store hanswers hcache
  have hinvoked : (w.circuit.call env.clock (epssWork py now env w.store w.cache).result).invoked =
      true := (CircuitBreaker.call_of_not_refuses hcircuit).1
  have hstep : w.step py now env = ⟨w.store.write now rows, cache',
      (w.circuit.call env.clock (epssWork py now env w.store w.cache).result).circuit⟩ := by
    rw [step_eq_of_invoked hinvoked, hwork]
  rw [hstep]
  refine ⟨hsound, funext fun c => ?_, fun c => decide (c.cveId ∈ rows.map EpssRow.cveId),
    fun c hc => ?_, stale_write⟩
  · rw [Bool.eq_iff_iff, EpssWorld.served, EpssWorld.served, Bool.or_eq_true, Bool.or_eq_true]
    exact hcached c.cveId
  · rw [decide_eq_true_eq, hids, mem_staleCveIds_iff hc, EpssWorld.served, Bool.or_eq_true]
    exact and_comm

/-- Whatever the order is to be, some run with the API available has it. -/
theorem exists_available (py : EpssPython) (scored : String → Bool) (w : EpssWorld)
    {sorted : List MirrorRow}
    (hsorted : Ties.Sorting (fun a b => (MirrorRow.epssOrder a b).isLE = true) (w.store.stale now)
      sorted) :
    ∃ env, EpssAvailable py scored w env ∧
      Select.orderBy MirrorRow.epssOrder (env.order.arrange (w.store.stale now)) = sorted := by
  obtain ⟨order, horder⟩ := hsorted.exists_order
  refine ⟨⟨answeringApi scored, order, ⟨w.circuit.openUntil, 0, 0⟩⟩, ⟨?_, ?_⟩, horder⟩
  · exact fun hrefuses => lt_irrefl _ hrefuses.2
  · exact answers_answeringApi scored

/-- **The refresh serves the stale rows in rounds.** -/
theorem epssRefresh_serves (py : EpssPython) (now : Instant) (scored : String → Bool)
    (served : MirrorRow → Bool) :
    Draining.Serves (EpssWorld.step py now) (EpssAvailable py scored)
      (fun w => w.cache.Sound ∧ w.served scored = served) (fun w => w.store.stale now)
      (fun a b => (MirrorRow.epssOrder a b).isLE = true) served epssPage where
  inv := by
    rintro w env ⟨hcache, rfl⟩ havailable
    obtain ⟨hcache', hserved, -⟩ := step_of_available now havailable hcache
    exact ⟨hcache', hserved⟩
  round := by
    rintro w env ⟨hcache, rfl⟩ havailable
    obtain ⟨-, -, hround⟩ := step_of_available now havailable hcache
    exact ⟨_, Ties.sorting_insertionSort env.order _, hround⟩
  free := by
    rintro w sorted ⟨hcache, rfl⟩ hsorted
    obtain ⟨env, havailable, rfl⟩ := exists_available py scored w hsorted
    obtain ⟨-, -, hround⟩ := step_of_available now havailable hcache
    exact ⟨env, havailable, hround⟩

end Rounds

/-! ### Progress -/

/-- **The refresh makes progress**: after so many runs at the same instant, with the API available
to each of them, no CVE that is scored is stale. -/
def EpssProgress (py : EpssPython) (now : Instant) (scored : String → Bool) (w : EpssWorld) :
    Prop :=
  ∃ n, ∀ envs : List EpssEnv, envs.length = n →
    Trajectory.AllSteps (EpssWorld.step py now) (EpssAvailable py scored) w envs →
      ∀ c ∈ (Trajectory.run (EpssWorld.step py now) w envs).store.stale now,
        scored c.cveId = false

/-- The stale rows that cannot be served and can stand before one. -/
def EpssWorld.blockers (scored : String → Bool) (now : Instant) (w : EpssWorld) (c : MirrorRow) :
    ℕ :=
  Draining.blockers (fun a b => (MirrorRow.epssOrder a b).isLE = true) (w.served scored)
    (w.store.stale now) c

/-- **It does exactly if fewer than a page of rows stand before each** that is scored and stale, of
those that are stale and neither scored nor cached. -/
theorem epssProgress_iff (py : EpssPython) (now : Instant) (scored : String → Bool) (w : EpssWorld)
    (hcache : w.cache.Sound) :
    EpssProgress py now scored w ↔
      ∀ c ∈ w.store.stale now, scored c.cveId = true → w.blockers scored now c < epssPage := by
  have hiff := (epssRefresh_serves py now scored (w.served scored)).drained_iff
    (fun c => scored c.cveId = true) ⟨hcache, rfl⟩
    fun c hc => by rw [EpssWorld.served, hc, Bool.or_true]
  simp only [Bool.not_eq_true] at hiff
  exact hiff

/-! ### A mirror that is stuck -/

/-- A row that has no score of any kind. -/
def MirrorRow.unscored (cveId : String) (isKev : Bool) : MirrorRow :=
  ⟨⟨none, none, none, none, isKev, 0, none, none⟩, cveId, .null⟩

/-- A page of CVEs of the catalog of KEV, and one that is not in it. -/
def crowdedRows : List MirrorRow :=
  ((List.range epssPage).map fun i => .unscored ("CVE-2024-" ++ (10000 + i).repr) true) ++
    [.unscored "CVE-2023-0001" false]

theorem crowded_id_ne (i : ℕ) : "CVE-2024-" ++ (10000 + i).repr ≠ "CVE-2023-0001" := by
  intro heq
  have hyear := congrArg (fun s : String => s.toList[7]?) heq
  simp at hyear

/-- They are CVEs of their own. -/
def crowdedMirror : Mirror where
  rows := crowdedRows
  uniqueCve := by
    have hids : crowdedRows.map MirrorRow.cveId =
        ((List.range epssPage).map fun i => "CVE-2024-" ++ (10000 + i).repr) ++
          ["CVE-2023-0001"] := by
      rw [crowdedRows, List.map_append, List.map_map]
      rfl
    rw [hids]
    refine List.Nodup.append (List.Nodup.map ?_ List.nodup_range) (List.nodup_singleton _) ?_
    · intro i j hij
      have hrepr : (10000 + i).repr = (10000 + j).repr := (String.append_right_inj _).mp hij
      exact Nat.add_left_cancel (Nat.repr_injective hrepr)
    · rw [List.disjoint_singleton]
      intro hmem
      obtain ⟨i, -, heq⟩ := List.mem_map.mp hmem
      exact crowded_id_ne i heq

/-- A world in which nothing has been fetched. -/
def EpssWorld.fresh (cves : Mirror) : EpssWorld where
  store := ⟨cves, fun _ => none, fun _ => none, []⟩
  cache := fun _ => none
  circuit := buildCircuitBreakers.epss

theorem sound_fresh (cves : Mirror) : (EpssWorld.fresh cves).cache.Sound := fun _ _ h => by cases h

theorem stale_fresh (cves : Mirror) (now : Instant) :
    (EpssWorld.fresh cves).store.stale now = cves.rows :=
  List.filter_eq_self.mpr fun _ _ => rfl

/-- EPSS has a score of the one that is not in the catalog. -/
def scoresOne (cveId : String) : Bool := cveId == "CVE-2023-0001"

/-- The interpreter, as far as numbers go. -/
def EpssPython.numbers : EpssPython := ⟨⟨fun _ => none, fun _ => none⟩, fun _ => ""⟩

theorem epssProgress_fresh :
    EpssProgress .numbers 0 scoresOne
      (.fresh ⟨[.unscored "CVE-2024-0001" true, .unscored "CVE-2023-0001" false], by decide⟩) := by
  refine (epssProgress_iff _ _ _ _ (sound_fresh _)).mpr fun c _ _ => ?_
  refine lt_of_le_of_lt List.countP_le_length ?_
  rw [stale_fresh]
  decide

/-- **The page of the catalog is taken at every run**, and the scored CVE is never reached. -/
theorem not_epssProgress_crowded :
    ¬EpssProgress .numbers 0 scoresOne (.fresh crowdedMirror) := by
  rintro ⟨n, hn⟩
  let w : EpssWorld := .fresh crowdedMirror
  have hlast : MirrorRow.unscored "CVE-2023-0001" false ∈ w.store.stale 0 := by
    rw [stale_fresh]
    exact List.mem_append_right _ (List.mem_singleton.mpr rfl)
  have hpage : epssPage ≤ w.blockers scoresOne 0 (.unscored "CVE-2023-0001" false) := by
    have hrows : w.store.stale 0 = crowdedRows := stale_fresh _ 0
    rw [EpssWorld.blockers, Draining.blockers, hrows, crowdedRows, List.countP_append,
      List.countP_eq_length.mpr, List.length_map, List.length_range]
    · exact Nat.le_add_right _ _
    · intro c hc
      obtain ⟨i, -, rfl⟩ := List.mem_map.mp hc
      have hnone : w.served scoresOne (.unscored ("CVE-2024-" ++ (10000 + i).repr) true) = false :=
        beq_eq_false_iff_ne.mpr (crowded_id_ne i)
      rw [hnone]
      rfl
  obtain ⟨envs, hlength, hrun, hwaits⟩ :=
    (epssRefresh_serves .numbers 0 scoresOne (w.served scoresOne)).exists_waiting
      ⟨sound_fresh _, rfl⟩ hlast rfl hpage n
  have hscored := hn envs hlength hrun _ hwaits
  revert hscored
  decide

end CveManagement
