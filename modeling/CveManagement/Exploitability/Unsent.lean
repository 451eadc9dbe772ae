import CveManagement.Exploitability.Batches
import CveManagement.Exploitability.Refresh

/-!
# CVEs that were never asked about

Both refreshes write a time for each of their ids as soon as `fetch_intel` has returned: an id
without an answer is booked as one that vulnx does not know. But the call returns, too, when the
daily counter has stopped it, and after a batch that never left. Such ids are booked although
nobody was asked, and count as fresh for days. `CveManagement.onlyAsked_iff` says when that does
not happen: nothing is booked, because the circuit refuses the call or the call raises, or every
id was sent.
-/

namespace CveManagement

/-! ### The callers -/

/-- A refresh: of the job, or of the lazy enrichment, with the ids that it is given. -/
inductive Refresh
  | job (circuit : CircuitBreaker) (query : StaleQuery)
  | lazy (circuit : Option CircuitBreaker) (cveIds : List String)

namespace Refresh

/-- The ids of a refresh. -/
def cveIds (settings : VulnxSettings) (s : IntelStore) : Refresh → List String
  | job _ query => query.cveIds settings s
  | lazy _ cveIds => cveIds

/-- The circuit of a refresh. -/
def circuit : Refresh → Option CircuitBreaker
  | job b _ => some b
  | lazy b _ => b

/-- **One refresh.** -/
def run (py : PyCase) (settings : VulnxSettings) (env : FetchEnv) (daily : DailyCounter)
    (now : Instant) (s : IntelStore) : Refresh → RefreshRun
  | job circuit query => (runExploitabilityRefresh py settings env circuit daily now query s).2
  | lazy circuit cveIds => doRefresh py settings env circuit daily now cveIds s

theorem run_eq (py : PyCase) (settings : VulnxSettings) (env : FetchEnv) (daily : DailyCounter)
    (now : Instant) (s : IntelStore) (r : Refresh) :
    r.run py settings env daily now s =
      doRefresh py settings env r.circuit daily now (r.cveIds settings s) s := by
  cases r with
  | job circuit query => exact runExploitabilityRefresh_eq ..
  | lazy circuit cveIds => rfl

/-- **The ids are stale**: each of them has a row, and no time, or one before all that the clock
reads in the refresh. -/
def Stale (settings : VulnxSettings) (env : FetchEnv) (now : Instant) (s : IntelStore)
    (r : Refresh) : Prop :=
  ∀ cid ∈ r.cveIds settings s, (s.cves.get? cid).isSome = true ∧
    ∀ t, s.exploitabilityUpdatedAt cid = some t → t < now ∧ ∀ i n, t < (env.batches i).clock n

/-- The circuit refuses the call. -/
def Refused (env : FetchEnv) (r : Refresh) : Prop :=
  ∃ b, r.circuit = some b ∧ b.Refuses env.clock.admittedAt

end Refresh

/-- The id was in a batch that left for vulnx. -/
def Asked (py : PyCase) (sent : List (List String)) (cid : String) : Prop :=
  ∃ batch ∈ sent, py.normalize cid ∈ batch

/-- **Only what was asked about gets a time.** -/
def OnlyAsked (py : PyCase) (s : IntelStore) (run : RefreshRun) : Prop :=
  ∀ cid, run.store.exploitabilityUpdatedAt cid ≠ s.exploitabilityUpdatedAt cid →
    Asked py run.sent cid

/-- **The call raises**: one of the batches meets an exception that is not caught, and the counter
lets it through and those before it. -/
def Interrupted (py : PyCase) (env : ℕ → BatchEnv) (batches : List (List String))
    (daily : DailyCounter) : Prop :=
  ∃ i < batches.length, LetsThrough env 0 (batches.take (i + 1)) daily ∧ Raises py (env i)

/-- **All is sent**: no id is blank, the counter lets all batches through, and each of them
leaves. -/
def AsksAll (py : PyCase) (env : ℕ → BatchEnv) (batches : List (List String))
    (daily : DailyCounter) (cveIds : List String) : Prop :=
  (∀ cid ∈ cveIds, py.normalize cid ≠ "") ∧ LetsThrough env 0 batches daily ∧
    ∀ i < batches.length, (env i).exchange.sends = true

/-! ### What is booked -/

section Book

variable {s : IntelStore} {now : Instant} {cveIds : List String} {intel : Intel} {cid : String}

/-- Times that only depend on the id, written one after the other. -/
theorem foldl_stamp {β : Type} (key : β → String) (time : β → Instant) (f : String → Instant)
    (l : List β) (h : ∀ x ∈ l, time x = f (key x)) (times : String → Option Instant)
    (cid : String) :
    l.foldl (fun times x => s.stamp times (key x) (time x)) times cid =
      if cid ∈ l.map key ∧ (s.cves.get? cid).isSome = true then some (f cid) else times cid := by
  induction l generalizing times with
  | nil => simp
  | cons x l ih =>
    rw [List.forall_mem_cons] at h
    rw [List.foldl_cons, ih h.2, IntelStore.stamp, h.1]
    simp only [List.map_cons, List.mem_cons]
    by_cases hcid : cid = key x
    · subst hcid
      by_cases hrow : (s.cves.get? (key x)).isSome = true
      · simp [hrow]
      · simp [hrow]
    · simp only [hcid, false_or]
      split_ifs
      · rfl
      · exact Function.update_of_ne hcid _ _
      · rfl

/-- The time that an id gets. -/
def bookedAt (now : Instant) (intel : Intel) (cid : String) : Instant :=
  (intel cid).elim now FetchedIntel.fetchedAt

/-- The ids that the mapping has. -/
theorem mem_map_updateRows : cid ∈ (cveIds.filterMap fun cid => (intel cid).map fun r =>
    (cid, r)).map Prod.fst ↔ cid ∈ cveIds ∧ (intel cid).isSome = true := by
  rw [List.mem_map]
  constructor
  · rintro ⟨row, hrow, rfl⟩
    obtain ⟨c, hc, hmap⟩ := List.mem_filterMap.mp hrow
    obtain ⟨r, hr, rfl⟩ := Option.map_eq_some_iff.mp hmap
    exact ⟨hc, by rw [hr]; rfl⟩
  · rintro ⟨hmem, hsome⟩
    obtain ⟨r, hr⟩ := Option.isSome_iff_exists.mp hsome
    exact ⟨(cid, r), List.mem_filterMap.mpr ⟨cid, hmem, by rw [hr]; rfl⟩, rfl⟩

/-- **What a refresh books**: a time for each of its ids that has a row. -/
theorem exploitabilityUpdatedAt_book :
    (s.book now cveIds intel).exploitabilityUpdatedAt cid =
      if cid ∈ cveIds ∧ (s.cves.get? cid).isSome = true then some (bookedAt now intel cid)
      else s.exploitabilityUpdatedAt cid := by
  have hfound : ∀ row ∈ cveIds.filterMap fun cid => (intel cid).map fun r => (cid, r),
      row.2.fetchedAt = bookedAt now intel row.1 := by
    intro row hrow
    obtain ⟨c, -, hc⟩ := List.mem_filterMap.mp hrow
    obtain ⟨r, hr, rfl⟩ := Option.map_eq_some_iff.mp hc
    rw [bookedAt, hr, Option.elim_some]
  have hnotFound : ∀ c ∈ cveIds.filter fun cid => (intel cid).isNone,
      now = bookedAt now intel c := by
    intro c hc
    rw [bookedAt, Option.isNone_iff_eq_none.mp (List.mem_filter.mp hc).2, Option.elim_none]
  rw [IntelStore.book]
  refine (foldl_stamp id (fun _ => now) (bookedAt now intel) _ hnotFound _ cid).trans ?_
  have hfirst := foldl_stamp (s := s) Prod.fst (fun row : String × FetchedIntel => row.2.fetchedAt)
    (bookedAt now intel) _ hfound s.exploitabilityUpdatedAt cid
  rw [hfirst]
  simp only [mem_map_updateRows, List.map_id, List.mem_filter]
  cases intel cid with
  | none => simp
  | some r => simp

end Book

/-! ### The refreshes -/

section Refreshes

variable {py : PyCase} {settings : VulnxSettings} {env : FetchEnv} {daily : DailyCounter}
  {now : Instant} {s : IntelStore} {cveIds : List String}

/-- A call that the circuit refuses sends nothing, and returns no mapping. -/
theorem guardedFetch_of_refuses (py : PyCase) (settings : VulnxSettings) (daily : DailyCounter)
    (cveIds : List String) {b : CircuitBreaker} (h : b.Refuses env.clock.admittedAt) :
    (guardedFetch py settings env (some b) daily cveIds).sent = [] ∧
      ∃ e, (guardedFetch py settings env (some b) daily cveIds).result = .error e := by
  simp only [guardedFetch, CircuitBreaker.call_of_refuses h]
  exact ⟨rfl, _, rfl⟩

/-- Any other call is that of `fetch_intel`. -/
theorem guardedFetch_of_not_refused (py : PyCase) (settings : VulnxSettings)
    (daily : DailyCounter) (cveIds : List String) {circuit : Option CircuitBreaker}
    (h : ∀ b, circuit = some b → ¬b.Refuses env.clock.admittedAt) :
    ∃ text : FetchError → CallError,
      (guardedFetch py settings env circuit daily cveIds).sent =
          (fetchIntel py settings.vulnxBatchSize env.batches daily cveIds).sent ∧
        (guardedFetch py settings env circuit daily cveIds).result =
          (fetchIntel py settings.vulnxBatchSize env.batches daily cveIds).result.mapError
            text := by
  cases circuit with
  | none => exact ⟨_, rfl, rfl⟩
  | some b =>
    obtain ⟨hinvoked, hresult⟩ := @CircuitBreaker.call_of_not_refuses Intel b env.clock
      ((fetchIntel py settings.vulnxBatchSize env.batches daily cveIds).result.mapError
        FetchError.text) (h b rfl)
    simp only [guardedFetch, hinvoked, if_true, hresult]
    refine ⟨fun e => .raised e.text, trivial, ?_⟩
    cases (fetchIntel py settings.vulnxBatchSize env.batches daily cveIds).result <;> rfl

/-- A refresh without a mapping books nothing. -/
theorem doRefresh_of_error {circuit : Option CircuitBreaker} {e : CallError}
    (h : (guardedFetch py settings env circuit daily cveIds).result = .error e) :
    (doRefresh py settings env circuit daily now cveIds s).store = s := by
  simp only [doRefresh, h]

/-- A refresh with one books it. -/
theorem doRefresh_of_ok {circuit : Option CircuitBreaker} {intel : Intel}
    (h : (guardedFetch py settings env circuit daily cveIds).result = .ok intel) :
    (doRefresh py settings env circuit daily now cveIds s).store = s.book now cveIds intel := by
  simp only [doRefresh, h]

theorem sent_doRefresh (circuit : Option CircuitBreaker) :
    (doRefresh py settings env circuit daily now cveIds s).sent =
      (guardedFetch py settings env circuit daily cveIds).sent := by
  simp only [doRefresh]
  split <;> rfl

/-- **What a mapping does to stale ids**: each of them gets a time that it did not have. -/
theorem book_ne_iff {intel : Intel} {cid : String}
    (hstale : ∀ cid ∈ cveIds, (s.cves.get? cid).isSome = true ∧
      ∀ t, s.exploitabilityUpdatedAt cid = some t → t < bookedAt now intel cid) :
    (s.book now cveIds intel).exploitabilityUpdatedAt cid ≠ s.exploitabilityUpdatedAt cid ↔
      cid ∈ cveIds := by
  rw [exploitabilityUpdatedAt_book]
  by_cases hmem : cid ∈ cveIds
  · obtain ⟨hrow, hlt⟩ := hstale cid hmem
    rw [if_pos ⟨hmem, hrow⟩]
    exact iff_of_true (fun heq => lt_irrefl _ (hlt _ heq.symm)) hmem
  · rw [if_neg fun h => hmem h.1]
    exact iff_of_false (fun hne => hne rfl) hmem

/-- **All ids were asked about** in a call that returned: none is blank, and all batches were
sent. -/
theorem forall_asked_iff (batchSize : ℤ) {env : ℕ → BatchEnv}
    (hok : ∀ e, (fetchIntel py batchSize env daily cveIds).result ≠ .error e) :
    (∀ cid ∈ cveIds, Asked py (fetchIntel py batchSize env daily cveIds).sent cid) ↔
      AsksAll py env (py.batches batchSize cveIds) daily cveIds := by
  rw [fetchIntel_eq] at hok ⊢
  have hflatten : (py.batches batchSize cveIds).flatten = py.normalized cveIds :=
    flatten_batches batchSize
  have hnodup : (py.batches batchSize cveIds).flatten.Nodup := by
    rw [hflatten]
    exact nodup_normalized
  have hsent := sent_fetchBatches_iff (fun b hb => ne_nil_of_mem_batches hb) hnodup hok
  simp only [Nat.zero_add] at hsent
  rw [AsksAll, ← hsent, hflatten]
  constructor
  · intro h
    have hblank : ∀ cid ∈ cveIds, py.normalize cid ≠ "" := by
      intro cid hcid
      obtain ⟨b, hb, hx⟩ := h cid hcid
      have hmem := List.mem_flatten.mpr ⟨b, mem_of_mem_sent hb, hx⟩
      rw [hflatten, mem_normalized] at hmem
      exact hmem.1
    refine ⟨hblank, fun x hx => ?_⟩
    obtain ⟨-, cid, hcid, rfl⟩ := mem_normalized.mp hx
    exact h cid hcid
  · rintro ⟨hblank, h⟩ cid hcid
    exact h _ (mem_normalized.mpr ⟨hblank cid hcid, cid, hcid, rfl⟩)

/-- The call raises if it is interrupted. -/
theorem error_fetchIntel_iff {batchSize : ℤ} {env : ℕ → BatchEnv} :
    (∃ e, (fetchIntel py batchSize env daily cveIds).result = .error e) ↔
      Interrupted py env (py.batches batchSize cveIds) daily := by
  rw [fetchIntel_eq, error_fetchBatches_iff, Interrupted]
  simp only [Nat.zero_add]

/-- **The times of stale ids are before those that they get.** -/
theorem Refresh.Stale.lt_bookedAt {r : Refresh} (h : r.Stale settings env now s) {intel : Intel}
    (hfetched : (fetchIntel py settings.vulnxBatchSize env.batches daily
      (r.cveIds settings s)).result = .ok intel) :
    ∀ cid ∈ r.cveIds settings s, (s.cves.get? cid).isSome = true ∧
      ∀ t, s.exploitabilityUpdatedAt cid = some t → t < bookedAt now intel cid := by
  intro cid hcid
  obtain ⟨hrow, hlt⟩ := h cid hcid
  refine ⟨hrow, fun t ht => ?_⟩
  rw [bookedAt]
  cases hintel : intel cid with
  | none => exact (hlt t ht).1
  | some record =>
    rw [fetchIntel_eq] at hfetched
    obtain ⟨j, n, hn⟩ :=
      fetchedAt_fetchBatches (fun _ _ hno => absurd hno (by simp)) hfetched cid record hintel
    rw [Option.elim_some, hn]
    exact (hlt t ht).2 j n

end Refreshes

/-- **Stale ids**: a refresh gives a time only to ids that were in a batch sent to vulnx if and
only if the circuit refuses the call, or the call raises, or everything is sent. -/
theorem onlyAsked_iff {py : PyCase} {settings : VulnxSettings} {env : FetchEnv}
    {daily : DailyCounter} {now : Instant} {s : IntelStore} {r : Refresh}
    (h : r.Stale settings env now s) :
    OnlyAsked py s (r.run py settings env daily now s) ↔
      r.Refused env ∨
        Interrupted py env.batches (py.batches settings.vulnxBatchSize (r.cveIds settings s))
          daily ∨
        AsksAll py env.batches (py.batches settings.vulnxBatchSize (r.cveIds settings s)) daily
          (r.cveIds settings s) := by
  rw [Refresh.run_eq]
  by_cases hrefused : r.Refused env
  · -- nothing is booked
    obtain ⟨b, hb, hrefuses⟩ := hrefused
    refine iff_of_true ?_ (.inl ⟨b, hb, hrefuses⟩)
    obtain ⟨-, e, he⟩ := guardedFetch_of_refuses py settings daily (r.cveIds settings s) hrefuses
    intro cid hne
    rw [hb, doRefresh_of_error he] at hne
    exact absurd rfl hne
  · have hnot : ∀ b, r.circuit = some b → ¬b.Refuses env.clock.admittedAt := fun b hb hno =>
      hrefused ⟨b, hb, hno⟩
    obtain ⟨text, hsent, hresult⟩ :=
      guardedFetch_of_not_refused py settings daily (r.cveIds settings s) hnot
    rw [← error_fetchIntel_iff]
    cases hfetched : (fetchIntel py settings.vulnxBatchSize env.batches daily
        (r.cveIds settings s)).result with
    | error e =>
      -- nor here
      refine iff_of_true ?_ (.inr (.inl ⟨e, rfl⟩))
      rw [hfetched] at hresult
      intro cid hne
      rw [doRefresh_of_error hresult] at hne
      exact absurd rfl hne
    | ok intel =>
      rw [hfetched] at hresult
      have hstale := h.lt_bookedAt hfetched
      have hbooked : OnlyAsked py s (doRefresh py settings env r.circuit daily now
          (r.cveIds settings s) s) ↔
          ∀ cid ∈ r.cveIds settings s, Asked py (fetchIntel py settings.vulnxBatchSize env.batches
            daily (r.cveIds settings s)).sent cid := by
        rw [OnlyAsked, doRefresh_of_ok hresult, sent_doRefresh, hsent]
        exact forall_congr' fun cid => imp_congr_left (book_ne_iff hstale)
      rw [hbooked, forall_asked_iff _ fun e he => by rw [hfetched] at he; cases he]
      constructor
      · exact fun hall => .inr (.inr hall)
      · rintro (hno | ⟨e, he⟩ | hall)
        · exact absurd hno hrefused
        · cases he
        · exact hall

/-- **The ids of the job are stale**, on clocks that are less than its days apart. -/
theorem Refresh.stale_job {settings : VulnxSettings} {env : FetchEnv} {now : Instant}
    {s : IntelStore} (circuit : CircuitBreaker) {query : StaleQuery}
    (hnow : query.dbNow - max 1 settings.vulnxStalenessDays * dayMicros ≤ now)
    (hclock : ∀ i n, query.dbNow - max 1 settings.vulnxStalenessDays * dayMicros ≤
      (env.batches i).clock n) :
    (Refresh.job circuit query).Stale settings env now s := by
  intro cid hcid
  obtain ⟨c, hc, rfl⟩ := List.mem_map.mp hcid
  have hmem := (query.order.perm _).mem_iff.mp
    ((List.mem_insertionSort _).mp (List.mem_of_mem_take hc))
  obtain ⟨hrow, hstale⟩ := List.mem_filter.mp hmem
  refine ⟨by rw [Mirror.get?_of_mem hrow]; rfl, fun t ht => ?_⟩
  have hlt : t < query.dbNow - max 1 settings.vulnxStalenessDays * dayMicros :=
    of_decide_eq_true ((Option.all_eq_true _ _).mp hstale t ht)
  exact ⟨hlt.trans_le hnow, fun i n => hlt.trans_le (hclock i n)⟩

/-- A CVE that was never refreshed. -/
def neverRefreshed : IntelStore where
  cves := ⟨[⟨⟨some 10, none, none, none, true, 0, none, none⟩, "CVE-2024-3094", .null⟩],
    List.nodup_singleton _⟩
  exploitabilityUpdatedAt _ := none

/-- The job about it, of the circuit of the registry. -/
def refreshJob : Refresh := .job (.new "vulnx" 5 180) ⟨0, RowOrder.insertion, none⟩

/-- vulnx knows nothing about what it is asked. -/
def unknown : FetchEnv := ⟨fun _ => ⟨[], 0, .response 200 (some (.arr [])), fun _ => 0⟩, ⟨0, 0, 0⟩⟩

theorem stale_refreshJob : refreshJob.Stale ⟨50, 7⟩ unknown 0 neverRefreshed :=
  have hpast : (0 : Instant) - max 1 7 * dayMicros ≤ 0 := by decide
  Refresh.stale_job _ hpast fun _ _ => hpast

/-- With a fresh daily counter the CVE is asked about, and gets its time. -/
theorem onlyAsked_freshCounter : OnlyAsked .ascii neverRefreshed
    (refreshJob.run .ascii ⟨50, 7⟩ unknown ⟨10000, 0, 0⟩ 0 neverRefreshed) := by
  refine (onlyAsked_iff stale_refreshJob).mpr (.inr (.inr ⟨?_, ?_, ?_⟩))
  · decide +kernel
  · decide +kernel
  · exact fun _ _ => rfl

/-- With one that is used up it gets its time, too, and no batch was sent. -/
theorem not_onlyAsked_usedUp : refreshJob.Stale ⟨50, 7⟩ unknown 0 neverRefreshed ∧
    ¬OnlyAsked .ascii neverRefreshed
      (refreshJob.run .ascii ⟨50, 7⟩ unknown ⟨10000, 10000, 0⟩ 0 neverRefreshed) := by
  refine ⟨stale_refreshJob, fun h => ?_⟩
  have hsent : (refreshJob.run .ascii ⟨50, 7⟩ unknown ⟨10000, 10000, 0⟩ 0 neverRefreshed).sent =
      [] := by decide +kernel
  obtain ⟨batch, hbatch, -⟩ := h "CVE-2024-3094" (by decide +kernel)
  rw [hsent] at hbatch
  exact absurd hbatch List.not_mem_nil

end CveManagement
