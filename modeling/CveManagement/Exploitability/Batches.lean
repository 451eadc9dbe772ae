import CveManagement.Exploitability.VulnxClient

/-!
# What a call of `fetch_intel` sends

The loop of `fetch_intel` is described by three things that can be read off what its batches meet
with: how far the daily counter lets them through (`CveManagement.LetsThrough`), whether one of
them raises what is not caught (`CveManagement.Raises`), and whether its body leaves. The call
raises if a batch does that the counter lets through (`CveManagement.error_fetchBatches_iff`); if
it returns, it has sent everything exactly if the counter lets all batches through and all of them
leave (`CveManagement.sent_fetchBatches_iff`).
-/

namespace CveManagement

/-! ### One round of the loop -/

section Fetch

variable {py : PyCase} {env : ℕ → BatchEnv}

/-- **The counter lets through** the batches from the one with a number on. -/
def LetsThrough (env : ℕ → BatchEnv) : ℕ → List (List String) → DailyCounter → Prop
  | _, [], _ => True
  | i, batch :: batches, daily =>
    ((env i).consume daily batch.length).1 = true ∧
      LetsThrough env (i + 1) batches ((env i).consume daily batch.length).2

instance : ∀ i batches daily, Decidable (LetsThrough env i batches daily)
  | _, [], _ => inferInstanceAs (Decidable True)
  | i, batch :: batches, daily =>
    have := instDecidableLetsThrough (i + 1) batches ((env i).consume daily batch.length).2
    inferInstanceAs (Decidable (_ ∧ _))

/-- The batch meets an exception that `fetch_intel` does not catch. -/
def Raises (py : PyCase) (env : BatchEnv) : Prop :=
  ∃ e, fetchBatch py env = .error e ∧ e.caught = false

/-- **One round**: the counter refuses the batch, which ends the call; or the batch raises what is
not caught, which ends it too; or the loop goes on, with what the batch has answered. -/
theorem fetchBatches_cases (i : ℕ) (batch : List String) (batches : List (List String))
    (daily : DailyCounter) (results : Intel) :
    (((env i).consume daily batch.length).1 = false ∧
      fetchBatches py env i (batch :: batches) daily results =
        ⟨((env i).consume daily batch.length).2, [], .ok results⟩) ∨
    (((env i).consume daily batch.length).1 = true ∧ Raises py (env i) ∧
      ∃ e, fetchBatches py env i (batch :: batches) daily results =
        ⟨((env i).consume daily batch.length).2, if (env i).exchange.sends then [batch] else [],
          .error e⟩) ∨
    (((env i).consume daily batch.length).1 = true ∧ ¬Raises py (env i) ∧
      ∃ results', (∀ cid, results' cid = results cid ∨ ∃ intel,
          fetchBatch py (env i) = .ok intel ∧ results' cid = intel cid) ∧
        (fetchBatches py env i (batch :: batches) daily results).result =
          (fetchBatches py env (i + 1) batches ((env i).consume daily batch.length).2
            results').result ∧
        (fetchBatches py env i (batch :: batches) daily results).sent =
          (if (env i).exchange.sends then [batch] else []) ++
            (fetchBatches py env (i + 1) batches ((env i).consume daily batch.length).2
              results').sent) := by
  rw [fetchBatches]
  split
  · next heq =>
    rw [heq]
    exact .inl ⟨rfl, rfl⟩
  · next heq =>
    rw [heq]
    cases hfetch : fetchBatch py (env i) with
    | ok intel =>
      have hraises : ¬Raises py (env i) := by
        rintro ⟨e, he, -⟩
        rw [hfetch] at he
        cases he
      refine .inr (.inr ⟨rfl, hraises, fun cid => (intel cid).or (results cid), fun cid => ?_,
        rfl, rfl⟩)
      change (intel cid).or (results cid) = _ ∨ ∃ intel', _ ∧ (intel cid).or (results cid) = _
      cases hcid : intel cid with
      | none => exact .inl Option.none_or
      | some r => exact .inr ⟨intel, rfl, hcid.symm⟩
    | error e =>
      cases hcaught : e.caught with
      | true =>
        have hraises : ¬Raises py (env i) := by
          rintro ⟨e', he', hno⟩
          rw [hfetch] at he'
          cases he'
          rw [hcaught] at hno
          cases hno
        exact .inr (.inr ⟨rfl, hraises, results, fun _ => .inl rfl, by simp only [hcaught, if_true],
          by simp only [hcaught, if_true]⟩)
      | false =>
        refine .inr (.inl ⟨rfl, ⟨e, hfetch, hcaught⟩, e, ?_⟩)
        simp only [hcaught, Bool.false_eq_true, if_false]

end Fetch

/-! ### What is sent -/

section Batches

variable {py : PyCase} {env : ℕ → BatchEnv} {batches : List (List String)}

/-- **When the loop raises.** -/
theorem error_fetchBatches_iff : ∀ {i : ℕ} {daily : DailyCounter} {results : Intel},
    (∃ e, (fetchBatches py env i batches daily results).result = .error e) ↔
      ∃ j < batches.length, LetsThrough env i (batches.take (j + 1)) daily ∧
        Raises py (env (i + j)) := by
  induction batches with
  | nil =>
    intro i daily results
    simp [fetchBatches]
  | cons batch batches ih =>
    intro i daily results
    rcases fetchBatches_cases i batch batches daily results with
      ⟨hlet, he⟩ | ⟨hlet, hraises, e, he⟩ | ⟨hlet, hraises, results', -, hresult, -⟩
    · rw [he]
      refine iff_of_false (fun ⟨e, hno⟩ => absurd hno (by simp)) ?_
      rintro ⟨j, -, hthrough, -⟩
      have hhead : ((env i).consume daily batch.length).1 = true := hthrough.1
      rw [hlet] at hhead
      exact absurd hhead (by decide)
    · rw [he]
      exact iff_of_true ⟨e, rfl⟩ ⟨0, Nat.succ_pos _, ⟨hlet, trivial⟩, hraises⟩
    · rw [hresult, ih]
      constructor
      · rintro ⟨j, hj, hthrough, hr⟩
        refine ⟨j + 1, Nat.succ_lt_succ hj, ⟨hlet, hthrough⟩, ?_⟩
        rwa [← Nat.add_right_comm, Nat.add_assoc] at hr
      · rintro ⟨j, hj, hthrough, hr⟩
        cases j with
        | zero => exact absurd hr hraises
        | succ j =>
          refine ⟨j, Nat.lt_of_succ_lt_succ hj, hthrough.2, ?_⟩
          rwa [Nat.add_right_comm, Nat.add_assoc]

/-- What a round sends is its batch. -/
theorem eq_of_mem_sent {b batch : List String} {e : BatchEnv}
    (hb : b ∈ if e.exchange.sends then [batch] else []) : b = batch := by
  split_ifs at hb
  · exact List.mem_singleton.mp hb
  · exact absurd hb List.not_mem_nil

/-- Only batches are sent. -/
theorem mem_of_mem_sent {b : List String} : ∀ {i : ℕ} {daily : DailyCounter} {results : Intel},
    b ∈ (fetchBatches py env i batches daily results).sent → b ∈ batches := by
  induction batches with
  | nil =>
    intro i daily results hb
    exact hb
  | cons batch batches ih =>
    intro i daily results hb
    rcases fetchBatches_cases i batch batches daily results with
      ⟨-, he⟩ | ⟨-, -, e, he⟩ | ⟨-, -, results', -, -, hsent⟩
    · rw [he] at hb
      exact absurd hb List.not_mem_nil
    · rw [he] at hb
      exact List.mem_cons.mpr (.inl (eq_of_mem_sent hb))
    · rw [hsent] at hb
      rcases List.mem_append.mp hb with hb | hb
      · exact List.mem_cons.mpr (.inl (eq_of_mem_sent hb))
      · exact List.mem_cons_of_mem _ (ih hb)

/-- **All is sent** if the first batch is, and all of the others: a CVE is in one batch only. -/
theorem all_sent_cons_iff {batch : List String} {sent : List (List String)} (sends : Bool)
    (hne : batch ≠ []) (hnodup : (batch :: batches).flatten.Nodup)
    (hsent : ∀ b ∈ sent, b ∈ batches) :
    (∀ x ∈ (batch :: batches).flatten, ∃ b ∈ (if sends = true then [batch] else []) ++ sent,
        x ∈ b) ↔
      sends = true ∧ ∀ x ∈ batches.flatten, ∃ b ∈ sent, x ∈ b := by
  rw [List.flatten_cons, List.nodup_append] at hnodup
  obtain ⟨-, -, hdisjoint⟩ := hnodup
  constructor
  · intro hall
    have hsends : sends = true := by
      obtain ⟨x, hx⟩ := List.exists_mem_of_ne_nil batch hne
      obtain ⟨b, hb, hxb⟩ := hall x (List.mem_append_left _ hx)
      by_contra hno
      rw [if_neg hno, List.nil_append] at hb
      exact hdisjoint x hx x (List.mem_flatten.mpr ⟨b, hsent b hb, hxb⟩) rfl
    refine ⟨hsends, fun y hy => ?_⟩
    obtain ⟨b, hb, hyb⟩ := hall y (List.mem_append_right _ hy)
    rw [if_pos hsends] at hb
    rcases List.mem_append.mp hb with hb | hb
    · rw [List.mem_singleton.mp hb] at hyb
      exact absurd rfl (hdisjoint y hyb y hy)
    · exact ⟨b, hb, hyb⟩
  · rintro ⟨hsends, htail⟩ y hy
    rw [if_pos hsends]
    rcases List.mem_append.mp hy with hy | hy
    · exact ⟨batch, List.mem_append_left _ (List.mem_singleton_self _), hy⟩
    · obtain ⟨b, hb, hyb⟩ := htail y hy
      exact ⟨b, List.mem_append_right _ hb, hyb⟩

/-- The batches from a number on leave if the first one does, and those after it. -/
theorem forall_sends_succ_iff {i n : ℕ} :
    (∀ j < n + 1, (env (i + j)).exchange.sends = true) ↔
      (env i).exchange.sends = true ∧ ∀ j < n, (env (i + 1 + j)).exchange.sends = true := by
  constructor
  · intro hall
    refine ⟨hall 0 (Nat.succ_pos n), fun j hj => ?_⟩
    have hsends := hall (j + 1) (Nat.succ_lt_succ hj)
    rwa [Nat.add_right_comm, Nat.add_assoc]
  · rintro ⟨hfirst, hrest⟩ j hj
    cases j with
    | zero => exact hfirst
    | succ j =>
      have hsends := hrest j (Nat.lt_of_succ_lt_succ hj)
      rwa [Nat.add_right_comm, Nat.add_assoc] at hsends

/-- **When all is sent**, in a loop that does not raise: the counter lets every batch through, and
every batch leaves. -/
theorem sent_fetchBatches_iff (hne : ∀ b ∈ batches, b ≠ []) (hnodup : batches.flatten.Nodup) :
    ∀ {i : ℕ} {daily : DailyCounter} {results : Intel},
      (∀ e, (fetchBatches py env i batches daily results).result ≠ .error e) →
      ((∀ x ∈ batches.flatten, ∃ b ∈ (fetchBatches py env i batches daily results).sent, x ∈ b) ↔
        LetsThrough env i batches daily ∧
          ∀ j < batches.length, (env (i + j)).exchange.sends = true) := by
  induction batches with
  | nil =>
    intro i daily results _
    simp [LetsThrough]
  | cons batch batches ih =>
    intro i daily results hok
    rw [List.forall_mem_cons] at hne
    have hrest : batches.flatten.Nodup := by
      rw [List.flatten_cons, List.nodup_append] at hnodup
      exact hnodup.2.1
    rcases fetchBatches_cases i batch batches daily results with
      ⟨hlet, he⟩ | ⟨-, -, e, he⟩ | ⟨hlet, -, results', -, hresult, hsent⟩
    · -- nothing more is sent, and this batch is not empty
      rw [he]
      refine iff_of_false (fun hall => ?_) fun h => ?_
      · obtain ⟨x, hx⟩ := List.exists_mem_of_ne_nil batch hne.1
        obtain ⟨b, hb, -⟩ := hall x (List.mem_flatten.mpr ⟨batch, List.mem_cons_self, hx⟩)
        exact absurd hb List.not_mem_nil
      · have hthrough := h.1.1
        rw [hlet] at hthrough
        exact absurd hthrough (by decide)
    · rw [he] at hok
      exact absurd rfl (hok e)
    · rw [hresult] at hok
      rw [hsent, all_sent_cons_iff _ hne.1 hnodup fun b hb => mem_of_mem_sent hb,
        ih hne.2 hrest hok, LetsThrough, and_iff_right hlet, List.length_cons,
        forall_sends_succ_iff, and_left_comm]

end Batches

/-! ### Ids and batches -/

section Ids

variable {py : PyCase} {x : String} {cveIds : List String}

/-- What the loop over the ids collects. -/
theorem nodup_normalizedFrom (seen : List String) (hseen : seen.Nodup) :
    (cveIds.foldl py.collect seen).Nodup ∧
      ∀ x, x ∈ cveIds.foldl py.collect seen ↔
        x ∈ seen ∨ x ≠ "" ∧ ∃ cid ∈ cveIds, py.normalize cid = x := by
  induction cveIds generalizing seen with
  | nil => simp [hseen]
  | cons cid cveIds ih =>
    rw [List.foldl_cons, PyCase.collect]
    by_cases hnew : py.normalize cid ≠ "" ∧ py.normalize cid ∉ seen
    · have hnodup : (seen ++ [py.normalize cid]).Nodup := by
        rw [List.nodup_append]
        refine ⟨hseen, List.nodup_singleton _, fun a ha b hb hab => hnew.2 ?_⟩
        rw [← List.mem_singleton.mp hb, ← hab]
        exact ha
      obtain ⟨hn, hmem⟩ := ih _ hnodup
      simp only [if_pos hnew]
      refine ⟨hn, fun x => (hmem x).trans ?_⟩
      rw [List.mem_append, List.mem_singleton, List.exists_mem_cons_iff]
      grind
    · obtain ⟨hn, hmem⟩ := ih _ hseen
      simp only [if_neg hnew]
      refine ⟨hn, fun x => (hmem x).trans ?_⟩
      rw [List.exists_mem_cons_iff]
      grind

theorem nodup_normalized : (py.normalized cveIds).Nodup :=
  (nodup_normalizedFrom [] List.nodup_nil).1

theorem mem_normalized :
    x ∈ py.normalized cveIds ↔ x ≠ "" ∧ ∃ cid ∈ cveIds, py.normalize cid = x := by
  refine ((nodup_normalizedFrom [] List.nodup_nil).2 x).trans ?_
  simp only [List.not_mem_nil, false_or]

theorem batchSize_pos (batchSize : ℤ) : 0 < (max 1 batchSize).toNat := by omega

theorem flatten_batches (batchSize : ℤ) :
    (py.batches batchSize cveIds).flatten = py.normalized cveIds :=
  List.flatten_slices (batchSize_pos batchSize) _

theorem ne_nil_of_mem_batches {batchSize : ℤ} {b : List String}
    (hb : b ∈ py.batches batchSize cveIds) : b ≠ [] :=
  List.ne_nil_of_mem_slices (batchSize_pos batchSize) hb

/-- `fetch_intel` is its loop, without ids too. -/
theorem fetchIntel_eq (batchSize : ℤ) (env : ℕ → BatchEnv) (daily : DailyCounter) :
    fetchIntel py batchSize env daily cveIds =
      fetchBatches py env 0 (py.batches batchSize cveIds) daily fun _ => none := by
  rw [fetchIntel]
  split_ifs with hnil
  · have hbatches : py.batches batchSize cveIds = [] := by
      rw [hnil]
      refine List.eq_nil_iff_forall_not_mem.mpr fun b hb => ?_
      obtain ⟨x, hx⟩ := List.exists_mem_of_ne_nil b (ne_nil_of_mem_batches hb)
      have hmem := List.mem_flatten.mpr ⟨b, hb, hx⟩
      rw [flatten_batches] at hmem
      exact absurd hmem List.not_mem_nil
    rw [hbatches, fetchBatches]
  · rfl

end Ids

/-! ### When the answers were read -/

section Answers

variable {py : PyCase}

/-- A record has the time at which it was parsed. -/
theorem fetchedAt_parseItem {now : Instant} {item : List (String × Json)} {r : FetchedIntel}
    (h : parseItem py now item = .ok (some r)) : r.fetchedAt = now := by
  unfold parseItem at h
  simp only [bind, Except.bind] at h
  split at h
  · cases h
  · split_ifs at h
    · cases h
    · cases h
      rfl

/-- So the records of a payload have times that the clock has read. -/
theorem fetchedAt_foldlM {clock : ℕ → Instant} (items : List (List (String × Json) × ℕ)) :
    ∀ out intel : Intel,
      items.foldlM (parseInto py clock) out = .ok intel →
      (∀ cid r, out cid = some r → ∃ n, r.fetchedAt = clock n) →
      ∀ cid r, intel cid = some r → ∃ n, r.fetchedAt = clock n := by
  induction items with
  | nil =>
    intro out intel hfold hout
    cases hfold
    exact hout
  | cons item items ih =>
    intro out intel hfold hout
    rw [List.foldlM_cons, parseInto] at hfold
    cases hitem : parseItem py (clock item.2) item.1 with
    | error e =>
      simp only [hitem] at hfold
      cases hfold
    | ok parsed =>
      cases parsed with
      | none =>
        simp only [hitem] at hfold
        exact ih out intel hfold hout
      | some r =>
        simp only [hitem] at hfold
        refine ih _ intel hfold fun cid r' hr' => ?_
        by_cases hcid : cid = r.cveId
        · rw [hcid, Function.update_self] at hr'
          rw [← Option.some.inj hr']
          exact ⟨item.2, fetchedAt_parseItem hitem⟩
        · rw [Function.update_of_ne hcid] at hr'
          exact hout cid r' hr'

/-- So do those of a batch. -/
theorem fetchedAt_fetchBatch {env : BatchEnv} {intel : Intel} (h : fetchBatch py env = .ok intel)
    {cid : String} {r : FetchedIntel} (hr : intel cid = some r) :
    ∃ n, r.fetchedAt = env.clock n := by
  unfold fetchBatch at h
  split at h
  · cases h
  · cases h
  · cases h
  · split_ifs at h
    split at h
    · cases h
    · next body _ =>
      cases hbody : parseBatchPayload py env.clock body with
      | error e =>
        rw [hbody] at h
        cases h
      | ok intel' =>
        rw [hbody] at h
        cases h
        exact fetchedAt_foldlM _ _ _ hbody (fun _ _ hno => absurd hno (by simp)) cid r hr

/-- **All records have times that the clock has read.** -/
theorem fetchedAt_fetchBatches {env : ℕ → BatchEnv} {batches : List (List String)} :
    ∀ {i : ℕ} {daily : DailyCounter} {results intel : Intel},
      (∀ cid r, results cid = some r → ∃ j n, r.fetchedAt = (env j).clock n) →
      (fetchBatches py env i batches daily results).result = .ok intel →
      ∀ cid r, intel cid = some r → ∃ j n, r.fetchedAt = (env j).clock n := by
  induction batches with
  | nil =>
    intro i daily results intel hresults h
    cases h
    exact hresults
  | cons batch batches ih =>
    intro i daily results intel hresults h
    rcases fetchBatches_cases i batch batches daily results with
      ⟨-, he⟩ | ⟨-, -, e, he⟩ | ⟨-, -, results', hcases, hresult, -⟩
    · rw [he] at h
      cases h
      exact hresults
    · rw [he] at h
      cases h
    · rw [hresult] at h
      refine ih (fun cid r hr => ?_) h
      rcases hcases cid with hold | ⟨batchIntel, hfetch, hnew⟩
      · exact hresults cid r (hold ▸ hr)
      · obtain ⟨n, hn⟩ := fetchedAt_fetchBatch hfetch (hnew ▸ hr)
        exact ⟨i, n, hn⟩

end Answers

end CveManagement
