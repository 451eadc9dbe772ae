import CveManagement.Ingestion.RateGovernor
import CveManagement.Library.Shaper
import Mathlib

/-!
# Calls on time

The grants of a bucket of `app/ingestion/rate_governor.py` follow from when its calls begin, as
long as the callers are on time (`CveManagement.RateGovernor.OnTime`): `acquire` takes its first
pass as it is called, and `asyncio.sleep` ends when it is over. Such a bucket is a meter that
serves its calls in turn (`CveManagement.RateGovernor.Shaped.run`), so whether it keeps to a limit
is a condition on the calls, the capacity and the rate
(`CveManagement.RateGovernor.limitedExactlyIf_relieved`).
-/

namespace CveManagement

namespace RateGovernor

variable {g : RateGovernor} {n : ℤ} {w : ℚ}

/-- A bucket that nobody has called yet. -/
def ofBucket (b : TokenBucket) : RateGovernor := ⟨b, b.lastRefill, [], []⟩

/-- At most `n` requests are granted in any `w` seconds. -/
def Limited (n : ℤ) (w : ℚ) (g : RateGovernor) : Prop :=
  ∀ s, ((Meter.within g.grants s (s + w)).length : ℤ) ≤ n

/-! ### Callers on time -/

/-- When the calls of a run begin. -/
def begun : ℚ → List Event → List ℚ
  | _, [] => []
  | now, .tick elapsed _ :: l => begun (now + elapsed) l
  | now, .call _ _ :: l => now :: begun now l
  | now, .pass _ :: l => begun now l

/-- The point in time at which the `k`-th of some calls begins. -/
def callAt (calls : List ℚ) (k : ℕ) : ℚ := calls.getD k 0

/-- Some call is still in its loop. -/
def Waiting (g : RateGovernor) : Prop := ∃ c ∈ g.calls, c.ended = false

/-- **The callers are on time**: they ask for a token each, and no time passes while a call is in
its loop and a token is there. So the first pass of a call comes as the call begins, and a sleep
ends when it is over. -/
def OnTime (g : RateGovernor) : Event → Prop
  | .tick elapsed _ =>
    g.Waiting → ∀ t, g.now ≤ t → t < g.now + elapsed → (g.bucket.refill t).tokens < 1
  | .call cost _ => cost = 1
  | .pass _ => True

section CallAt

variable {calls : List ℚ} {t : ℚ} {i j k : ℕ}

theorem callAt_concat_of_lt (h : k < calls.length) : callAt (calls ++ [t]) k = callAt calls k :=
  List.getD_append _ _ _ _ h

theorem callAt_concat_length : callAt (calls ++ [t]) calls.length = t := by
  simp [callAt]

theorem callAt_mem (h : k < calls.length) : callAt calls k ∈ calls := by
  rw [callAt, List.getD_eq_getElem _ _ h]
  exact List.getElem_mem h

theorem callAt_le_callAt (h : calls.Pairwise (· ≤ ·)) (hij : i ≤ j) (hj : j < calls.length) :
    callAt calls i ≤ callAt calls j := by
  rcases hij.lt_or_eq with hij | rfl
  · rw [callAt, callAt, List.getD_eq_getElem _ _ (hij.trans hj), List.getD_eq_getElem _ _ hj]
    exact List.pairwise_iff_getElem.mp h i j (hij.trans hj) hj hij
  · exact le_rfl

end CallAt

/-- A pass ends a call at most. -/
theorem length_calls_pass (i : ℕ) :
    (step g (.pass i)).calls.length = g.calls.length ∧ (step g (.pass i)).now = g.now := by
  rcases hc : g.calls[i]? with _ | c
  · simp [step, hc]
  · have hstep : step g (.pass i) = g.passCall i c := by simp [step, hc]
    rw [hstep, passCall]
    split_ifs with hended
    · exact ⟨rfl, rfl⟩
    · rcases g.bucket.acquire g.now c.cost with ⟨b, _ | _ | _⟩ <;> simp

/-- **What a pass does**, under a rate that is not zero: nothing, a refill, or a grant that ends
the call. -/
theorem pass_cases (hrate : g.bucket.refillRate ≠ 0) (i : ℕ) :
    step g (.pass i) = g ∨ step g (.pass i) = { g with bucket := g.bucket.refill g.now } ∨
      ∃ c, g.calls[i]? = some c ∧ c.ended = false ∧
        c.cost ≤ (g.bucket.refill g.now).tokens ∧
        step g (.pass i) =
          { g with
            bucket := { g.bucket.refill g.now with
              tokens := (g.bucket.refill g.now).tokens - c.cost }
            calls := g.calls.set i { c with ended := true }
            grants := g.grants ++ [(g.now, c.cost)] } := by
  rcases hc : g.calls[i]? with _ | c
  · exact Or.inl (by simp [step, hc])
  have hstep : step g (.pass i) = g.passCall i c := by simp [step, hc]
  rw [hstep, passCall]
  by_cases hended : c.ended = true
  · exact Or.inl (if_pos hended)
  rw [if_neg hended, TokenBucket.acquire]
  dsimp only
  split_ifs with hle hzero
  · exact Or.inr (Or.inr ⟨c, rfl, by simpa using hended, hle, rfl⟩)
  · exact absurd hzero hrate
  · exact Or.inr (Or.inl rfl)

/-- **The bucket shapes its calls**: the grants are those of a meter that serves the calls in
turn, and no time has passed beyond the next of them. -/
structure Shaped (capacity refillRate start : ℚ) (calls : List ℚ) (g : RateGovernor) : Prop where
  capacity_eq : g.bucket.capacity = capacity
  refillRate_eq : g.bucket.refillRate = refillRate
  lastRefill_le : g.bucket.lastRefill ≤ g.now
  start_le : start ≤ g.now
  length_calls : g.calls.length = calls.length
  cost_eq : ∀ c ∈ g.calls, c.cost = 1
  ended_eq : g.calls.countP (·.ended) = g.grants.length
  sorted : calls.Pairwise (· ≤ ·)
  between : ∀ t ∈ calls, start ≤ t ∧ t ≤ g.now
  tokens_eq : g.bucket.tokens = Shaper.level capacity refillRate
    (Shaper.full refillRate start (callAt calls) g.grants.length) g.bucket.lastRefill
  grants_eq : g.grants = (List.range g.grants.length).map fun k =>
    (Shaper.served capacity refillRate start (callAt calls) k, 1)
  now_le : g.grants.length < calls.length →
    g.now ≤ Shaper.served capacity refillRate start (callAt calls) g.grants.length

variable {capacity refillRate start : ℚ} {calls : List ℚ}

theorem shaped_ofBucket (name : String) (capacity refillRate now : ℚ) :
    (ofBucket (TokenBucket.new name capacity refillRate now)).Shaped
      capacity refillRate now [] where
  capacity_eq := rfl
  refillRate_eq := rfl
  lastRefill_le := le_rfl
  start_le := le_rfl
  length_calls := rfl
  cost_eq _ hc := absurd hc List.not_mem_nil
  ended_eq := rfl
  sorted := List.Pairwise.nil
  between _ ht := absurd ht List.not_mem_nil
  tokens_eq := by simp [ofBucket, TokenBucket.new, Shaper.level, Shaper.full]
  grants_eq := rfl
  now_le h := absurd h (Nat.not_lt_zero _)

namespace Shaped

theorem length_grants_le (h : g.Shaped capacity refillRate start calls) :
    g.grants.length ≤ calls.length := by
  rw [← h.ended_eq, ← h.length_calls]
  exact List.countP_le_length

/-- A call waits exactly when not all of them have been granted. -/
theorem waiting_iff (h : g.Shaped capacity refillRate start calls) :
    g.Waiting ↔ g.grants.length < calls.length := by
  have hle := h.length_grants_le
  have hall : g.grants.length = calls.length ↔ ∀ c ∈ g.calls, c.ended = true := by
    rw [← h.ended_eq, ← h.length_calls, List.countP_eq_length]
  rw [hle.lt_iff_ne, Ne, hall]
  simp [Waiting]

/-- The bucket as a pass would find it. -/
theorem refill_tokens (h : g.Shaped capacity refillRate start calls) (hrate : 0 < refillRate)
    {t : ℚ} (ht : g.now ≤ t) :
    (g.bucket.refill t).tokens = Shaper.level capacity refillRate
      (Shaper.full refillRate start (callAt calls) g.grants.length) t := by
  rw [TokenBucket.refill, h.capacity_eq, h.refillRate_eq, h.tokens_eq]
  exact Shaper.level_refill hrate (h.lastRefill_le.trans ht)

/-- Time passes, up to the next grant at most. -/
theorem tick (h : g.Shaped capacity refillRate start calls) (hone : 1 ≤ capacity)
    (hrate : 0 < refillRate) {elapsed : ℚ} (nonneg : 0 ≤ elapsed)
    (hontime : g.OnTime (.tick elapsed nonneg)) :
    (step g (.tick elapsed nonneg)).Shaped capacity refillRate start calls := by
  refine { h with
    lastRefill_le := ?_, start_le := ?_, between := fun t ht => ?_, now_le := fun hlt => ?_ }
  · exact h.lastRefill_le.trans (le_add_of_nonneg_right nonneg)
  · exact h.start_le.trans (le_add_of_nonneg_right nonneg)
  · exact ⟨(h.between t ht).1, (h.between t ht).2.trans (le_add_of_nonneg_right nonneg)⟩
  · -- at the next grant there is a token, and until then none
    by_contra hlate
    have hnone := hontime (h.waiting_iff.mpr hlt) _ (h.now_le hlt) (not_le.mp hlate)
    rw [h.refill_tokens hrate (h.now_le hlt)] at hnone
    exact absurd ((Shaper.one_le_level_iff hrate hone).mpr (le_max_right _ _)) (not_le.mpr hnone)

/-- A call begins. -/
theorem call (h : g.Shaped capacity refillRate start calls) {cost : ℚ} (pos : 0 < cost)
    (hcost : cost = 1) :
    (step g (.call cost pos)).Shaped capacity refillRate start (calls ++ [g.now]) := by
  have hle := h.length_grants_le
  have hearlier : ∀ i < calls.length, callAt calls i = callAt (calls ++ [g.now]) i :=
    fun i hi => (callAt_concat_of_lt hi).symm
  refine { h with
    length_calls := ?_, cost_eq := fun c hc => ?_, ended_eq := ?_, sorted := ?_,
    between := fun t ht => ?_, tokens_eq := ?_, grants_eq := ?_, now_le := fun _ => ?_ }
  · rw [List.length_append, ← h.length_calls]
    simp [step]
  · rcases List.mem_append.mp hc with hc | hc
    · exact h.cost_eq c hc
    · rw [List.mem_singleton.mp hc]
      exact hcost
  · simpa [step] using h.ended_eq
  · refine List.pairwise_append.mpr ⟨h.sorted, List.pairwise_singleton _ _, fun t ht t' ht' => ?_⟩
    rw [List.mem_singleton.mp ht']
    exact (h.between t ht).2
  · rcases List.mem_append.mp ht with ht | ht
    · exact h.between t ht
    · rw [List.mem_singleton.mp ht]
      exact ⟨h.start_le, le_rfl⟩
  · show g.bucket.tokens = Shaper.level capacity refillRate
      (Shaper.full refillRate start (callAt (calls ++ [g.now])) g.grants.length) g.bucket.lastRefill
    rw [← Shaper.full_congr fun i hi => hearlier i (hi.trans_le hle)]
    exact h.tokens_eq
  · refine h.grants_eq.trans (List.map_congr_left fun k hk => ?_)
    have hk := (List.mem_range.mp hk).trans_le hle
    rw [Shaper.served_congr fun i hi => hearlier i (hi.trans_lt hk)]
  · show g.now ≤ Shaper.served capacity refillRate start (callAt (calls ++ [g.now]))
      g.grants.length
    rcases hle.lt_or_eq with hlt | heq
    · rw [← Shaper.served_congr fun i hi => hearlier i (hi.trans_lt hlt)]
      exact h.now_le hlt
    · rw [heq, Shaper.served, callAt_concat_length]
      exact le_max_left _ _

/-- A call makes a pass. -/
theorem pass (h : g.Shaped capacity refillRate start calls) (hone : 1 ≤ capacity)
    (hrate : 0 < refillRate) (i : ℕ) :
    (step g (.pass i)).Shaped capacity refillRate start calls := by
  have hrefilled := h.refill_tokens hrate le_rfl
  rcases pass_cases (h.refillRate_eq.symm ▸ hrate.ne') i with
    heq | heq | ⟨⟨cost, pos, ended⟩, hc, hended, hle, heq⟩ <;> rw [heq]
  · exact h
  · exact { h with lastRefill_le := le_rfl, tokens_eq := hrefilled }
  · obtain rfl : cost = 1 := h.cost_eq _ (List.mem_of_getElem? hc)
    have hlt : g.grants.length < calls.length :=
      h.waiting_iff.mp ⟨_, List.mem_of_getElem? hc, hended⟩
    -- the pass comes exactly when the meter serves its call
    have hnow : g.now =
        Shaper.served capacity refillRate start (callAt calls) g.grants.length := by
      refine (h.now_le hlt).antisymm (max_le (h.between _ (callAt_mem hlt)).2 ?_)
      rw [hrefilled] at hle
      exact (Shaper.one_le_level_iff hrate hone).mp hle
    have hlength : (g.grants ++ [(g.now, (1 : ℚ))]).length = g.grants.length + 1 := by simp
    obtain ⟨hi, hget⟩ := List.getElem?_eq_some_iff.mp hc
    refine { h with
      lastRefill_le := le_rfl, length_calls := ?_, cost_eq := fun c' hc' => ?_, ended_eq := ?_,
      tokens_eq := ?_, grants_eq := ?_, now_le := fun hnext => ?_ }
    · rw [List.length_set]
      exact h.length_calls
    · rcases List.mem_or_eq_of_mem_set hc' with hc' | rfl
      · exact h.cost_eq c' hc'
      · rfl
    · have hended : ended = false := hended
      rw [List.countP_set hi, hget, h.ended_eq, hlength]
      simp [hended]
    · show (g.bucket.refill g.now).tokens - 1 = Shaper.level capacity refillRate
        (Shaper.full refillRate start (callAt calls) (g.grants ++ [(g.now, (1 : ℚ))]).length) g.now
      rw [hlength, hrefilled, hnow]
      exact Shaper.level_sub_one hrate hone
    · show g.grants ++ [(g.now, (1 : ℚ))] =
        (List.range (g.grants ++ [(g.now, (1 : ℚ))]).length).map _
      rw [hlength, List.range_succ, List.map_append, ← h.grants_eq, List.map_singleton, ← hnow]
    · rw [hlength] at hnext
      show g.now ≤ Shaper.served capacity refillRate start (callAt calls)
        (g.grants ++ [(g.now, (1 : ℚ))]).length
      rw [hlength, hnow]
      exact Shaper.served_le_succ hrate (callAt_le_callAt h.sorted (Nat.le_succ _) hnext)

open Trajectory in
/-- **A run on time.** -/
theorem run (h : g.Shaped capacity refillRate start calls) (hone : 1 ≤ capacity)
    (hrate : 0 < refillRate) {l : List Event} (hontime : AllSteps step OnTime g l) :
    (Trajectory.run step g l).Shaped capacity refillRate start (calls ++ begun g.now l) := by
  induction l generalizing g calls with
  | nil => simpa [begun] using h
  | cons e l ih =>
    obtain ⟨he, hl⟩ := hontime
    cases e with
    | tick elapsed nonneg => exact ih (h.tick hone hrate nonneg he) hl
    | call cost pos =>
      have hrun := ih (h.call pos he) hl
      rwa [List.append_assoc] at hrun
    | pass i =>
      have hrun := ih (h.pass hone hrate i) hl
      rwa [(length_calls_pass i).2] at hrun

/-- **When the limit is kept**: when among any `n + 1` successive calls that have been granted the
last ones leave a gap. -/
theorem limited_iff (h : g.Shaped capacity refillRate start calls) (hone : 1 ≤ capacity)
    (hrate : 0 < refillRate) {n : ℕ} :
    g.Limited n (n / refillRate) ↔
      ∀ k, k + n < g.grants.length →
        Shaper.Relieved capacity refillRate (callAt calls) n k := by
  have hle := h.length_grants_le
  have hgrants := h.grants_eq
  generalize g.grants.length = m at hle hgrants ⊢
  have hsorted : ∀ i j, i ≤ j → j < m → callAt calls i ≤ callAt calls j := fun i j hij hj =>
    callAt_le_callAt h.sorted hij (hj.trans_le hle)
  have hserved : ∀ i j, i ≤ j → j < m →
      Shaper.served capacity refillRate start (callAt calls) i ≤
        Shaper.served capacity refillRate start (callAt calls) j := fun i j hij hj =>
    Shaper.served_le_served hrate (fun k hk => hsorted k (k + 1) k.le_succ (by omega)) hij
  simp only [Limited, Nat.cast_le]
  rw [hgrants, Meter.forall_length_within_iff hserved]
  refine forall₂_congr fun k hk => ?_
  have hstart : start ≤ callAt calls 0 := (h.between _ (callAt_mem (by omega))).1
  exact Shaper.served_add_lt_iff hrate hone hstart fun i j hij hj => hsorted i j hij (by omega)

end Shaped

/-! ### Exactly when a limit is kept -/

open Trajectory

/-- A limit that is broken stays broken. -/
theorem limited_of_step {e : Event} (h : (step g e).Limited n w) : g.Limited n w := by
  have hgrants : ∃ later, (step g e).grants = g.grants ++ later := by
    rcases step_cases g e with ⟨-, hg, -, -⟩ | ⟨-, hg, -, -⟩ | ⟨cost, -, -, -, hg, -⟩
    · exact ⟨[], by rw [hg, List.append_nil]⟩
    · exact ⟨[], by rw [hg, List.append_nil]⟩
    · exact ⟨[(g.now, cost)], hg⟩
  obtain ⟨later, hgrants⟩ := hgrants
  intro s
  have hs := h s
  rw [hgrants, Meter.within, List.filter_append, List.length_append, Nat.cast_add] at hs
  exact le_trans (le_add_of_nonneg_right (Int.natCast_nonneg _)) hs

theorem throughout_limited_iff {l : List Event} :
    Throughout step (Limited n w) g l ↔ (run step g l).Limited n w := by
  induction l generalizing g with
  | nil => exact Iff.rfl
  | cons e l ih =>
    rw [throughout_cons, ih]
    exact and_iff_right_of_imp fun h => limited_of_step (ih.mpr h).first

/-- **A condition on the calls keeps a limit**: a run whose callers are on time keeps the limit
when its calls meet the condition, and a run that has granted all of them only then. -/
def LimitedExactlyIf (n : ℤ) (w : ℚ) (b : TokenBucket) (condition : List ℚ → Prop) : Prop :=
  ∀ l, AllSteps step OnTime (ofBucket b) l →
    (condition (begun b.lastRefill l) → Throughout step (Limited n w) (ofBucket b) l) ∧
    (¬(run step (ofBucket b) l).Waiting → Throughout step (Limited n w) (ofBucket b) l →
      condition (begun b.lastRefill l))

/-- **A bucket with a capacity and a rate.** -/
theorem limitedExactlyIf_relieved (name : String) (hone : 1 ≤ capacity) (hrate : 0 < refillRate)
    (now : ℚ) (n : ℕ) :
    LimitedExactlyIf n (n / refillRate) (TokenBucket.new name capacity refillRate now) fun calls =>
      ∀ k, k + n < calls.length → Shaper.Relieved capacity refillRate (callAt calls) n k := by
  intro l hontime
  have hshaped := (shaped_ofBucket name capacity refillRate now).run hone hrate hontime
  rw [List.nil_append] at hshaped
  rw [throughout_limited_iff, hshaped.limited_iff hone hrate, hshaped.waiting_iff, not_lt]
  exact ⟨fun h k hk => h k (hk.trans_le hshaped.length_grants_le),
    fun hall h k hk => h k (hk.trans_le hall)⟩

/-- **A bucket whose capacity is the limit.** -/
theorem limitedExactlyIf_apart (name : String) {n : ℕ} (hn : 1 ≤ n) (hrate : 0 < refillRate)
    (now : ℚ) :
    LimitedExactlyIf n (n / refillRate) (TokenBucket.new name n refillRate now) fun calls =>
      ∀ k, k + n < calls.length → callAt calls k + n / refillRate < callAt calls (k + n) := by
  intro l hontime
  have hone : (1 : ℚ) ≤ n := by exact_mod_cast hn
  have hshaped := (shaped_ofBucket name n refillRate now).run hone hrate hontime
  rw [List.nil_append] at hshaped
  have hiff := Shaper.relieved_iff_of_capacity hrate hn fun i j hij hj =>
    callAt_le_callAt hshaped.sorted hij hj
  obtain ⟨hkeeps, honly⟩ := limitedExactlyIf_relieved name hone hrate now n l hontime
  exact ⟨fun h => hkeeps (hiff.mpr h), fun hall h => hiff.mp (honly hall h)⟩

/-! ### A bucket that is never refilled -/

/-- Nobody has taken a token yet. -/
structure Untouched (capacity : ℚ) (g : RateGovernor) : Prop where
  capacity_eq : g.bucket.capacity = capacity
  refillRate_eq : g.bucket.refillRate = 0
  tokens_eq : g.bucket.tokens = capacity
  calls_eq : ∀ c ∈ g.calls, c.cost = 1 ∧ c.ended = false

theorem limited_zero_iff (hw : 0 ≤ w) : g.Limited 0 w ↔ g.grants = [] := by
  constructor
  · intro h
    refine List.eq_nil_iff_forall_not_mem.mpr fun x hx => ?_
    have hmem : x ∈ Meter.within g.grants x.1 (x.1 + w) :=
      List.mem_filter.mpr ⟨hx, by simp [hw]⟩
    have hpos := List.length_pos_of_mem hmem
    have hle := h x.1
    omega
  · intro h s
    simp [h, Meter.within]

/-- **The first pass is granted.** -/
theorem Untouched.step (h : g.Untouched capacity) (hone : 1 ≤ capacity) {e : Event}
    (hontime : g.OnTime e) (hnone : (RateGovernor.step g e).grants = []) :
    (RateGovernor.step g e).Untouched capacity := by
  cases e with
  | tick elapsed nonneg => exact { h with }
  | call cost pos =>
    refine { h with calls_eq := fun c hc => ?_ }
    rcases List.mem_append.mp hc with hc | hc
    · exact h.calls_eq c hc
    · rw [List.mem_singleton.mp hc]
      exact ⟨hontime, rfl⟩
  | pass i =>
    rcases hc : g.calls[i]? with _ | c
    · rwa [show RateGovernor.step g (.pass i) = g by simp [RateGovernor.step, hc]]
    obtain ⟨hcost, hended⟩ := h.calls_eq c (List.mem_of_getElem? hc)
    have htokens : (g.bucket.refill g.now).tokens = capacity := by
      rw [TokenBucket.refill, h.capacity_eq, h.refillRate_eq, h.tokens_eq]
      simp
    have hle : c.cost ≤ (g.bucket.refill g.now).tokens := by rwa [htokens, hcost]
    have hgrant : (RateGovernor.step g (.pass i)).grants = g.grants ++ [(g.now, c.cost)] := by
      simp [RateGovernor.step, passCall, hc, hended, TokenBucket.acquire, hle]
    rw [hgrant] at hnone
    exact absurd hnone (by simp)

theorem Untouched.run (h : g.Untouched capacity) (hone : 1 ≤ capacity) (hw : 0 ≤ w)
    {l : List Event} (hontime : AllSteps RateGovernor.step OnTime g l)
    (hlim : Throughout RateGovernor.step (Limited 0 w) g l) :
    (Trajectory.run RateGovernor.step g l).Untouched capacity := by
  induction l generalizing g with
  | nil => exact h
  | cons e l ih =>
    exact ih (h.step hone hontime.1 ((limited_zero_iff hw).mp hlim.2.first)) hontime.2 hlim.2

theorem length_calls_run (l : List Event) :
    (run step g l).calls.length = g.calls.length + (begun g.now l).length := by
  induction l generalizing g with
  | nil => rfl
  | cons e l ih =>
    rw [run_cons, ih]
    cases e with
    | tick elapsed nonneg => rfl
    | call cost pos =>
      simp only [step, begun, List.length_append, List.length_cons, List.length_nil]
      omega
    | pass i =>
      obtain ⟨hlength, hnow⟩ := length_calls_pass (g := g) i
      rw [hlength, hnow]
      rfl

/-- Nobody calls, and nothing is granted. -/
theorem grants_run_of_begun (hcalls : g.calls = []) {l : List Event} (h : begun g.now l = []) :
    (run step g l).grants = g.grants := by
  induction l generalizing g with
  | nil => rfl
  | cons e l ih =>
    cases e with
    | tick elapsed nonneg => exact ih (g := step g (.tick elapsed nonneg)) hcalls h
    | call cost pos => exact absurd h (List.cons_ne_nil _ _)
    | pass i =>
      have hstep : step g (.pass i) = g := by simp [step, hcalls]
      rw [run_cons, hstep]
      exact ih hcalls h

/-- **Without a rate** no call at all keeps a limit of zero. -/
theorem limitedExactlyIf_nil (name : String) (hone : 1 ≤ capacity) (hw : 0 ≤ w) (now : ℚ) :
    LimitedExactlyIf 0 w (TokenBucket.new name capacity 0 now) fun calls => calls = [] := by
  intro l hontime
  refine ⟨fun h => ?_, fun hall hlim => ?_⟩
  · rw [throughout_limited_iff, limited_zero_iff hw]
    exact grants_run_of_begun rfl h
  · have hstart : (ofBucket (TokenBucket.new name capacity 0 now)).Untouched capacity :=
      ⟨rfl, rfl, rfl, fun c hc => absurd hc List.not_mem_nil⟩
    have hend := hstart.run hone hw hontime hlim
    have hcalls : (run step (ofBucket (TokenBucket.new name capacity 0 now)) l).calls = [] :=
      List.eq_nil_iff_forall_not_mem.mpr fun c hc => hall ⟨c, hc, (hend.calls_eq c hc).2⟩
    have hlength := length_calls_run (g := ofBucket (TokenBucket.new name capacity 0 now)) l
    rw [hcalls] at hlength
    exact List.length_eq_zero_iff.mp (Nat.eq_zero_of_add_eq_zero_left hlength.symm)

end RateGovernor

end CveManagement
