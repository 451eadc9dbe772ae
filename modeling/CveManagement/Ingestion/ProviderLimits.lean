import CveManagement.Ingestion.OnTime
import Mathlib

/-!
# The limits of the providers

`build_governors` of `app/ingestion/rate_governor.py`. NVD admits fifty requests in thirty
seconds, or five without a key, and CIRCL a number of requests a day; the buckets have a rate
that yields as many, and a capacity on top of it. So a window that begins with a full bucket sees
more than the limit (`CveManagement.RateGovernor.exists_not_limited`), and a run keeps to the
limit only as far as its calls leave room for it by themselves.
-/

namespace CveManagement

/-- The settings that `build_governors` reads. -/
structure GovernorSettings where
  nvdApiKey : String
  circlDailyLimit : ℤ
  kevRefreshIntervalHours : ℤ

namespace GovernorSettings

variable (settings : GovernorSettings)

/-- `has_nvd_key`. -/
def hasNvdKey : Bool := settings.nvdApiKey != ""

/-- The requests that NVD admits in thirty seconds. -/
def nvdLimit : ℕ := if settings.hasNvdKey then 50 else 5

/-- The bucket of NVD. -/
def nvdBucket (now : ℚ) : TokenBucket :=
  TokenBucket.new "nvd" (if settings.hasNvdKey then 50 else 5)
    (if settings.hasNvdKey then 50 / 30 else 5 / 30) now

/-- The bucket of CIRCL. -/
def circlBucket (now : ℚ) : TokenBucket :=
  TokenBucket.new "circl" 20 ((settings.circlDailyLimit : ℚ) / 86400) now

/-- **`build_governors`**; it divides by the interval of the KEV refresh, and `none` is a
`ZeroDivisionError`. -/
def buildGovernors (clock : String → ℚ) : Option (List (String × TokenBucket)) :=
  if settings.kevRefreshIntervalHours = 0 then none
  else some
    [("nvd", settings.nvdBucket (clock "nvd")),
      ("vulncheck", TokenBucket.new "vulncheck" 10 (10 / 60) (clock "vulncheck")),
      ("circl", settings.circlBucket (clock "circl")),
      ("epss", TokenBucket.new "epss" 10 1 (clock "epss")),
      ("kev", TokenBucket.new "kev" 1 (1 / ((settings.kevRefreshIntervalHours : ℚ) * 3600))
        (clock "kev")),
      ("vulnx", TokenBucket.new "vulnx" 5 2 (clock "vulnx"))]

end GovernorSettings

namespace RateGovernor

open Trajectory

variable {g : RateGovernor} {n : ℤ} {w : ℚ}

/-! ### A burst, and then the sustained rate -/

/-- A request after some time, of the `k`-th caller. -/
def visit (gap : ℚ) (hgap : 0 ≤ gap) (k : ℕ) : List Event :=
  [.tick gap hgap, .call 1 one_pos, .pass k]

/-- Requests with the same gap before each of them, of callers from the `k`-th on. -/
def visits (gap : ℚ) (hgap : 0 ≤ gap) : ℕ → ℕ → List Event
  | _, 0 => []
  | k, m + 1 => visit gap hgap k ++ visits gap hgap (k + 1) m

/-- **After `k` grants since a point in time**: the tokens that are left, as of now. -/
structure Served (since : ℚ) (k : ℕ) (tokens : ℚ) (g : RateGovernor) : Prop where
  calls : g.calls.length = k
  ended : ∀ c ∈ g.calls, c.ended = true
  grants : g.grants.length = k
  window : ∀ x ∈ g.grants, since ≤ x.1 ∧ x.1 ≤ g.now
  tokens_eq : g.bucket.tokens = tokens
  lastRefill_eq : g.bucket.lastRefill = g.now
  since_le : since ≤ g.now

variable {since tokens capacity refillRate gap : ℚ} {k m : ℕ}

/-- A caller that finds nobody waiting is on time. -/
theorem Served.onTime (h : g.Served since k tokens) (hgap : 0 ≤ gap) (i : ℕ) :
    AllSteps step OnTime g (RateGovernor.visit gap hgap i) := by
  refine ⟨?_, rfl, trivial, trivial⟩
  rintro ⟨c, hc, hwaits⟩
  rw [h.ended c hc] at hwaits
  exact absurd hwaits (by simp)

/-- **One more request**, when the refilled bucket has a token. -/
theorem Served.visit (h : g.Served since k tokens) (hcapacity : g.bucket.capacity = capacity)
    (hrate : g.bucket.refillRate = refillRate) (hgap : 0 ≤ gap)
    (htoken : 1 ≤ min capacity (tokens + gap * refillRate)) :
    let g' := run step g (RateGovernor.visit gap hgap k)
    g'.Served since (k + 1) (min capacity (tokens + gap * refillRate) - 1) ∧
      g'.now = g.now + gap ∧ g'.bucket.capacity = capacity ∧
      g'.bucket.refillRate = refillRate := by
  subst hcapacity hrate
  -- the bucket as the pass finds it
  have hrefill : g.bucket.refill (g.now + gap) = { g.bucket with
      tokens := min g.bucket.capacity (tokens + gap * g.bucket.refillRate)
      lastRefill := g.now + gap } := by
    rw [TokenBucket.refill, h.tokens_eq, h.lastRefill_eq, add_sub_cancel_left]
  have hacquire : g.bucket.acquire (g.now + gap) 1 =
      ({ g.bucket with
        tokens := min g.bucket.capacity (tokens + gap * g.bucket.refillRate) - 1
        lastRefill := g.now + gap }, .granted) := by
    rw [TokenBucket.acquire, hrefill]
    exact if_pos htoken
  have hrun : run step g (RateGovernor.visit gap hgap k) =
      { bucket := { g.bucket with
          tokens := min g.bucket.capacity (tokens + gap * g.bucket.refillRate) - 1
          lastRefill := g.now + gap }
        now := g.now + gap
        calls := g.calls ++ [(⟨1, one_pos, true⟩ : AcquireCall)]
        grants := g.grants ++ [(g.now + gap, 1)] } := by
    simp [RateGovernor.visit, step, passCall, hacquire, ← h.calls]
  dsimp only
  rw [hrun]
  refine ⟨⟨by simp [h.calls], fun c hc => ?_, by simp [h.grants], fun x hx => ?_, rfl, rfl, ?_⟩,
    rfl, rfl, rfl⟩
  · rcases List.mem_append.mp hc with hc | hc
    · exact h.ended c hc
    · rw [List.mem_singleton.mp hc]
  · rcases List.mem_append.mp hx with hx | hx
    · exact ⟨(h.window x hx).1, (h.window x hx).2.trans (le_add_of_nonneg_right hgap)⟩
    · rw [List.mem_singleton.mp hx]
      exact ⟨h.since_le.trans (le_add_of_nonneg_right hgap), le_rfl⟩
  · exact h.since_le.trans (le_add_of_nonneg_right hgap)

/-- **A burst**: as many requests as there are tokens, at once. -/
theorem Served.burst (h : g.Served since k m) (hcapacity : g.bucket.capacity = capacity)
    (hrate : g.bucket.refillRate = refillRate) (hm : (m : ℚ) ≤ capacity) :
    let g' := run step g (visits 0 le_rfl k m)
    AllSteps step OnTime g (visits 0 le_rfl k m) ∧ g'.Served since (k + m) 0 ∧ g'.now = g.now ∧
      g'.bucket.capacity = capacity ∧ g'.bucket.refillRate = refillRate := by
  induction m generalizing g k with
  | zero => exact ⟨trivial, by simpa [visits] using h, rfl, hcapacity, hrate⟩
  | succ m ih =>
    have hmin : min capacity ((m + 1 : ℕ) + 0 * refillRate) = m + 1 := by
      rw [zero_mul, add_zero, min_eq_right hm, Nat.cast_succ]
    have htoken : 1 ≤ min capacity ((m + 1 : ℕ) + 0 * refillRate) := by
      rw [hmin]
      exact le_add_of_nonneg_left (Nat.cast_nonneg m)
    obtain ⟨hnext, hnow, hcapacity', hrate'⟩ := h.visit hcapacity hrate le_rfl htoken
    rw [hmin, add_sub_cancel_right] at hnext
    have hle : (m : ℚ) ≤ capacity := le_trans (by simp) hm
    obtain ⟨hontime, hserved, hnow', hrest⟩ := ih hnext hcapacity' hrate' hle
    rw [visits, run_append, allSteps_append]
    refine ⟨⟨h.onTime le_rfl k, hontime⟩, ?_, ?_, hrest⟩
    · rw [show k + (m + 1) = k + 1 + m by ring]
      exact hserved
    · rw [hnow', hnow, add_zero]

/-- **The sustained rate**: from an empty bucket on, each request waits for its token. -/
theorem Served.steady (h : g.Served since k 0) (hcapacity : g.bucket.capacity = capacity)
    (hrate : g.bucket.refillRate = refillRate) (hone : 1 ≤ capacity) (hpos : 0 < refillRate)
    (m : ℕ) :
    let l := visits (1 / refillRate) (one_div_pos.mpr hpos).le k m
    AllSteps step OnTime g l ∧ (run step g l).Served since (k + m) 0 ∧
      (run step g l).now = g.now + m * (1 / refillRate) := by
  induction m generalizing g k with
  | zero => exact ⟨trivial, by simpa [visits] using h, by simp [visits]⟩
  | succ m ih =>
    have hmin : min capacity (0 + 1 / refillRate * refillRate) = 1 := by
      rw [zero_add, one_div_mul_cancel hpos.ne', min_eq_right hone]
    obtain ⟨hnext, hnow, hcapacity', hrate'⟩ :=
      h.visit hcapacity hrate (one_div_pos.mpr hpos).le hmin.ge
    rw [hmin, sub_self] at hnext
    obtain ⟨hontime, hserved, hnow'⟩ := ih hnext hcapacity' hrate'
    dsimp only
    rw [visits, run_append, allSteps_append]
    refine ⟨⟨h.onTime _ k, hontime⟩, ?_, ?_⟩
    · rw [show k + (m + 1) = k + 1 + m by ring]
      exact hserved
    · rw [hnow', hnow]
      push_cast
      ring

/-- More grants than the limit, all of them within a window. -/
theorem Served.not_limited (h : g.Served since k tokens) (hk : n < k) (hw : g.now ≤ since + w) :
    ¬g.Limited n w := by
  intro hlim
  have hall : Meter.within g.grants since (since + w) = g.grants :=
    List.filter_eq_self.mpr fun x hx => by
      simp [(h.window x hx).1, (h.window x hx).2.trans hw]
  have hle := hlim since
  rw [hall, h.grants] at hle
  exact absurd hle (not_le.mpr hk)

/-- Nobody has called a new bucket. -/
theorem served_ofBucket (name : String) (capacity refillRate now : ℚ) :
    (ofBucket (TokenBucket.new name capacity refillRate now)).Served now 0 capacity :=
  ⟨rfl, fun _ hc => absurd hc List.not_mem_nil, rfl, fun _ hx => absurd hx List.not_mem_nil, rfl,
    rfl, le_rfl⟩

/-- **A full bucket and the rate together break the limit**: a burst, and as many requests at the
sustained rate as the window has time for. -/
theorem exists_not_limited {name : String} {c : ℕ} (hc : 1 ≤ c) (m : ℕ)
    (hrate : m = 0 ∨ 0 < refillRate) (hn : n < c + m) (hw : m * (1 / refillRate) ≤ w) (now : ℚ) :
    ∃ l, AllSteps step OnTime (ofBucket (TokenBucket.new name c refillRate now)) l ∧
      ¬(run step (ofBucket (TokenBucket.new name c refillRate now)) l).Limited n w := by
  have hc' : (1 : ℚ) ≤ c := by exact_mod_cast hc
  obtain ⟨hontime, hburst, hnow, hcapacity, hrate'⟩ :=
    (served_ofBucket name c refillRate now).burst rfl rfl le_rfl
  rcases hrate with rfl | hpos
  · refine ⟨visits 0 le_rfl 0 c, hontime, hburst.not_limited (by simpa using hn) ?_⟩
    rw [hnow]
    simpa [ofBucket, TokenBucket.new] using hw
  · obtain ⟨hontime', hserved, hnow'⟩ :=
      hburst.steady hcapacity hrate' hc' hpos m
    refine ⟨visits 0 le_rfl 0 c ++
      visits (1 / refillRate) (one_div_pos.mpr hpos).le (0 + c) m,
      allSteps_append.mpr ⟨hontime, hontime'⟩, ?_⟩
    rw [run_append]
    refine hserved.not_limited (by push_cast; omega) ?_
    rw [hnow', hnow]
    exact add_le_add_right hw now

/-! ### NVD and CIRCL -/

section Settings

variable (settings : GovernorSettings) (now : ℚ)

/-- **NVD's calls keep its limit by themselves**: any one more of them than the limit span more
than thirty seconds. -/
def NvdApart (calls : List ℚ) : Prop :=
  ∀ k, k + settings.nvdLimit < calls.length →
    callAt calls k + 30 < callAt calls (k + settings.nvdLimit)

/-- **CIRCL's calls keep its limit by themselves**: among as many calls after any call as the limit
has, one comes so late that the tokens of the capacity have been lost to a full bucket. -/
def CirclApart (calls : List ℚ) : Prop :=
  0 ≤ settings.circlDailyLimit ∧ ∀ k, k + settings.circlDailyLimit.toNat < calls.length →
    Shaper.Relieved 20 ((settings.circlDailyLimit : ℚ) / 86400) (callAt calls)
      settings.circlDailyLimit.toNat k

/-- **NVD's limit**, exactly. -/
theorem limitedExactlyIf_nvd :
    LimitedExactlyIf settings.nvdLimit 30 (settings.nvdBucket now) (NvdApart settings) := by
  unfold NvdApart GovernorSettings.nvdBucket GovernorSettings.nvdLimit
  rcases settings.hasNvdKey with _ | _
  · have hrate : (0 : ℚ) < 5 / 30 := by norm_num
    have hexact := limitedExactlyIf_apart "nvd" (n := 5) (by norm_num) hrate now
    rw [show ((5 : ℕ) : ℚ) / (5 / 30) = 30 by norm_num] at hexact
    exact hexact
  · have hrate : (0 : ℚ) < 50 / 30 := by norm_num
    have hexact := limitedExactlyIf_apart "nvd" (n := 50) (by norm_num) hrate now
    rw [show ((50 : ℕ) : ℚ) / (50 / 30) = 30 by norm_num] at hexact
    exact hexact

/-- **CIRCL's limit**, exactly. -/
theorem limitedExactlyIf_circl :
    LimitedExactlyIf settings.circlDailyLimit 86400 (settings.circlBucket now)
      (CirclApart settings) := by
  unfold CirclApart GovernorSettings.circlBucket
  generalize settings.circlDailyLimit = limit
  have hone : (1 : ℚ) ≤ 20 := by norm_num
  rcases lt_trichotomy limit 0 with hneg | rfl | hpos
  · -- not even an empty log keeps a negative limit
    intro l hontime
    refine ⟨fun h => absurd h.1 (not_le.mpr hneg), fun _ h => ?_⟩
    have hnone := h.first 0
    simp only [ofBucket, Meter.within, List.filter_nil, List.length_nil, Nat.cast_zero] at hnone
    exact absurd hnone (not_le.mpr hneg)
  · intro l hontime
    rw [show ((0 : ℤ) : ℚ) / 86400 = 0 by norm_num] at hontime ⊢
    have hday : (0 : ℚ) ≤ 86400 := by norm_num
    obtain ⟨hkeeps, honly⟩ := limitedExactlyIf_nil "circl" hone hday now l hontime
    refine ⟨fun h => hkeeps ?_, fun hall h => ⟨le_rfl, fun k hk => ?_⟩⟩
    · -- no call comes after itself
      by_contra hsome
      obtain ⟨d, hd, hd0, -⟩ := h.2 0 (List.length_pos_iff.mpr hsome)
      exact absurd (hd.trans hd0) (by decide)
    · rw [honly hall h] at hk
      exact absurd hk (Nat.not_lt_zero _)
  · obtain ⟨m, rfl⟩ := Int.eq_ofNat_of_zero_le hpos.le
    have hm : (0 : ℚ) < m := by exact_mod_cast hpos
    have hrate : (0 : ℚ) < m / 86400 := by positivity
    have hexact := limitedExactlyIf_relieved "circl" hone hrate now m
    rw [div_div_cancel₀ hm.ne'] at hexact
    intro l hontime
    obtain ⟨hkeeps, honly⟩ := hexact l hontime
    exact ⟨fun h => hkeeps h.2, fun hall h => ⟨hpos.le, honly hall h⟩⟩

/-- NVD's bucket breaks its limit in some run. -/
theorem exists_not_limited_nvd :
    ∃ l, AllSteps step OnTime (ofBucket (settings.nvdBucket now)) l ∧
      ¬(run step (ofBucket (settings.nvdBucket now)) l).Limited settings.nvdLimit 30 := by
  unfold GovernorSettings.nvdBucket GovernorSettings.nvdLimit
  rcases settings.hasNvdKey with _ | _
  · exact exists_not_limited (c := 5) (by norm_num) 1 (Or.inr (by norm_num)) (by norm_num)
      (by norm_num) now
  · exact exists_not_limited (c := 50) (by norm_num) 1 (Or.inr (by norm_num)) (by norm_num)
      (by norm_num) now

/-- CIRCL's bucket breaks its limit in some run: the burst alone does, when the limit is below
twenty, and otherwise the requests of the first hours after it. -/
theorem exists_not_limited_circl :
    ∃ l, AllSteps step OnTime (ofBucket (settings.circlBucket now)) l ∧
      ¬(run step (ofBucket (settings.circlBucket now)) l).Limited settings.circlDailyLimit
        86400 := by
  unfold GovernorSettings.circlBucket
  generalize settings.circlDailyLimit = limit
  rcases le_or_gt limit 19 with hle | hgt
  · exact exists_not_limited (c := 20) (by norm_num) 0 (Or.inl rfl) (by omega) (by norm_num) now
  · obtain ⟨m, hm⟩ := Int.le.dest hgt.le
    have hlimit : (limit : ℚ) = 19 + m := by exact_mod_cast hm.symm
    have hpos : (0 : ℚ) < limit := by
      rw [hlimit]
      positivity
    refine exists_not_limited (c := 20) (by norm_num) m (Or.inr (by positivity)) (by omega) ?_ now
    -- the requests after the burst are fewer than a day's
    have hday : (m : ℚ) * (1 / (limit / 86400)) = m / limit * 86400 := by
      field_simp
    have hshare : (m : ℚ) / limit ≤ 1 := by
      rw [div_le_one hpos, hlimit]
      linarith
    rw [hday]
    linarith

end Settings

/-- **The limits of NVD and CIRCL**: among the runs whose callers are on time, the calls keep the
limits exactly when they leave room for them, and no settings make every such run keep them. -/
theorem provider_limits {settings : GovernorSettings} {clock : String → ℚ}
    {governors : List (String × TokenBucket)} {nvd circl : TokenBucket}
    (h : settings.buildGovernors clock = some governors)
    (hnvd : governors.lookup "nvd" = some nvd) (hcircl : governors.lookup "circl" = some circl) :
    LimitedExactlyIf settings.nvdLimit 30 nvd (NvdApart settings) ∧
    LimitedExactlyIf settings.circlDailyLimit 86400 circl (CirclApart settings) ∧
    (∃ l, AllSteps step OnTime (ofBucket nvd) l ∧
      ¬Throughout step (Limited settings.nvdLimit 30) (ofBucket nvd) l) ∧
    ∃ l, AllSteps step OnTime (ofBucket circl) l ∧
      ¬Throughout step (Limited settings.circlDailyLimit 86400) (ofBucket circl) l := by
  unfold GovernorSettings.buildGovernors at h
  split_ifs at h
  obtain rfl := Option.some.inj h
  obtain rfl : settings.nvdBucket (clock "nvd") = nvd := Option.some.inj hnvd
  obtain rfl : settings.circlBucket (clock "circl") = circl := Option.some.inj hcircl
  refine ⟨limitedExactlyIf_nvd settings _, limitedExactlyIf_circl settings _, ?_, ?_⟩
  · obtain ⟨l, hontime, hl⟩ := exists_not_limited_nvd settings (clock "nvd")
    exact ⟨l, hontime, fun ht => hl ht.last⟩
  · obtain ⟨l, hontime, hl⟩ := exists_not_limited_circl settings (clock "circl")
    exact ⟨l, hontime, fun ht => hl ht.last⟩

/-- NVD's bucket without a key, after its burst. -/
theorem burst_without_key (limit hours : ℤ) :
    let b := GovernorSettings.nvdBucket ⟨"", limit, hours⟩ 0
    AllSteps step OnTime (ofBucket b) (visits 0 le_rfl 0 5) ∧
      (run step (ofBucket b) (visits 0 le_rfl 0 5)).Served 0 5 0 ∧
      (run step (ofBucket b) (visits 0 le_rfl 0 5)).now = 0 ∧
      (run step (ofBucket b) (visits 0 le_rfl 0 5)).bucket.capacity = (5 : ℕ) ∧
      (run step (ofBucket b) (visits 0 le_rfl 0 5)).bucket.refillRate = 5 / 30 := by
  have hbucket : GovernorSettings.nvdBucket ⟨"", limit, hours⟩ 0 =
      TokenBucket.new "nvd" (5 : ℕ) (5 / 30) 0 := by
    simp [GovernorSettings.nvdBucket, GovernorSettings.hasNvdKey]
  rw [hbucket]
  have hburst := (served_ofBucket "nvd" (5 : ℕ) (5 / 30) 0).burst rfl rfl le_rfl
  rwa [zero_add] at hburst

/-- Five calls at once and a sixth after thirty-one seconds, without a key, and two calls a little
more than a day apart, of one a day. -/
theorem provider_limits_oneADay :
    let nvd := visits 0 le_rfl 0 5 ++ visit 31 (by norm_num) 5
    let circl := visit 0 le_rfl 0 ++ visit 86401 (by norm_num) 1
    Throughout step (Limited 5 30) (ofBucket (GovernorSettings.nvdBucket ⟨"", 1, 6⟩ 0)) nvd ∧
      Throughout step (Limited 1 86400) (ofBucket (GovernorSettings.circlBucket ⟨"", 1, 6⟩ 0))
        circl := by
  intro nvd circl
  have hbuild : GovernorSettings.buildGovernors ⟨"", 1, 6⟩ (fun _ => 0) = some _ := rfl
  obtain ⟨hnvd, hcircl, -⟩ := provider_limits hbuild rfl rfl
  refine ⟨(hnvd nvd ?_).1 fun k hk => ?_, (hcircl circl ?_).1 ⟨by decide, fun k hk => ?_⟩⟩
  · obtain ⟨hontime, hburst, -⟩ := burst_without_key 1 6
    exact allSteps_append.mpr ⟨hontime, hburst.onTime _ 5⟩
  · have hcalls : begun 0 nvd = [0, 0, 0, 0, 0, 31] := by
      simp [nvd, begun, visits, visit]
    change k + 5 < (begun 0 nvd).length at hk
    show callAt (begun 0 nvd) k + 30 < callAt (begun 0 nvd) (k + 5)
    rw [hcalls] at hk ⊢
    have hk : k + 5 < 6 := hk
    obtain rfl : k = 0 := by omega
    norm_num [callAt]
  · have hstart := served_ofBucket "circl" 20 (((1 : ℤ) : ℚ) / 86400) 0
    obtain ⟨hserved, -⟩ := hstart.visit rfl rfl le_rfl (by norm_num [ofBucket, TokenBucket.new])
    exact allSteps_append.mpr ⟨hstart.onTime le_rfl 0, hserved.onTime _ 1⟩
  · have hcalls : begun 0 circl = [0, 86401] := by
      simp [circl, begun, visit]
    change k + 1 < (begun 0 circl).length at hk
    show Shaper.Relieved 20 (((1 : ℤ) : ℚ) / 86400) (callAt (begun 0 circl)) 1 k
    rw [hcalls] at hk ⊢
    obtain rfl : k = 0 := by simpa using hk
    refine ⟨1, le_rfl, le_rfl, fun i hi => ?_⟩
    obtain rfl : i = 0 := Nat.le_zero.mp hi
    norm_num [callAt, Shaper.backlog]

/-- **Six requests in six seconds**, without a key. -/
theorem not_limited_without_key :
    let l := visits 0 le_rfl 0 5 ++ visits (1 / (5 / 30)) (by norm_num) 5 1
    AllSteps step OnTime (ofBucket (GovernorSettings.nvdBucket ⟨"", 20000, 6⟩ 0)) l ∧
      ¬(run step (ofBucket (GovernorSettings.nvdBucket ⟨"", 20000, 6⟩ 0)) l).Limited 5 30 := by
  obtain ⟨hontime, hburst, hnow, hcapacity, hrate⟩ := burst_without_key 20000 6
  obtain ⟨hontime', hserved, hnow'⟩ :=
    hburst.steady hcapacity hrate (by norm_num) (by norm_num) 1
  refine ⟨allSteps_append.mpr ⟨hontime, hontime'⟩, ?_⟩
  rw [run_append]
  refine hserved.not_limited (by norm_num) ?_
  rw [hnow', hnow]
  norm_num

end RateGovernor

end CveManagement
