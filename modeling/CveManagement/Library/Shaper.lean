import Mathlib.Algebra.Order.Field.Basic
import Mathlib.Algebra.Order.Group.MinMax
import Mathlib.Data.Finset.Lattice.Fold
import Mathlib.Tactic.Linarith
import Mathlib.Tactic.Ring

/-!
# Requests that wait for a meter

Requests of one unit each come at the points in time `arrival 0 ≤ arrival 1 ≤ …` to a meter that
refills at a constant rate up to a capacity, and are served in turn, each as soon as the level has
its unit. When the meter would be full again tells its level (`Shaper.level`), so the points in
time at which the requests are served follow from those at which they come, by a recursion
(`Shaper.served`) and in closed form (`Shaper.served_le_iff`).

When no window of time sees more than `n` of them served is thereby a condition on the arrivals
(`Shaper.served_add_lt_iff`), which is about the arrivals of `n + 1` successive requests alone
where the capacity is the limit itself (`Shaper.relieved_iff_of_capacity`).
-/

namespace Shaper

variable {K : Type*} [Field K] [LinearOrder K]

section Definitions

variable (capacity rate start : K) (arrival : ℕ → K)

/-- When the meter is full again, after the first `k` requests. -/
def full : ℕ → K
  | 0 => start
  | k + 1 => max (full k) (arrival k) + 1 / rate

/-- **When the `k`-th request is served.** -/
def served (k : ℕ) : K :=
  max (arrival k) (full rate start arrival k - (capacity - 1) / rate)

/-- The level of a meter that is full again at a point in time. -/
def level (fullAt now : K) : K := min capacity (capacity - rate * (fullAt - now))

/-- The time by which the `i`-th request delays the `k`-th one: the requests from the `i`-th on
have the capacity at once, and the rate for the rest. -/
def backlog (i k : ℕ) : K := max 0 (((k : K) - i + 1 - capacity) / rate)

/-- **The `n` requests after the `k`-th leave a gap**: one of them, the `d`-th, comes more than the
time for `d + capacity - 1` units, or for `n` of them, after nobody delays the `k`-th any more. -/
def Relieved (n k : ℕ) : Prop :=
  ∃ d, 1 ≤ d ∧ d ≤ n ∧ ∀ i ≤ k,
    arrival i + backlog capacity rate i k + min (n / rate) ((d + capacity - 1) / rate) <
      arrival (k + d)

end Definitions

variable {capacity rate start now later : K} {arrival arrival' : ℕ → K} {n k i j : ℕ}

/-! ### The points in time -/

theorem full_congr (h : ∀ i < k, arrival i = arrival' i) :
    full rate start arrival k = full rate start arrival' k := by
  induction k with
  | zero => rfl
  | succ k ih => rw [full, full, ih fun i hi => h i (hi.trans k.lt_succ_self), h k k.lt_succ_self]

theorem served_congr (h : ∀ i ≤ k, arrival i = arrival' i) :
    served capacity rate start arrival k = served capacity rate start arrival' k := by
  rw [served, served, h k le_rfl, full_congr fun i hi => h i hi.le]

variable [IsStrictOrderedRing K]

theorem full_le_succ (hrate : 0 < rate) :
    full rate start arrival k ≤ full rate start arrival (k + 1) := by
  have hle : full rate start arrival k ≤ max (full rate start arrival k) (arrival k) :=
    le_max_left _ _
  exact hle.trans (le_add_of_nonneg_right (one_div_pos.mpr hrate).le)

theorem served_le_succ (hrate : 0 < rate) (harrival : arrival k ≤ arrival (k + 1)) :
    served capacity rate start arrival k ≤ served capacity rate start arrival (k + 1) :=
  max_le_max harrival (sub_le_sub_right (full_le_succ hrate) _)

/-- The requests are served in the order of their arrival. -/
theorem served_le_served (hrate : 0 < rate) (harrival : ∀ i, i < k → arrival i ≤ arrival (i + 1))
    (hik : i ≤ k) :
    served capacity rate start arrival i ≤ served capacity rate start arrival k := by
  induction k, hik using Nat.le_induction with
  | base => exact le_rfl
  | succ k hik ih =>
    exact (ih fun j hj => harrival j (hj.trans k.lt_succ_self)).trans
      (served_le_succ hrate (harrival k k.lt_succ_self))

/-! ### The level -/

/-- **Refilling.** -/
theorem level_refill (hrate : 0 < rate) {fullAt : K} (h : now ≤ later) :
    min capacity (level capacity rate fullAt now + (later - now) * rate) =
      level capacity rate fullAt later := by
  have hflow : 0 ≤ (later - now) * rate := mul_nonneg (sub_nonneg.mpr h) hrate.le
  rw [level, level, min_add, ← min_assoc, min_eq_left (le_add_of_nonneg_right hflow)]
  congr 1
  ring

/-- **When there is a unit.** -/
theorem one_le_level_iff (hrate : 0 < rate) (hone : 1 ≤ capacity) {fullAt : K} :
    1 ≤ level capacity rate fullAt now ↔ fullAt - (capacity - 1) / rate ≤ now := by
  rw [level, le_min_iff, and_iff_right hone, sub_le_comm, le_div_iff₀ hrate, mul_comm rate,
    le_sub_comm]

/-- **Serving a request**: the meter is full again one unit later. -/
theorem level_sub_one (hrate : 0 < rate) (hone : 1 ≤ capacity) :
    level capacity rate (full rate start arrival k) (served capacity rate start arrival k) - 1 =
      level capacity rate (full rate start arrival (k + 1))
        (served capacity rate start arrival k) := by
  have hwait : 0 ≤ (capacity - 1) / rate := div_nonneg (sub_nonneg.mpr hone) hrate.le
  rw [full]
  -- the request finds the meter full, or else it is served before the meter is full
  have hmax : max (full rate start arrival k) (arrival k) =
      max (full rate start arrival k) (served capacity rate start arrival k) := by
    rw [served, max_left_comm, max_eq_left (sub_le_self _ hwait), max_comm]
  rw [hmax]
  generalize full rate start arrival k = fullAt
  generalize served capacity rate start arrival k = now
  have hunit : rate * (1 / rate) = 1 := mul_one_div_cancel hrate.ne'
  rw [level, level]
  rcases le_total fullAt now with hle | hle
  · have hfull : rate * (fullAt - now) ≤ 0 :=
      mul_nonpos_of_nonneg_of_nonpos hrate.le (sub_nonpos.mpr hle)
    rw [max_eq_right hle, add_sub_cancel_left, hunit, min_eq_left (by linarith),
      min_eq_right (by linarith)]
  · have hmissing : 0 ≤ rate * (fullAt - now) := mul_nonneg hrate.le (sub_nonneg.mpr hle)
    have hnext : rate * (fullAt + 1 / rate - now) = rate * (fullAt - now) + 1 := by
      rw [add_sub_right_comm, mul_add, hunit]
    rw [max_eq_left hle, hnext, min_eq_right (by linarith), min_eq_right (by linarith)]
    ring

/-! ### Closed forms -/

theorem full_le_iff :
    full rate start arrival k ≤ now ↔
      start + k / rate ≤ now ∧ ∀ i < k, arrival i + ((k : K) - i) / rate ≤ now := by
  induction k generalizing now with
  | zero => simp [full]
  | succ k ih =>
    rw [full, ← le_sub_iff_add_le, max_le_iff, ih, and_assoc, Nat.cast_succ]
    refine and_congr ?_ ?_
    · rw [le_sub_iff_add_le, add_assoc, add_div]
    · constructor
      · rintro ⟨hbefore, hlast⟩ i hi
        rcases Nat.lt_succ_iff_lt_or_eq.mp hi with hi | rfl
        · have h := hbefore i hi
          rw [le_sub_iff_add_le, add_assoc, ← add_div] at h
          rwa [add_sub_right_comm]
        · rwa [add_sub_cancel_left, ← le_sub_iff_add_le]
      · intro h
        refine ⟨fun i hi => ?_, ?_⟩
        · have h := h i (hi.trans k.lt_succ_self)
          rwa [add_sub_right_comm, add_div, ← add_assoc, ← le_sub_iff_add_le] at h
        · have h := h k k.lt_succ_self
          rwa [add_sub_cancel_left, ← le_sub_iff_add_le] at h

/-- **When the `k`-th request has been served**: when no earlier one delays it any more. -/
theorem served_le_iff (hrate : 0 < rate) (hone : 1 ≤ capacity) (hstart : start ≤ arrival 0)
    (harrival : ∀ i ≤ k, arrival i ≤ arrival k) :
    served capacity rate start arrival k ≤ now ↔
      ∀ i ≤ k, arrival i + backlog capacity rate i k ≤ now := by
  have hshift : ∀ x : K, x / rate - (capacity - 1) / rate = (x + 1 - capacity) / rate := fun x => by
    rw [← sub_div, sub_sub_eq_add_sub]
  have hlate : ∀ i : ℕ, arrival i + backlog capacity rate i k ≤ now ↔
      arrival i ≤ now ∧ arrival i + ((k : K) - i + 1 - capacity) / rate ≤ now := fun i => by
    rw [backlog, add_max, max_le_iff, add_zero]
  have hown : ((k : K) - k + 1 - capacity) / rate ≤ 0 := by
    rw [sub_self, zero_add]
    exact div_nonpos_of_nonpos_of_nonneg (sub_nonpos.mpr hone) hrate.le
  rw [served, max_le_iff, sub_le_iff_le_add, full_le_iff]
  constructor
  · rintro ⟨hk, -, hbefore⟩ i hi
    rw [hlate]
    refine ⟨(harrival i hi).trans hk, ?_⟩
    rcases hi.lt_or_eq with hi | rfl
    · have h := hbefore i hi
      rwa [← sub_le_iff_le_add, add_sub_assoc, hshift] at h
    · linarith
  · intro h
    have hk := (hlate k).mp (h k le_rfl)
    refine ⟨hk.1, ?_, fun i hi => ?_⟩
    · rw [← sub_le_iff_le_add, add_sub_assoc, hshift]
      have h0 := ((hlate 0).mp (h 0 k.zero_le)).2
      rw [Nat.cast_zero, sub_zero] at h0
      linarith
    · rw [← sub_le_iff_le_add, add_sub_assoc, hshift]
      exact ((hlate i).mp (h i hi.le)).2

theorem served_lt_iff (hrate : 0 < rate) (hone : 1 ≤ capacity) (hstart : start ≤ arrival 0)
    (harrival : ∀ i ≤ k, arrival i ≤ arrival k) :
    served capacity rate start arrival k < now ↔
      ∀ i ≤ k, arrival i + backlog capacity rate i k < now := by
  have hne : (Finset.range (k + 1)).Nonempty := Finset.nonempty_range_iff.mpr k.succ_ne_zero
  have hsup : served capacity rate start arrival k =
      (Finset.range (k + 1)).sup' hne fun i => arrival i + backlog capacity rate i k := by
    refine eq_of_forall_ge_iff fun t => ?_
    rw [served_le_iff hrate hone hstart harrival, Finset.sup'_le_iff]
    simp only [Finset.mem_range, Nat.lt_succ_iff]
  rw [hsup, Finset.sup'_lt_iff]
  simp only [Finset.mem_range, Nat.lt_succ_iff]

/-! ### No more than so many in a window -/

/-- Each further request adds at most one unit to the backlog. -/
theorem backlog_add_le (hrate : 0 < rate) :
    backlog capacity rate i (k + n) ≤ backlog capacity rate i k + n / rate := by
  have hn : 0 ≤ (n : K) / rate := div_nonneg (Nat.cast_nonneg n) hrate.le
  refine max_le (add_nonneg (le_max_left _ _) hn) ?_
  have hsplit : (((k + n : ℕ) : K) - i + 1 - capacity) / rate =
      ((k : K) - i + 1 - capacity) / rate + n / rate := by
    rw [← add_div, Nat.cast_add]
    congr 1
    ring
  rw [hsplit]
  exact add_le_add_left (le_max_right _ _) _

/-- The delay of the `n`-th request after the `k`-th by one between them. -/
theorem backlog_between {d : ℕ} :
    backlog capacity rate (k + d) (k + n) =
      n / rate - min (n / rate) ((d + capacity - 1) / rate) := by
  have hrest : (((k + n : ℕ) : K) - (k + d : ℕ) + 1 - capacity) / rate =
      n / rate - (d + capacity - 1) / rate := by
    rw [← sub_div, Nat.cast_add, Nat.cast_add]
    congr 1
    ring
  rw [backlog, hrest, ← max_sub_sub_left, sub_self]

/-- **When the `n`-th request after another is served a whole window later**: when one of those
between them comes late enough. -/
theorem served_add_lt_iff (hrate : 0 < rate) (hone : 1 ≤ capacity) (hstart : start ≤ arrival 0)
    (harrival : ∀ i j, i ≤ j → j ≤ k + n → arrival i ≤ arrival j) :
    served capacity rate start arrival k + n / rate < served capacity rate start arrival (k + n) ↔
      Relieved capacity rate arrival n k := by
  have hserved : ∀ t, served capacity rate start arrival k ≤ t ↔
      ∀ i ≤ k, arrival i + backlog capacity rate i k ≤ t := fun t =>
    served_le_iff hrate hone hstart fun i hi => harrival i k hi (Nat.le_add_right k n)
  rw [← not_le, served_le_iff hrate hone hstart fun i hi => harrival i _ hi le_rfl]
  push Not
  have hgap : ∀ d, served capacity rate start arrival k + n / rate <
      arrival (k + d) + backlog capacity rate (k + d) (k + n) ↔
      ∀ i ≤ k, arrival i + backlog capacity rate i k +
        min (n / rate) ((d + capacity - 1) / rate) < arrival (k + d) := fun d => by
    rw [backlog_between, ← add_sub_assoc, lt_sub_iff_add_lt, add_right_comm, add_lt_add_iff_right,
      ← lt_sub_iff_add_lt, served_lt_iff hrate hone hstart fun i hi =>
        harrival i k hi (Nat.le_add_right k n)]
    simp only [lt_sub_iff_add_lt]
  constructor
  · rintro ⟨i, hi, hlt⟩
    rcases le_or_gt i k with hik | hki
    · -- what comes up to the `k`-th delays both of them alike
      have hown := (hserved _).mp le_rfl i hik
      have hadd : backlog capacity rate i (k + n) ≤ backlog capacity rate i k + n / rate :=
        backlog_add_le hrate
      linarith
    · obtain ⟨d, rfl⟩ := Nat.exists_eq_add_of_lt hki
      exact ⟨d + 1, by omega, by omega, (hgap (d + 1)).mp hlt⟩
  · rintro ⟨d, -, hdn, hall⟩
    exact ⟨k + d, by omega, (hgap d).mpr hall⟩

/-- **Where the capacity is the limit itself**, only a whole window gives relief: any `n + 1`
successive requests come farther apart than that. -/
theorem relieved_iff_of_capacity (hrate : 0 < rate) (hn : 1 ≤ n) {m : ℕ}
    (harrival : ∀ i j, i ≤ j → j < m → arrival i ≤ arrival j) :
    (∀ k, k + n < m → Relieved (n : K) rate arrival n k) ↔
      ∀ k, k + n < m → arrival k + n / rate < arrival (k + n) := by
  have hwindow : ∀ d : ℕ, 1 ≤ d → min ((n : K) / rate) ((d + n - 1) / rate) = n / rate :=
    fun d hd => by
      refine min_eq_left (div_le_div_of_nonneg_right ?_ hrate.le)
      have hone : (1 : K) ≤ d := by exact_mod_cast hd
      linarith
  constructor
  · rintro h k hk
    obtain ⟨d, hd, hdn, hall⟩ := h k hk
    have hlt := hall k le_rfl
    rw [hwindow d hd] at hlt
    have hnonneg : 0 ≤ backlog (n : K) rate k k := le_max_left _ _
    have hle := harrival (k + d) (k + n) (by omega) hk
    linarith
  · intro h k hk
    refine ⟨n, hn, le_rfl, fun i hi => ?_⟩
    rw [hwindow n hn]
    -- nobody before the `k`-th request delays it
    have hfree : ∀ l i, i + l = k → arrival i + backlog (n : K) rate i k ≤ arrival k := by
      intro l
      induction l using Nat.strong_induction_on with
      | _ l ih =>
        intro i hil
        rcases lt_or_ge l n with hlt | hge
        · have hnone : backlog (n : K) rate i k = 0 := by
            refine max_eq_left (div_nonpos_of_nonpos_of_nonneg ?_ hrate.le)
            have hcast : ((i : K) + l) = k := by exact_mod_cast hil
            have hltK : (l : K) + 1 ≤ n := by exact_mod_cast hlt
            linarith
          rw [hnone, add_zero]
          exact harrival i k (by omega) (by omega)
        · -- the request `n` later comes a whole window later, and is behind by a window less
          have hnext := ih (l - n) (by omega) (i + n) (by omega)
          have hspaced := h i (by omega)
          have hback : backlog (n : K) rate i k ≤ backlog (n : K) rate (i + n) k + n / rate := by
            refine max_le ?_ ?_
            · exact add_nonneg (le_max_left _ _) (div_nonneg (Nat.cast_nonneg n) hrate.le)
            · have hsplit : ((k : K) - i + 1 - n) / rate =
                  ((k : K) - (i + n : ℕ) + 1 - n) / rate + n / rate := by
                rw [← add_div, Nat.cast_add]
                congr 1
                ring
              rw [hsplit]
              exact add_le_add_left (le_max_right _ _) _
          linarith
    have hle := hfree (k - i) i (by omega)
    have hlt := h k hk
    linarith

end Shaper
