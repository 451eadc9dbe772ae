import Mathlib.Algebra.Order.Field.Basic
import Mathlib.Algebra.BigOperators.Group.List.Basic
import Mathlib.Algebra.Order.BigOperators.Group.List
import Mathlib.Data.Finset.Max
import Mathlib.Order.Interval.Finset.Nat
import Mathlib.Tactic.Linarith
import Mathlib.Tactic.Ring

/-!
# Metered grants

A meter hands out amounts over time, out of a level that refills at a constant rate up to a
capacity. The level is the potential of the usual argument: what has been handed out since a
point in time, together with the level, is at most the capacity and what has flowed in since
(`Meter.Balanced.since`). As the level is never negative, every window of time then sees at most
the capacity and the inflow of that window (`Meter.Balanced.window`).
-/

namespace Meter

variable {K : Type*} [Field K] [LinearOrder K] [IsStrictOrderedRing K]

/-- The entries of a log that are stamped within a window. -/
def within (log : List (K × K)) (s t : K) : List (K × K) :=
  log.filter fun g => decide (s ≤ g.1) && decide (g.1 ≤ t)

/-- What has been handed out within a window. -/
def spent (log : List (K × K)) (s t : K) : K := ((within log s t).map Prod.snd).sum

variable {log : List (K × K)} {capacity rate level last now cost s t : K}

omit [Field K] [IsStrictOrderedRing K] in
theorem within_concat_of_mem {g : K × K} (hs : s ≤ g.1) (ht : g.1 ≤ t) :
    within (log ++ [g]) s t = within log s t ++ [g] := by
  simp [within, hs, ht]

omit [Field K] [IsStrictOrderedRing K] in
theorem within_concat_of_not_mem {g : K × K} (h : ¬(s ≤ g.1 ∧ g.1 ≤ t)) :
    within (log ++ [g]) s t = within log s t := by
  simpa [within] using h

omit [Field K] [IsStrictOrderedRing K] in
/-- A window may end with the last entry of the log. -/
theorem within_eq_of_le (hlast : ∀ g ∈ log, g.1 ≤ last) (ht : last ≤ t) :
    within log s t = within log s last := by
  refine List.filter_congr fun g hg => ?_
  simp [hlast g hg, (hlast g hg).trans ht]

omit [Field K] [IsStrictOrderedRing K] in
/-- A window after the last entry is empty. -/
theorem within_eq_nil_of_lt (hlast : ∀ g ∈ log, g.1 ≤ last) (hs : last < s) :
    within log s t = [] := by
  refine List.filter_eq_nil_iff.mpr fun g hg => ?_
  simp [not_le_of_gt (lt_of_le_of_lt (hlast g hg) hs)]

omit [Field K] [IsStrictOrderedRing K] in
theorem length_within_map (f : ℕ → K × K) (m : ℕ) :
    (within ((List.range m).map f) s t).length =
      ((Finset.range m).filter fun i => s ≤ (f i).1 ∧ (f i).1 ≤ t).card := by
  have hp : ∀ i ∈ List.range m, (decide (s ≤ (f i).1) && decide ((f i).1 ≤ t)) =
      decide (s ≤ (f i).1 ∧ (f i).1 ≤ t) := fun i _ => (Bool.decide_and _ _).symm
  rw [within, List.filter_map, List.length_map]
  exact congrArg List.length (List.filter_congr hp)

/-- **When no window of a log has more than `n` entries**: when any `n + 1` successive ones span
more than a window. -/
theorem forall_length_within_iff {f : ℕ → K × K} {m n : ℕ} {width : K}
    (hf : ∀ i j, i ≤ j → j < m → (f i).1 ≤ (f j).1) :
    (∀ s, (within ((List.range m).map f) s (s + width)).length ≤ n) ↔
      ∀ k, k + n < m → (f k).1 + width < (f (k + n)).1 := by
  simp only [length_within_map]
  constructor
  · intro h k hk
    by_contra hle
    rw [not_lt] at hle
    have hall : Finset.Icc k (k + n) ⊆ (Finset.range m).filter fun i =>
        (f k).1 ≤ (f i).1 ∧ (f i).1 ≤ (f k).1 + width := fun i hi => by
      obtain ⟨hki, hin⟩ := Finset.mem_Icc.mp hi
      refine Finset.mem_filter.mpr ⟨Finset.mem_range.mpr (by omega), hf k i hki (by omega), ?_⟩
      exact (hf i (k + n) hin hk).trans hle
    have hcard := (Finset.card_le_card hall).trans (h (f k).1)
    rw [Nat.card_Icc] at hcard
    omega
  · intro h s
    by_contra hlt
    rw [not_le] at hlt
    have hne := Finset.card_pos.mp (n.zero_le.trans_lt hlt)
    generalize hS : ((Finset.range m).filter fun i => s ≤ (f i).1 ∧ (f i).1 ≤ s + width) = S
      at hlt hne
    have hmem : ∀ i ∈ S, i < m ∧ s ≤ (f i).1 ∧ (f i).1 ≤ s + width := fun i hi => by
      rw [← hS] at hi
      obtain ⟨hm, hwindow⟩ := Finset.mem_filter.mp hi
      exact ⟨Finset.mem_range.mp hm, hwindow⟩
    -- the first entry of the window, and the last one
    obtain ⟨-, hfirst, -⟩ := hmem _ (S.min'_mem hne)
    obtain ⟨hm, -, hlast⟩ := hmem _ (S.max'_mem hne)
    have hspan : S ⊆ Finset.Icc (S.min' hne) (S.max' hne) := fun i hi =>
      Finset.mem_Icc.mpr ⟨S.min'_le i hi, S.le_max' i hi⟩
    have hcard := Finset.card_le_card hspan
    rw [Nat.card_Icc] at hcard
    have hspaced := h (S.min' hne) (by omega)
    have hle := hf (S.min' hne + n) (S.max' hne) (by omega) hm
    linarith

/-- **A meter in balance**, with its log, its level, and the point in time of its last
operation. -/
structure Balanced (capacity rate : K) (log : List (K × K)) (level last : K) : Prop where
  stamped : ∀ g ∈ log, g.1 ≤ last
  level_nonneg : 0 ≤ level
  level_le : level ≤ capacity
  /-- The potential. -/
  since : ∀ s ≤ last, spent log s last + level ≤ capacity + rate * (last - s)
  window : ∀ s t, s ≤ t → spent log s t ≤ capacity + rate * (t - s)

/-- A full meter without a log is in balance. -/
theorem balanced_nil (hcapacity : 0 ≤ capacity) (hrate : 0 ≤ rate) :
    Balanced capacity rate [] capacity last where
  stamped _ hg := absurd hg List.not_mem_nil
  level_nonneg := hcapacity
  level_le := le_rfl
  since s hs := by
    have hflow : 0 ≤ rate * (last - s) := mul_nonneg hrate (sub_nonneg.mpr hs)
    simpa [spent, within] using hflow
  window s t hst := by
    have hflow : 0 ≤ rate * (t - s) := mul_nonneg hrate (sub_nonneg.mpr hst)
    simpa [spent, within] using add_nonneg hcapacity hflow

/-- **Refilling keeps the balance.** -/
theorem Balanced.refill (h : Balanced capacity rate log level last) (hrate : 0 ≤ rate)
    (hnow : last ≤ now) :
    Balanced capacity rate log (min capacity (level + (now - last) * rate)) now where
  stamped g hg := (h.stamped g hg).trans hnow
  level_nonneg := by
    have hflow : 0 ≤ (now - last) * rate := mul_nonneg (sub_nonneg.mpr hnow) hrate
    exact le_min (h.level_nonneg.trans h.level_le) (add_nonneg h.level_nonneg hflow)
  level_le := min_le_left _ _
  since s hs := by
    rcases le_or_gt s last with hle | hlt
    · -- the window grows by what flows in
      have hspent : spent log s now = spent log s last := by
        rw [spent, within_eq_of_le h.stamped hnow, spent]
      have hlevel := min_le_right capacity (level + (now - last) * rate)
      have hbefore := h.since s hle
      have hflow : rate * (now - s) = rate * (last - s) + (now - last) * rate := by ring
      linarith
    · -- nothing has been handed out since, and the level is at most the capacity
      have hspent : spent log s now = 0 := by
        rw [spent, within_eq_nil_of_lt h.stamped hlt, List.map_nil, List.sum_nil]
      have hlevel := min_le_left capacity (level + (now - last) * rate)
      have hflow : 0 ≤ rate * (now - s) := mul_nonneg hrate (sub_nonneg.mpr hs)
      linarith
  window := h.window

/-- **Handing out what the level has keeps the balance.** -/
theorem Balanced.grant (h : Balanced capacity rate log level last) (hrate : 0 ≤ rate)
    (hcost : 0 ≤ cost) (hle : cost ≤ level) :
    Balanced capacity rate (log ++ [(last, cost)]) (level - cost) last := by
  have hsince : ∀ s ≤ last, spent (log ++ [(last, cost)]) s last + (level - cost) ≤
      capacity + rate * (last - s) := fun s hs => by
    have hspent : spent (log ++ [(last, cost)]) s last = spent log s last + cost := by
      simp [spent, within_concat_of_mem (g := (last, cost)) hs le_rfl]
    have hbefore := h.since s hs
    linarith
  have hstamped : ∀ g ∈ log ++ [(last, cost)], g.1 ≤ last := fun g hg => by
    rcases List.mem_append.mp hg with hg | hg
    · exact h.stamped g hg
    · rw [List.mem_singleton.mp hg]
  refine ⟨hstamped, sub_nonneg.mpr hle, (sub_le_self _ hcost).trans h.level_le, hsince,
    fun s t hst => ?_⟩
  by_cases hmem : s ≤ last ∧ last ≤ t
  · -- the window ends with the new entry, and the potential bounds it
    have hspent : spent (log ++ [(last, cost)]) s t = spent (log ++ [(last, cost)]) s last := by
      rw [spent, within_eq_of_le hstamped hmem.2, spent]
    have hflow : rate * (last - s) ≤ rate * (t - s) :=
      mul_le_mul_of_nonneg_left (sub_le_sub_right hmem.2 s) hrate
    have hlevel := hsince s hmem.1
    linarith
  · rw [spent, within_concat_of_not_mem hmem]
    exact h.window s t hst

/-! ### Waiting for the level -/

/-- **When the level suffices**: if the capacity does, after as many seconds as the inflow takes for
what is missing. -/
theorem le_refill_iff (hrate : 0 < rate) :
    cost ≤ min capacity (level + (now - last) * rate) ↔
      cost ≤ capacity ∧ (cost - level) / rate ≤ now - last := by
  rw [le_min_iff, div_le_iff₀ hrate, sub_le_iff_le_add']

/-- As long as the level does not suffice there is something to wait for. -/
theorem wait_pos (hrate : 0 < rate) (h : level < cost) : 0 < (cost - level) / rate :=
  div_pos (sub_pos.mpr h) hrate

end Meter
