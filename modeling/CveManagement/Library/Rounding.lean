import Mathlib.Algebra.Order.Round
import Mathlib.Data.Int.ConditionallyCompleteOrder
import Mathlib.Tactic.Linarith
import Mathlib.Tactic.NormNum

/-!
# Two ways to round a half

Rounding to the nearest integer, with ties to even (`Rounding.halfEven`) and with ties away
from zero (`Rounding.halfAway`). They differ only at a tie, by one and in a direction that
the sign and the integer part decide: `Rounding.halfAway_eq` says how.
-/

namespace Rounding

variable {α : Type*} [Field α] [LinearOrder α] [IsStrictOrderedRing α] [FloorRing α]

/-- The nearest integer, a tie going to the even one. -/
def halfEven (x : α) : ℤ := if Int.fract x = 1 / 2 ∧ Even ⌊x⌋ then ⌊x⌋ else round x

/-- The nearest integer, a tie going away from zero. -/
def halfAway (x : α) : ℤ := if 0 ≤ x then round x else -round (-x)

/-- What ties away from zero gain over ties to even. -/
def tieGain (x : α) : ℤ :=
  if Int.fract x = 1 / 2 then
    if 0 ≤ x then if Even ⌊x⌋ then 1 else 0 else if Even ⌊x⌋ then 0 else -1
  else 0

omit [IsStrictOrderedRing α] in
/-- A number is its integer part and a half, at a tie. -/
theorem eq_floor_add_half {x : α} (h : Int.fract x = 1 / 2) : x = ⌊x⌋ + 1 / 2 := by
  rw [← h, Int.floor_add_fract]

/-- `round` takes a tie up. -/
theorem round_of_tie {x : α} (h : Int.fract x = 1 / 2) : round x = ⌊x⌋ + 1 := by
  have hx := eq_floor_add_half h
  rw [round_eq_iff, Set.mem_Ico]
  push_cast
  constructor <;> linarith

/-- So the negative of a tie is rounded to the integer part. -/
theorem round_neg_of_tie {x : α} (h : Int.fract x = 1 / 2) : round (-x) = -⌊x⌋ := by
  have hx := eq_floor_add_half h
  rw [round_eq_iff, Set.mem_Ico]
  push_cast
  constructor <;> linarith

/-- Away from a tie rounding commutes with the sign. -/
theorem round_neg_of_not_tie {x : α} (h : Int.fract x ≠ 1 / 2) : round (-x) = -round x := by
  have hfract : x - ⌊x⌋ = Int.fract x := Int.self_sub_floor x
  have hnonneg : 0 ≤ Int.fract x := Int.fract_nonneg x
  have hlt : Int.fract x < 1 := Int.fract_lt_one x
  rcases lt_or_gt_of_ne h with hlow | hhigh
  · have hx : round x = ⌊x⌋ := by
      rw [round_eq_iff, Set.mem_Ico]
      constructor <;> linarith
    rw [hx, round_eq_iff, Set.mem_Ico]
    push_cast
    constructor <;> linarith
  · have hx : round x = ⌊x⌋ + 1 := by
      rw [round_eq_iff, Set.mem_Ico]
      push_cast
      constructor <;> linarith
    rw [hx, round_eq_iff, Set.mem_Ico]
    push_cast
    constructor <;> linarith

/-- **The two differ by the gain.** -/
theorem halfAway_eq (x : α) : halfAway x = halfEven x + tieGain x := by
  rw [halfAway, halfEven, tieGain]
  by_cases htie : Int.fract x = 1 / 2
  · rw [round_of_tie htie, round_neg_of_tie htie]
    by_cases heven : Even ⌊x⌋
    · simp only [htie, heven, and_self, if_true]
      split_ifs <;> omega
    · simp only [htie, heven, and_false, if_true, if_false]
      split_ifs <;> omega
  · rw [round_neg_of_not_tie htie]
    simp only [htie, false_and, if_false, neg_neg, ite_self, add_zero]

/-- Rounding to even does not go below an integer that bounds the number from below. -/
theorem le_halfEven {x : α} {n : ℤ} (h : (n : α) ≤ x) : n ≤ halfEven x := by
  rw [halfEven]
  split_ifs
  · exact Int.le_floor.mpr h
  · rw [round_eq]
    exact Int.le_floor.mpr (by linarith)

/-- Nor above one that bounds it from above. -/
theorem halfEven_le {x : α} {n : ℤ} (h : x ≤ n) : halfEven x ≤ n := by
  rw [halfEven]
  split_ifs
  · exact Int.floor_le_iff.mpr (by linarith)
  · rw [round_eq]
    exact Int.floor_le_iff.mpr (by linarith)

/-- The nearest integer below. -/
theorem halfEven_of_lt_half {x : α} (h : Int.fract x < 1 / 2) : halfEven x = ⌊x⌋ := by
  have hfract : x - ⌊x⌋ = Int.fract x := Int.self_sub_floor x
  have hnonneg : 0 ≤ Int.fract x := Int.fract_nonneg x
  rw [halfEven, if_neg fun hc => h.ne hc.1, round_eq_iff, Set.mem_Ico]
  constructor <;> linarith

/-- The nearest integer above. -/
theorem halfEven_of_half_lt {x : α} (h : 1 / 2 < Int.fract x) : halfEven x = ⌊x⌋ + 1 := by
  have hfract : x - ⌊x⌋ = Int.fract x := Int.self_sub_floor x
  have hlt : Int.fract x < 1 := Int.fract_lt_one x
  rw [halfEven, if_neg fun hc => h.ne' hc.1, round_eq_iff, Set.mem_Ico]
  push_cast
  constructor <;> linarith

/-- **Rounding is monotone.** -/
theorem halfEven_mono : Monotone (halfEven : α → ℤ) := by
  intro x y hxy
  have hlower : ⌊y⌋ ≤ halfEven y := le_halfEven (Int.floor_le y)
  have hupper : halfEven x ≤ ⌊x⌋ + 1 := by
    refine halfEven_le ?_
    push_cast
    exact (Int.lt_floor_add_one x).le
  rcases (Int.floor_mono hxy).lt_or_eq with hfloor | hfloor
  · exact hupper.trans (Int.add_one_le_of_lt hfloor |>.trans hlower)
  · -- between the same integers, by the side of the middle on which the two are
    have hfract : Int.fract x ≤ Int.fract y := by
      rw [Int.fract, Int.fract, hfloor]
      linarith
    rcases lt_trichotomy (Int.fract x) (1 / 2) with hx | hx | hx
    · rw [halfEven_of_lt_half hx, hfloor]
      exact hlower
    · rcases hfract.lt_or_eq with hlt | heq
      · rw [hx] at hlt
        rw [halfEven_of_half_lt hlt, ← hfloor]
        exact hupper
      · have hsame : x = y := by rw [← Int.floor_add_fract x, hfloor, heq, Int.floor_add_fract]
        rw [hsame]
    · rw [halfEven_of_half_lt hx, halfEven_of_half_lt (hx.trans_le hfract), hfloor]

/-- The magnitude is rounded. -/
theorem abs_halfAway (x : α) : |halfAway x| = round |x| := by
  have hnonneg : ∀ y : α, 0 ≤ y → 0 ≤ round y := fun y hy => by
    rw [round_eq, Int.floor_nonneg]
    linarith
  rw [halfAway]
  split_ifs with hx
  · rw [abs_of_nonneg (hnonneg x hx), abs_of_nonneg hx]
  · have hneg : x < 0 := not_le.mp hx
    rw [abs_neg, abs_of_nonneg (hnonneg (-x) (neg_nonneg.mpr hneg.le)), abs_of_neg hneg]

/-- **Below a whole number** is rounded what lies below it by more than a half. -/
theorem abs_halfAway_lt_iff {x : α} {n : ℤ} : |halfAway x| < n ↔ |x| < n - 1 / 2 := by
  rw [abs_halfAway, round_eq, Int.floor_lt, lt_sub_iff_add_lt]

end Rounding
