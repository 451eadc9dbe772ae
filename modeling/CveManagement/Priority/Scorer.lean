import CveManagement.Governance.Schema
import CveManagement.Library.Rounding
import Mathlib

/-!
# The priority score

`compute_priority_score` of `app/models/priority.py`: five signals, each worth a number of
points, summed and clamped to `[0, 100]`. The points of a signal are a definition of their
own here; the score is their sum (`CveManagement.computePriorityScore`).

The CVSS points are the greater of what the severity is worth and what the score is worth
(`CveManagement.cvssPoints_eq_max`), which is what the comparisons of scores below rest on.
-/

namespace CveManagement

/-- `cves.severity`, by its `CHECK`. `upper` leaves each of the texts as it is. -/
inductive Severity
  | critical
  | high
  | medium
  | low
  | none
  deriving DecidableEq, Repr

/-- The columns of `cves` that a score is computed from. -/
structure CveSignals where
  cvssV3Score : Option ℚ
  cvssV2Score : Option ℚ
  severity : Option Severity
  epssScore : Option ℚ
  isKev : Bool
  publishedAt : Instant
  hasPublicPoc : Option Bool
  hasNucleiTemplate : Option Bool

/-- A day, in microseconds. -/
def dayMicros : ℤ := 24 * 60 * 60 * 1000000

/-! ### The signals -/

/-- `round(epss * EPSS_WEIGHT_MAX)`. -/
def epssPoints (epssScore : Option ℚ) : ℤ := Rounding.halfEven (epssScore.getD 0 * 40)

/-- The bands of severity and CVSS. -/
def cvssPoints (severity : Option Severity) (cvss : ℚ) : ℤ :=
  if severity = some .critical ∨ 9 ≤ cvss then 25
  else if severity = some .high ∨ 7 ≤ cvss then 18
  else if severity = some .medium ∨ 4 ≤ cvss then 10
  else if severity = some .low ∨ 0 < cvss then 4
  else 0

/-- `KEV_WEIGHT`. -/
def kevPoints (isKev : Bool) : ℤ := if isKev then 25 else 0

/-- `(now - pub).days`. -/
def ageDays (now publishedAt : Instant) : ℤ :=
  -- whole days are rounded down, so a date in the future is `-1` day old or less
  let elapsed : ℤ := now - publishedAt
  elapsed / dayMicros

/-- The recency of a CVE, by the whole days since it was published. -/
def recencyPoints (now : Instant) : Option Instant → ℤ
  | none => 0
  | some publishedAt =>
    if ageDays now publishedAt ≤ 30 then 10
    else if ageDays now publishedAt ≤ 90 then 6
    else if ageDays now publishedAt ≤ 365 then 3
    else 0

/-- `EXPL_WEIGHT_NUCLEI` or `EXPL_WEIGHT_POC`. -/
def exploitabilityPoints (hasPublicPoc hasNucleiTemplate : Bool) : ℤ :=
  -- never both: a template comes with its proof of concept
  if hasNucleiTemplate then 8 else if hasPublicPoc then 5 else 0

/-- `min(100, max(0, score))`. -/
def clampScore (score : ℤ) : ℤ := min 100 (max 0 score)

/-- **`compute_priority_score`**. -/
def computePriorityScore (now : Instant) (cvssScore : Option ℚ) (severity : Option Severity)
    (epssScore : Option ℚ) (isKev : Bool) (publishedAt : Option Instant)
    (hasPublicPoc hasNucleiTemplate : Bool) : ℤ :=
  clampScore
    (epssPoints epssScore + cvssPoints severity (cvssScore.getD 0) + kevPoints isKev +
      recencyPoints now publishedAt + exploitabilityPoints hasPublicPoc hasNucleiTemplate)

/-- `a or b`, of two scores: a zero counts as missing. -/
def scoreOr (a b : Option ℚ) : Option ℚ := if a.getD 0 = 0 then b else a

/-! ### Clamping -/

/-- **Two sums are clamped to one score** when they are equal or out of range on one side. -/
theorem clampScore_eq_iff {a b : ℤ} : clampScore a = clampScore b ↔
    a = b ∨ (100 ≤ a ∧ 100 ≤ b) ∨ (a ≤ 0 ∧ b ≤ 0) := by
  unfold clampScore
  omega

/-! ### The bands -/

/-- What the severity is worth. -/
def severityPoints : Option Severity → ℤ
  | some .critical => 25
  | some .high => 18
  | some .medium => 10
  | some .low => 4
  | some .none => 0
  | none => 0

/-- What a CVSS score is worth. -/
def bandPoints (cvss : ℚ) : ℤ :=
  if 9 ≤ cvss then 25 else if 7 ≤ cvss then 18 else if 4 ≤ cvss then 10
  else if 0 < cvss then 4 else 0

/-- **The points are those of the severity or those of the score, whichever are more.** -/
theorem cvssPoints_eq_max (severity : Option Severity) (cvss : ℚ) :
    cvssPoints severity cvss = max (severityPoints severity) (bandPoints cvss) := by
  unfold cvssPoints bandPoints
  rcases severity with _ | severity
  · simp only [severityPoints, reduceCtorEq, false_or]
    split_ifs <;> rfl
  · cases severity <;> simp only [severityPoints, Option.some.injEq, reduceCtorEq, false_or,
      true_or, if_true] <;> split_ifs <;> rfl

theorem bandPoints_nonneg (cvss : ℚ) : 0 ≤ bandPoints cvss := by
  unfold bandPoints
  split_ifs <;> omega

theorem bandPoints_of_nonpos {cvss : ℚ} (h : cvss ≤ 0) : bandPoints cvss = 0 := by
  unfold bandPoints
  rw [if_neg (by linarith), if_neg (by linarith), if_neg (by linarith), if_neg (by linarith)]

/-- A higher score is worth as much at least. -/
theorem bandPoints_mono : Monotone bandPoints := by
  intro a b hab
  unfold bandPoints
  split_ifs <;> first | decide | linarith

/-- A positive score is worth at least the lowest band. -/
theorem four_le_bandPoints {cvss : ℚ} (h : 0 < cvss) : 4 ≤ bandPoints cvss := by
  unfold bandPoints
  split_ifs <;> omega

theorem severityPoints_nonneg (severity : Option Severity) : 0 ≤ severityPoints severity := by
  rcases severity with _ | severity
  · decide
  · cases severity <;> decide

end CveManagement
