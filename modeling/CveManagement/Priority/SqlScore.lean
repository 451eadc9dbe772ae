import CveManagement.Library.Ternary
import CveManagement.Priority.Scorer

/-!
# The priority score in SQL

`list_cves` and `dashboard_triage` compute the score of a CVE in SQL, by an expression that
is meant to mirror `compute_priority_score`. It does so in two of the five signals. In the
three others it differs at some inputs, by a number of points that `CveSignals.epssGain`,
`CveSignals.cvssGain` and `CveSignals.recencyGain` give:

* a tie of `epss * 40` goes away from zero in SQL, to the even neighbour in Python;
* a CVSS v2 score counts for the lowest band in SQL, for its own in Python, and beside a
  negative v3 score for nothing in Python;
* thirty days and an hour are more than thirty days in SQL, thirty whole days in Python.

`CveSignals.sqlPriority_eq_iff`: the scores are equal exactly when these cancel out, or the
clamp hides them.
-/

namespace CveManagement

namespace CveSignals

/-! ### The expression -/

/-- `ROUND(COALESCE(c.epss_score, 0) * 40)::int`. -/
def sqlEpss (c : CveSignals) : ℤ := Rounding.halfAway (c.epssScore.getD 0 * 40)

/-- `c.severity = …`. -/
def severityIs (c : CveSignals) (severity : Severity) : Ternary :=
  .compare (fun s => decide (s = severity)) c.severity

/-- `c.cvss_v3_score >= q`. -/
def v3AtLeast (c : CveSignals) (q : ℚ) : Ternary :=
  .compare (fun x => decide (q ≤ x)) c.cvssV3Score

/-- `score IS NOT NULL AND score > 0`. -/
def isPositive (score : Option ℚ) : Ternary :=
  .and (.isNotNull score) (.compare (fun x => decide (0 < x)) score)

/-- The `CASE` over severity and CVSS. -/
def sqlCvss (c : CveSignals) : ℤ :=
  if ((c.severityIs .critical).or (c.v3AtLeast 9)).Holds then 25
  else if ((c.severityIs .high).or (c.v3AtLeast 7)).Holds then 18
  else if ((c.severityIs .medium).or (c.v3AtLeast 4)).Holds then 10
  else if (((c.severityIs .low).or (isPositive c.cvssV3Score)).or
    (isPositive c.cvssV2Score)).Holds then 4
  else 0

/-- The `CASE` over `published_at`; an interval of days is so many times 24 hours, in UTC. -/
def sqlRecency (now : Instant) (c : CveSignals) : ℤ :=
  let published : ℤ := c.publishedAt
  let now : ℤ := now
  if now - 30 * dayMicros ≤ published then 10
  else if now - 90 * dayMicros ≤ published then 6
  else if now - 365 * dayMicros ≤ published then 3
  else 0

/-- The `CASE` over the flags. -/
def sqlExploitability (c : CveSignals) : ℤ :=
  if (Ternary.compare id c.hasNucleiTemplate).Holds then 8
  else if (Ternary.compare id c.hasPublicPoc).Holds then 5
  else 0

/-- `computed_priority_expr` of `list_cves`. -/
def listCvesPriority (now : Instant) (c : CveSignals) : ℤ :=
  min 100 (max 0 (c.sqlEpss + c.sqlCvss + (if c.isKev then 25 else 0) + c.sqlRecency now +
    c.sqlExploitability))

/-- `priority_expr` of `dashboard_triage`, which repeats the expression. -/
def dashboardTriagePriority (now : Instant) (c : CveSignals) : ℤ :=
  min 100 (max 0 (c.sqlEpss + c.sqlCvss + (if c.isKev then 25 else 0) + c.sqlRecency now +
    c.sqlExploitability))

/-- `compute_priority_score` of the row, with `cvss_v3_score or cvss_v2_score`. -/
def pythonPriority (now : Instant) (c : CveSignals) : ℤ :=
  computePriorityScore now (scoreOr c.cvssV3Score c.cvssV2Score) c.severity c.epssScore c.isKev
    (some c.publishedAt) (c.hasPublicPoc.getD false) (c.hasNucleiTemplate.getD false)

/-! ### Where the expression differs -/

/-- What the EPSS is worth more in SQL: one point, at a tie above an even number. -/
def epssGain (c : CveSignals) : ℤ := Rounding.tieGain (c.epssScore.getD 0 * 40)

/-- What severity and CVSS are worth more in SQL. Without a v3 score, the points by which the
band of the v2 score passes the severity and the lowest band are lost; beside a negative v3
score, a v2 score gains the lowest band. -/
def cvssGain (c : CveSignals) : ℤ :=
  if c.cvssV3Score.getD 0 = 0 then
    min 0 (max 4 (severityPoints c.severity) - bandPoints (c.cvssV2Score.getD 0))
  else if c.cvssV3Score.getD 0 < 0 ∧ 0 < c.cvssV2Score.getD 0 then
    max 0 (4 - severityPoints c.severity)
  else 0

/-- What the date is worth more in SQL: less, in the day after each limit. -/
def recencyGain (now : Instant) (c : CveSignals) : ℤ :=
  let age : ℤ := now - c.publishedAt
  if 30 * dayMicros < age ∧ age < 31 * dayMicros then -4
  else if 90 * dayMicros < age ∧ age < 91 * dayMicros then -3
  else if 365 * dayMicros < age ∧ age < 366 * dayMicros then -3
  else 0

/-- What the expression gains in all. -/
def sqlGain (now : Instant) (c : CveSignals) : ℤ := c.epssGain + c.cvssGain + c.recencyGain now

/-- What the signals are worth in Python. -/
def pythonPoints (now : Instant) (c : CveSignals) : ℤ :=
  epssPoints c.epssScore + cvssPoints c.severity ((scoreOr c.cvssV3Score c.cvssV2Score).getD 0) +
    kevPoints c.isKev + recencyPoints now (some c.publishedAt) +
    exploitabilityPoints (c.hasPublicPoc.getD false) (c.hasNucleiTemplate.getD false)

section Gains

variable (now : Instant) (c : CveSignals)

theorem sqlEpss_eq : c.sqlEpss = epssPoints c.epssScore + c.epssGain :=
  Rounding.halfAway_eq _

theorem severityIs_holds (severity : Severity) :
    (c.severityIs severity).Holds ↔ c.severity = some severity := by
  simp [severityIs]

theorem v3AtLeast_holds {q : ℚ} (hq : 0 < q) :
    (c.v3AtLeast q).Holds ↔ q ≤ c.cvssV3Score.getD 0 := by
  rw [v3AtLeast]
  rcases c.cvssV3Score with _ | x
  · simpa [Ternary.Holds, Ternary.compare] using hq
  · simp

theorem isPositive_holds (score : Option ℚ) : (isPositive score).Holds ↔ 0 < score.getD 0 := by
  rcases score with _ | x <;> simp [isPositive]

/-- The `CASE`, as bands: the v2 score counts for the lowest band only. -/
theorem sqlCvss_eq_max : c.sqlCvss =
    max (severityPoints c.severity)
      (max (bandPoints (c.cvssV3Score.getD 0)) (if 0 < c.cvssV2Score.getD 0 then 4 else 0)) := by
  -- a positive v2 score counts like a CVSS score of one
  let low : ℚ := if 0 < c.cvssV2Score.getD 0 then 1 else 0
  have hlow : low ≤ 1 ∧ (0 < low ↔ 0 < c.cvssV2Score.getD 0) ∧
      bandPoints low = if 0 < c.cvssV2Score.getD 0 then 4 else 0 := by
    by_cases hv2 : 0 < c.cvssV2Score.getD 0
    · simp only [low, if_pos hv2]
      norm_num [bandPoints, hv2]
    · simp only [low, if_neg hv2]
      norm_num [bandPoints, hv2]
  obtain ⟨hone, hpos, hband⟩ := hlow
  have hcase : c.sqlCvss = cvssPoints c.severity (max (c.cvssV3Score.getD 0) low) := by
    have hhigh : ∀ q : ℚ, 1 < q →
        (q ≤ max (c.cvssV3Score.getD 0) low ↔ q ≤ c.cvssV3Score.getD 0) := fun q hq => by
      rw [le_max_iff]
      exact or_iff_left (not_le.mpr (hone.trans_lt hq))
    simp only [sqlCvss, cvssPoints, Ternary.holds_or, severityIs_holds, isPositive_holds, or_assoc,
      c.v3AtLeast_holds (q := 9) (by norm_num), c.v3AtLeast_holds (q := 7) (by norm_num),
      c.v3AtLeast_holds (q := 4) (by norm_num), hhigh 9 (by norm_num), hhigh 7 (by norm_num),
      hhigh 4 (by norm_num), lt_max_iff, hpos]
  rw [hcase, cvssPoints_eq_max, bandPoints_mono.map_max, hband]

/-- **The CVSS points of the expression** are those of Python and the gain. -/
theorem sqlCvss_eq :
    c.sqlCvss = cvssPoints c.severity ((scoreOr c.cvssV3Score c.cvssV2Score).getD 0) +
      c.cvssGain := by
  rw [sqlCvss_eq_max, cvssPoints_eq_max, cvssGain, scoreOr]
  have hsev := severityPoints_nonneg c.severity
  rcases lt_trichotomy (c.cvssV3Score.getD 0) 0 with hneg | hzero | hpos
  · -- Python stays with the negative score, which is worth nothing
    rw [bandPoints_of_nonpos hneg.le, if_neg hneg.ne, if_neg hneg.ne,
      bandPoints_of_nonpos hneg.le]
    simp only [hneg, true_and]
    split_ifs <;> omega
  · -- Python falls back to v2, with all of its bands
    rw [if_pos hzero, if_pos hzero, hzero, bandPoints_of_nonpos le_rfl]
    rcases le_or_gt (c.cvssV2Score.getD 0) 0 with hv2 | hv2
    · rw [bandPoints_of_nonpos hv2, if_neg (not_lt.mpr hv2)]
      omega
    · have hband := four_le_bandPoints hv2
      rw [if_pos hv2]
      omega
  · -- both go by the v3 score, which is past the lowest band
    have hband := four_le_bandPoints hpos
    have hneg : ¬(c.cvssV3Score.getD 0 < 0 ∧ 0 < c.cvssV2Score.getD 0) :=
      fun h => absurd h.1 (not_lt.mpr hpos.le)
    rw [if_neg hpos.ne', if_neg hpos.ne', if_neg hneg]
    split_ifs <;> omega

/-- **The recency of the expression** is that of Python and the gain: whole days end a day
later than the interval does. -/
theorem sqlRecency_eq :
    c.sqlRecency now = recencyPoints now (some c.publishedAt) + c.recencyGain now := by
  simp only [sqlRecency, recencyPoints, recencyGain, ageDays, dayMicros]
  generalize (now : ℤ) = n
  generalize (c.publishedAt : ℤ) = p
  split_ifs <;> omega

theorem sqlExploitability_eq : c.sqlExploitability =
    exploitabilityPoints (c.hasPublicPoc.getD false) (c.hasNucleiTemplate.getD false) := by
  rw [sqlExploitability]
  rcases c.hasPublicPoc with _ | _ | _ <;> rcases c.hasNucleiTemplate with _ | _ | _ <;> decide

theorem listCvesPriority_eq :
    c.listCvesPriority now = clampScore (c.pythonPoints now + c.sqlGain now) := by
  rw [listCvesPriority, sqlEpss_eq, sqlCvss_eq, sqlRecency_eq, sqlExploitability_eq, clampScore,
    pythonPoints, sqlGain, kevPoints]
  congr 2
  ring

/-- **When the expression and the scorer agree**: what SQL gains and loses cancels out, or
both sums are out of range on one side. -/
theorem sqlPriority_eq_iff :
    (c.listCvesPriority now = c.pythonPriority now ∧
      c.dashboardTriagePriority now = c.pythonPriority now) ↔
      c.sqlGain now = 0 ∨ (100 ≤ c.pythonPoints now ∧ 100 ≤ c.pythonPoints now + c.sqlGain now) ∨
        (c.pythonPoints now ≤ 0 ∧ c.pythonPoints now + c.sqlGain now ≤ 0) := by
  have hsame : c.dashboardTriagePriority now = c.listCvesPriority now := rfl
  have hpython : c.pythonPriority now = clampScore (c.pythonPoints now) := rfl
  rw [hsame, and_self, hpython, listCvesPriority_eq, clampScore_eq_iff]
  omega

end Gains

/-- A CVE of four hundred days with an EPSS of 1.25 %. -/
def epssTie : CveSignals where
  cvssV3Score := some (75 / 10)
  cvssV2Score := none
  severity := some .high
  epssScore := some (1250 / 100000)
  isKev := false
  publishedAt := 0
  hasPublicPoc := none
  hasNucleiTemplate := none

/-- **The expression scores it 19, and Python 18.** -/
theorem not_sqlPriority_eq :
    ¬(epssTie.listCvesPriority (400 * dayMicros) = epssTie.pythonPriority (400 * dayMicros) ∧
      epssTie.dashboardTriagePriority (400 * dayMicros) =
        epssTie.pythonPriority (400 * dayMicros)) := by
  decide +kernel

end CveSignals

end CveManagement
