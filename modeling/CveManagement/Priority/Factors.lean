import CveManagement.Payload.Python
import CveManagement.Priority.Scorer
import Mathlib

/-!
# The score and its factors

`compute_priority_score` adds the points up as it goes along, `compute_priority_factors` returns
them one by one; the two are written apart, and take the severity as any text. Here both are
written as they stand. They agree (`CveManagement.ScoreInput.score_eq_clampScore_total`), and no
signal that grows lowers the score (`CveManagement.ScoreInput.scoreLaws`).
-/

namespace CveManagement

/-- The arguments of both functions. A `published_at` without time zone is taken as UTC. -/
structure ScoreInput where
  cvssScore : Option ℚ
  severity : Option Text
  epssScore : Option ℚ
  isKev : Bool
  publishedAt : Option Instant
  hasPublicPoc : Bool
  hasNucleiTemplate : Bool

/-- What `compute_priority_factors` returns. -/
structure PriorityFactors where
  epssContribution : ℤ
  cvssContribution : ℤ
  kevContribution : ℤ
  recencyContribution : ℤ
  exploitabilityContribution : ℤ

/-- The sum of the values. -/
def PriorityFactors.total (f : PriorityFactors) : ℤ :=
  f.epssContribution + f.cvssContribution + f.kevContribution + f.recencyContribution +
    f.exploitabilityContribution

namespace ScoreInput

section Functions

variable (upper : Text → Text) (now : Instant) (x : ScoreInput)

/-- **`compute_priority_score`**, with `upper` for `str.upper`. -/
def computePriorityScore : ℤ :=
  let score := 0 + Rounding.halfEven (x.epssScore.getD 0 * 40)
  let cvss := x.cvssScore.getD 0
  let sev := upper (x.severity.getD [])
  let score :=
    if sev = "CRITICAL".toList ∨ 9 ≤ cvss then score + 25
    else if sev = "HIGH".toList ∨ 7 ≤ cvss then score + 18
    else if sev = "MEDIUM".toList ∨ 4 ≤ cvss then score + 10
    else if sev = "LOW".toList ∨ 0 < cvss then score + 4
    else score
  let score := if x.isKev then score + 25 else score
  let score := match x.publishedAt with
    | none => score
    | some pub =>
      if ageDays now pub ≤ 30 then score + 10
      else if ageDays now pub ≤ 90 then score + 6
      else if ageDays now pub ≤ 365 then score + 3
      else score
  let score :=
    if x.hasNucleiTemplate then score + 8
    else if x.hasPublicPoc then score + 5
    else score
  min 100 (max 0 score)

/-- **`compute_priority_factors`**. -/
def computePriorityFactors : PriorityFactors where
  epssContribution := Rounding.halfEven (x.epssScore.getD 0 * 40)
  cvssContribution :=
    let cvss := x.cvssScore.getD 0
    let sev := upper (x.severity.getD [])
    if sev = "CRITICAL".toList ∨ 9 ≤ cvss then 25
    else if sev = "HIGH".toList ∨ 7 ≤ cvss then 18
    else if sev = "MEDIUM".toList ∨ 4 ≤ cvss then 10
    else if sev = "LOW".toList ∨ 0 < cvss then 4
    else 0
  kevContribution := if x.isKev then 25 else 0
  recencyContribution := match x.publishedAt with
    | none => 0
    | some pub =>
      if ageDays now pub ≤ 30 then 10
      else if ageDays now pub ≤ 90 then 6
      else if ageDays now pub ≤ 365 then 3
      else 0
  exploitabilityContribution :=
    if x.hasNucleiTemplate then 8 else if x.hasPublicPoc then 5 else 0

/-- The severity that a text stands for. -/
def severityOf (severity : Option Text) : Option Severity :=
  let sev := upper (severity.getD [])
  if sev = "CRITICAL".toList then some .critical
  else if sev = "HIGH".toList then some .high
  else if sev = "MEDIUM".toList then some .medium
  else if sev = "LOW".toList then some .low
  else none

/-- The rank of a severity; any other text has that of none. -/
def severityRank (severity : Option Text) : ℕ :=
  match severityOf upper severity with
  | some .critical => 4
  | some .high => 3
  | some .medium => 2
  | some .low => 1
  | _ => 0

/-- The rank of the exploitability: none, a proof of concept, a template. -/
def exploitRank (hasPublicPoc hasNucleiTemplate : Bool) : ℕ :=
  if hasNucleiTemplate then 2 else if hasPublicPoc then 1 else 0

/-- **The laws of the score** of an input: it is the clamped sum of the factors, and is not lowered
by a signal that grows while the others stay. -/
structure ScoreLaws : Prop where
  eq_clamped_sum : x.computePriorityScore upper now =
    clampScore (x.computePriorityFactors upper now).total
  epss : ∀ epss, x.epssScore.getD 0 ≤ epss.getD 0 → x.computePriorityScore upper now ≤
    { x with epssScore := epss }.computePriorityScore upper now
  cvss : ∀ cvss, x.cvssScore.getD 0 ≤ cvss.getD 0 → x.computePriorityScore upper now ≤
    { x with cvssScore := cvss }.computePriorityScore upper now
  severity : ∀ severity, severityRank upper x.severity ≤ severityRank upper severity →
    x.computePriorityScore upper now ≤
      { x with severity := severity }.computePriorityScore upper now
  kev : x.computePriorityScore upper now ≤
    { x with isKev := true }.computePriorityScore upper now
  published : ∀ pub later, x.publishedAt = some pub → pub ≤ later →
    x.computePriorityScore upper now ≤
      { x with publishedAt := some later }.computePriorityScore upper now
  exploitability : ∀ hasPublicPoc hasNucleiTemplate,
    exploitRank x.hasPublicPoc x.hasNucleiTemplate ≤
        exploitRank hasPublicPoc hasNucleiTemplate →
      x.computePriorityScore upper now ≤
        { x with hasPublicPoc, hasNucleiTemplate }.computePriorityScore upper now

end Functions

/-! ### Points -/

section Points

variable (upper : Text → Text) (now : Instant) (x : ScoreInput)

/-- The texts that stand for a severity. -/
theorem severityOf_eq_iff (severity : Option Text) :
    (severityOf upper severity = some .critical ↔
        upper (severity.getD []) = "CRITICAL".toList) ∧
      (severityOf upper severity = some .high ↔ upper (severity.getD []) = "HIGH".toList) ∧
      (severityOf upper severity = some .medium ↔ upper (severity.getD []) = "MEDIUM".toList) ∧
      (severityOf upper severity = some .low ↔ upper (severity.getD []) = "LOW".toList) := by
  unfold severityOf
  dsimp only
  split_ifs with hC hH hM hL
  · rw [hC]
    decide
  · rw [hH]
    decide
  · rw [hM]
    decide
  · rw [hL]
    decide
  · simp only [false_iff]
    exact ⟨hC, hH, hM, hL⟩

/-- The bands, by the severity that the text stands for. -/
theorem cvssContribution_eq : (x.computePriorityFactors upper now).cvssContribution =
    cvssPoints (severityOf upper x.severity) (x.cvssScore.getD 0) := by
  obtain ⟨hcritical, hhigh, hmedium, hlow⟩ := severityOf_eq_iff upper x.severity
  unfold cvssPoints
  exact if_congr (or_congr_left hcritical.symm) rfl (if_congr (or_congr_left hhigh.symm) rfl
    (if_congr (or_congr_left hmedium.symm) rfl (if_congr (or_congr_left hlow.symm) rfl rfl)))

/-- The recency, as the score has it. -/
theorem recencyContribution_eq : (x.computePriorityFactors upper now).recencyContribution =
    recencyPoints now x.publishedAt := by
  unfold computePriorityFactors recencyPoints
  cases x.publishedAt <;> rfl

/-- **The score is the clamped sum of the factors.** -/
theorem score_eq_clampScore_total : x.computePriorityScore upper now =
    clampScore (x.computePriorityFactors upper now).total := by
  -- each signal adds what its factor says
  have hcvss : ∀ (c₁ c₂ c₃ c₄ : Prop) [Decidable c₁] [Decidable c₂] [Decidable c₃] [Decidable c₄]
      (score : ℤ), (if c₁ then score + 25 else if c₂ then score + 18 else if c₃ then score + 10
        else if c₄ then score + 4 else score) =
      score + if c₁ then 25 else if c₂ then 18 else if c₃ then 10 else if c₄ then 4 else 0 := by
    intros
    split_ifs <;> omega
  have hkev : ∀ score : ℤ, (if x.isKev = true then score + 25 else score) =
      score + if x.isKev = true then 25 else 0 := by
    intro score
    split_ifs <;> omega
  have hrecency : ∀ score : ℤ, (match x.publishedAt with
      | none => score
      | some pub =>
        if ageDays now pub ≤ 30 then score + 10
        else if ageDays now pub ≤ 90 then score + 6
        else if ageDays now pub ≤ 365 then score + 3
        else score) = score + recencyPoints now x.publishedAt := by
    intro score
    cases x.publishedAt with
    | none => exact (add_zero score).symm
    | some pub =>
      simp only [recencyPoints]
      split_ifs <;> omega
  have hexploit : ∀ score : ℤ, (if x.hasNucleiTemplate = true then score + 8
      else if x.hasPublicPoc = true then score + 5 else score) =
      score + if x.hasNucleiTemplate = true then 8 else if x.hasPublicPoc = true then 5 else 0 := by
    intro score
    split_ifs <;> omega
  unfold computePriorityScore
  dsimp only
  rw [hexploit, hrecency, hkev, hcvss, clampScore, PriorityFactors.total, recencyContribution_eq,
    zero_add]
  rfl

/-- The score of a row of the mirror is that of its severity as a text. -/
theorem score_eq_computePriorityScore : x.computePriorityScore upper now =
    CveManagement.computePriorityScore now x.cvssScore (severityOf upper x.severity) x.epssScore
      x.isKev x.publishedAt x.hasPublicPoc x.hasNucleiTemplate := by
  rw [score_eq_clampScore_total, PriorityFactors.total, cvssContribution_eq,
    recencyContribution_eq]
  rfl

end Points

/-! ### Monotony -/

theorem clampScore_mono : Monotone clampScore := fun _ _ h =>
  min_le_min_left 100 (max_le_max_left 0 h)

theorem epssPoints_mono {a b : Option ℚ} (h : a.getD 0 ≤ b.getD 0) :
    epssPoints a ≤ epssPoints b :=
  Rounding.halfEven_mono (mul_le_mul_of_nonneg_right h (by norm_num))

/-- A severity of a higher rank is worth as much at least. -/
theorem severityPoints_le (upper : Text → Text) {a b : Option Text}
    (h : severityRank upper a ≤ severityRank upper b) :
    severityPoints (severityOf upper a) ≤ severityPoints (severityOf upper b) := by
  unfold severityRank at h
  revert h
  rcases severityOf upper a with _ | _ | _ | _ | _ <;>
    rcases severityOf upper b with _ | _ | _ | _ | _ <;> decide

/-- What is published later is not older. -/
theorem recencyPoints_mono {now pub later : Instant} (h : pub ≤ later) :
    recencyPoints now (some pub) ≤ recencyPoints now (some later) := by
  have hage : ageDays now later ≤ ageDays now pub :=
    Int.ediv_le_ediv (by decide) (Int.sub_le_sub_left h now)
  unfold recencyPoints
  dsimp only
  split_ifs <;> omega

theorem exploitabilityPoints_le {poc nuclei poc' nuclei' : Bool}
    (h : exploitRank poc nuclei ≤ exploitRank poc' nuclei') :
    exploitabilityPoints poc nuclei ≤ exploitabilityPoints poc' nuclei' := by
  revert h
  cases poc <;> cases nuclei <;> cases poc' <;> cases nuclei' <;> decide

/-- An input whose points are all as high at least has no lower score. -/
theorem score_le_score {upper : Text → Text} {now : Instant} {x y : ScoreInput}
    (hepss : epssPoints x.epssScore ≤ epssPoints y.epssScore)
    (hcvss : cvssPoints (severityOf upper x.severity) (x.cvssScore.getD 0) ≤
      cvssPoints (severityOf upper y.severity) (y.cvssScore.getD 0))
    (hkev : kevPoints x.isKev ≤ kevPoints y.isKev)
    (hrecency : recencyPoints now x.publishedAt ≤ recencyPoints now y.publishedAt)
    (hexploit : exploitabilityPoints x.hasPublicPoc x.hasNucleiTemplate ≤
      exploitabilityPoints y.hasPublicPoc y.hasNucleiTemplate) :
    x.computePriorityScore upper now ≤ y.computePriorityScore upper now := by
  rw [score_eq_computePriorityScore, score_eq_computePriorityScore]
  refine clampScore_mono ?_
  linarith

/-- **The score is the clamped sum of its factors, and no signal that grows lowers it.** -/
theorem scoreLaws (upper : Text → Text) (now : Instant) (x : ScoreInput) :
    x.ScoreLaws upper now where
  eq_clamped_sum := x.score_eq_clampScore_total upper now
  epss epss h := score_le_score (epssPoints_mono h) le_rfl le_rfl le_rfl le_rfl
  cvss cvss h := by
    refine score_le_score le_rfl ?_ le_rfl le_rfl le_rfl
    rw [cvssPoints_eq_max, cvssPoints_eq_max]
    exact max_le_max_left _ (bandPoints_mono h)
  severity severity h := by
    refine score_le_score le_rfl ?_ le_rfl le_rfl le_rfl
    rw [cvssPoints_eq_max, cvssPoints_eq_max]
    exact max_le_max_right _ (severityPoints_le upper h)
  kev := by
    have hle : kevPoints x.isKev ≤ kevPoints true := by cases x.isKev <;> decide
    exact score_le_score le_rfl le_rfl hle le_rfl le_rfl
  published pub later hpub h := by
    have hle : recencyPoints now x.publishedAt ≤ recencyPoints now (some later) := by
      rw [hpub]
      exact recencyPoints_mono h
    exact score_le_score le_rfl le_rfl le_rfl hle le_rfl
  exploitability poc nuclei h :=
    score_le_score le_rfl le_rfl le_rfl le_rfl (exploitabilityPoints_le h)

end ScoreInput

end CveManagement
