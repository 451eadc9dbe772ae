import CveManagement.Priority.Scorer

/-!
# The four places that score a CVE

`sync_product`, the two recomputes and the intel endpoint each project a row of `cves` onto
the arguments of `compute_priority_score`. The sync leaves out two things that the others
read: the CVSS v2 score where there is no v3 score, and the exploitability flags. So its
score is never the higher one, and `CveManagement.callSitesAgree_iff` says when it is not
the lower one either.
-/

namespace CveManagement

/-- The flags of `IntelRecord`. -/
structure IntelRecord where
  hasPublicPoc : Bool
  hasNucleiTemplate : Bool

namespace CveSignals

/-- The `priority` of `sync_product`. -/
def syncPriority (now : Instant) (c : CveSignals) : ℤ :=
  computePriorityScore now c.cvssV3Score c.severity c.epssScore c.isKev (some c.publishedAt) false
    false

/-- The `new_score` of `_recompute_finding_priorities` in `exploitability_refresh.py`. -/
def recomputePriority (now : Instant) (c : CveSignals) : ℤ :=
  computePriorityScore now (scoreOr c.cvssV3Score c.cvssV2Score) c.severity c.epssScore c.isKev
    (some c.publishedAt) (c.hasPublicPoc.getD false) (c.hasNucleiTemplate.getD false)

/-- The `new_score` of `_recompute_finding_priorities` in `vulnx_enricher.py`. -/
def enricherPriority (now : Instant) (c : CveSignals) : ℤ :=
  computePriorityScore now (scoreOr c.cvssV3Score c.cvssV2Score) c.severity c.epssScore c.isKev
    (some c.publishedAt) (c.hasPublicPoc.getD false) (c.hasNucleiTemplate.getD false)

/-- The `score` of `cve_intel`; without a refresh there is no record. -/
def intelPriority (now : Instant) (intelRecord : Option IntelRecord) (c : CveSignals) : ℤ :=
  let hasPoc := match intelRecord with
    | some r => some r.hasPublicPoc
    | none => c.hasPublicPoc
  let hasNuclei := match intelRecord with
    | some r => some r.hasNucleiTemplate
    | none => c.hasNucleiTemplate
  computePriorityScore now (scoreOr c.cvssV3Score c.cvssV2Score) c.severity c.epssScore c.isKev
    (some c.publishedAt) (hasPoc.getD false) (hasNuclei.getD false)

/-- **The four call sites give the row one score.** -/
def CallSitesAgree (now : Instant) (c : CveSignals) : Prop :=
  c.syncPriority now = c.recomputePriority now ∧ c.recomputePriority now = c.enricherPriority now ∧
    c.enricherPriority now = c.intelPriority now none

/-- There is no v3 score to speak of, and the v2 score is worth more than the severity. -/
def V2Decides (c : CveSignals) : Prop :=
  c.cvssV3Score.getD 0 = 0 ∧ severityPoints c.severity < bandPoints (c.cvssV2Score.getD 0)

/-- A proof of concept or a template is known. -/
def Exploitable (c : CveSignals) : Prop :=
  c.hasPublicPoc = some true ∨ c.hasNucleiTemplate = some true

/-- What the signals that every call site reads are worth. -/
def sharedPoints (now : Instant) (c : CveSignals) : ℤ :=
  epssPoints c.epssScore + cvssPoints c.severity (c.cvssV3Score.getD 0) + kevPoints c.isKev +
    recencyPoints now (some c.publishedAt)

/-- What the others see and the sync does not. -/
def missedPoints (c : CveSignals) : ℤ :=
  cvssPoints c.severity ((scoreOr c.cvssV3Score c.cvssV2Score).getD 0) -
      cvssPoints c.severity (c.cvssV3Score.getD 0) +
    exploitabilityPoints (c.hasPublicPoc.getD false) (c.hasNucleiTemplate.getD false)

section Points

variable (now : Instant) (c : CveSignals)

theorem syncPriority_eq : c.syncPriority now = clampScore (c.sharedPoints now) := by
  rw [syncPriority, computePriorityScore, sharedPoints]
  congr 1
  exact add_zero _

theorem recomputePriority_eq :
    c.recomputePriority now = clampScore (c.sharedPoints now + c.missedPoints) := by
  rw [recomputePriority, computePriorityScore, sharedPoints, missedPoints]
  congr 1
  ring

theorem exploitabilityPoints_nonneg (hasPublicPoc hasNucleiTemplate : Bool) :
    0 ≤ exploitabilityPoints hasPublicPoc hasNucleiTemplate := by
  cases hasPublicPoc <;> cases hasNucleiTemplate <;> decide

theorem exploitabilityPoints_pos_iff :
    0 < exploitabilityPoints (c.hasPublicPoc.getD false) (c.hasNucleiTemplate.getD false) ↔
      c.Exploitable := by
  unfold Exploitable
  rcases c.hasPublicPoc with _ | _ | _ <;> rcases c.hasNucleiTemplate with _ | _ | _ <;> decide

/-- The fallback to v2 never takes points away, and adds some exactly when v2 decides. -/
theorem cvssPoints_scoreOr :
    cvssPoints c.severity (c.cvssV3Score.getD 0) ≤
        cvssPoints c.severity ((scoreOr c.cvssV3Score c.cvssV2Score).getD 0) ∧
      (cvssPoints c.severity (c.cvssV3Score.getD 0) <
          cvssPoints c.severity ((scoreOr c.cvssV3Score c.cvssV2Score).getD 0) ↔ c.V2Decides) := by
  simp only [cvssPoints_eq_max, V2Decides, scoreOr]
  have hsev := severityPoints_nonneg c.severity
  by_cases hv3 : c.cvssV3Score.getD 0 = 0
  · -- the fallback is taken, from a score that is worth nothing
    have hzero : bandPoints 0 = 0 := bandPoints_of_nonpos le_rfl
    have hband := bandPoints_nonneg (c.cvssV2Score.getD 0)
    simp only [hv3, if_true, true_and, hzero]
    omega
  · simp [hv3]

/-- **The sync misses points exactly when v2 decides or an exploit is known.** -/
theorem missedPoints_spec :
    0 ≤ c.missedPoints ∧ (c.missedPoints = 0 ↔ ¬c.V2Decides ∧ ¬c.Exploitable) := by
  obtain ⟨hle, hlt⟩ := c.cvssPoints_scoreOr
  have hnonneg :=
    exploitabilityPoints_nonneg (c.hasPublicPoc.getD false) (c.hasNucleiTemplate.getD false)
  rw [← hlt, ← exploitabilityPoints_pos_iff, missedPoints]
  omega

/-- **When the call sites agree**: v2 does not decide and no exploit is known, or what they
share reaches the cap – or what they see stays below zero, as it may with a negative EPSS. -/
theorem callSitesAgree_iff : c.CallSitesAgree now ↔
    (¬c.V2Decides ∧ ¬c.Exploitable) ∨ 100 ≤ c.sharedPoints now ∨
      c.sharedPoints now + c.missedPoints ≤ 0 := by
  obtain ⟨hnonneg, hzero⟩ := c.missedPoints_spec
  have hrest : c.CallSitesAgree now ↔ c.syncPriority now = c.recomputePriority now :=
    and_iff_left ⟨rfl, rfl⟩
  rw [hrest, syncPriority_eq, recomputePriority_eq, clampScore_eq_iff, ← hzero]
  omega

end Points

/-- A row as an old CVE has it: a CVSS v2 score of 10, and the `HIGH` that
`from_nvd_cve` derives from it. -/
def scoredByV2 : CveSignals where
  cvssV3Score := none
  cvssV2Score := some 10
  severity := some .high
  epssScore := none
  isKev := false
  publishedAt := 0
  hasPublicPoc := none
  hasNucleiTemplate := none

/-- **The sync scores it 18, and the recompute 25.** -/
theorem not_callSitesAgree : ¬scoredByV2.CallSitesAgree (400 * dayMicros) := by
  unfold CallSitesAgree
  decide +kernel

end CveSignals

end CveManagement
