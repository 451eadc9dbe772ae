import CveManagement.Sync.System
import Mathlib

/-!
# Recomputing the stored scores

`_recompute_finding_priorities`, of `exploitability_refresh.py` and of `vulnx_enricher.py`:
it reads the active findings of some CVEs with the rows of the CVEs, and then, in a
transaction of its own, writes the scores that have changed, by the id of the finding and
nothing else. What is written is what was read.
-/

namespace CveManagement

/-- `f.status IN ('open', 'in_review', 'planned')`. -/
def FindingStatus.active : FindingStatus → Bool
  | .opened | .inReview | .planned => true
  | _ => false

/-- `int(old)`. -/
def truncateScore (q : ℚ) : ℤ := if 0 ≤ q then ⌊q⌋ else ⌈q⌉

/-- `SET priority_score = …, updated_at = NOW()`. -/
def Finding.rescored (now : Instant) (score : ℤ) : Finding.Assignment where
  set f := { f with priorityScore := some (score : ℚ), updatedAt := now }
  key_set _ := rfl
  target_set _ := rfl

/-- The two modules with a `_recompute_finding_priorities`. -/
inductive Recompute
  | exploitabilityRefresh
  | vulnxEnricher
  deriving DecidableEq, Repr

/-- The `new_score` of each. -/
def Recompute.score (now : Instant) : Recompute → CveSignals → ℤ
  | .exploitabilityRefresh => CveSignals.recomputePriority now
  | .vulnxEnricher => CveSignals.enricherPriority now

theorem Recompute.score_eq (now : Instant) (r : Recompute) :
    r.score now = CveSignals.recomputePriority now := by
  cases r <;> rfl

/-- An update of the score of a finding. -/
structure Rescoring where
  newScore : ℤ
  findingId : ℕ

/-- The update of one finding, if its score is not what it was. -/
def Finding.rescoring (score : CveSignals → ℤ) (cves : Mirror) (f : Finding) : Option Rescoring :=
  (cves.get? f.cveId).bind fun c =>
    let newScore := score c.toCveSignals
    -- a finding without score differs from every score
    if f.priorityScore.map truncateScore = some newScore then none else some ⟨newScore, f.id⟩

namespace System

/-- `_FETCH_FOR_RECOMPUTE_SQL`, and the loop over its rows. -/
def recomputeUpdates (s : System) (score : CveSignals → ℤ) (cveIds : List String) :
    List Rescoring :=
  (s.db.findings.select fun f => cveIds.contains f.cveId && f.status.active).filterMap
    (Finding.rescoring score s.cves)

/-- `_UPDATE_FINDING_PRIORITY_SQL`. -/
def updatePriority (s : System) (now : Instant) (u : Rescoring) : System :=
  { s with
    db := s.db.updateFindings (fun f => f.id == u.findingId) (Finding.rescored now u.newScore) }

/-- **`_recompute_finding_priorities`**, with nothing between its reading and its writing. -/
def recomputeFindingPriorities (s : System) (now : Instant) (r : Recompute)
    (cveIds : List String) : System :=
  (s.recomputeUpdates (r.score now) cveIds).foldl (fun s u => s.updatePriority now u) s

/-- **Only active findings are to be rescored.** -/
theorem active_of_mem_recomputeUpdates {s : System} {score : CveSignals → ℤ}
    {cveIds : List String} {u : Rescoring} (h : u ∈ s.recomputeUpdates score cveIds) :
    ∃ f, s.db.findings.get? u.findingId = some f ∧ f.status.active = true := by
  obtain ⟨f, hf, hu⟩ := List.mem_filterMap.mp h
  obtain ⟨hmem, hcond⟩ := Table.mem_select.mp hf
  obtain ⟨c, -, hu⟩ := Option.bind_eq_some_iff.mp hu
  dsimp only at hu
  split_ifs at hu
  cases hu
  exact ⟨f, Table.get?_of_mem hmem, by simpa using (Bool.and_eq_true _ _ ▸ hcond).2⟩

end System

end CveManagement
