import CveManagement.Governance.Effects
import CveManagement.Library.Trajectory

/-!
# Segregation of duties

Accepting a risk takes two people: one requests an acceptance, another approves it. A
finding in `accepted_risk` should therefore have an approved acceptance whose approver
is not its requester, its *evidence* (`CveManagement.Segregated`).

`decide_risk_acceptance` makes the check before it approves, decisions on other
acceptances and requests for further ones leave the evidence alone, and the expiry job
reopens the finding when it removes evidence. The check is missing in one place:
`update_finding` takes `accepted_risk` like any other status. So a run keeps duties
segregated exactly when no `PATCH` accepts a finding without evidence
(`CveManagement.segregated_throughout_iff`).
-/

namespace CveManagement

open Trajectory

/-- Someone other than the requester has approved an acceptance of the finding. -/
def HasEvidence (fid : ℕ) (db : Db) : Prop :=
  ∃ a ra approver, db.riskAcceptances.get? a = some ra ∧ ra.findingId = fid ∧
    ra.status = .approved ∧ ra.approvedBy = some approver ∧ approver ≠ ra.requestedBy

/-- **Duties are segregated** for a finding: if it is accepted, there is evidence. -/
def Segregated (fid : ℕ) (db : Db) : Prop :=
  db.statusOf fid = some .acceptedRisk → HasEvidence fid db

/-- **What an event has to satisfy for duties to stay segregated**: a `PATCH` may accept
the finding only if there is evidence. -/
def AcceptsWithEvidence (fid : ℕ) (db : Db) : Event → Prop
  | ⟨_, .updateFinding p c body user⟩ => ∀ f due, UpdateAdmitted db p c body user f due →
      f.id = fid → body.newStatus = some .acceptedRisk → HasEvidence fid db
  | _ => True

section Step

variable {fid : ℕ} {db db' : Db}

theorem segregated_of_initial (h : db.Initial) : Segregated fid db := by
  intro hst
  rw [Db.statusOf, Table.get?, Table.find, h.findings] at hst
  cases hst

theorem hasEvidence_congr (h : db'.riskAcceptances = db.riskAcceptances) :
    HasEvidence fid db' ↔ HasEvidence fid db := by
  rw [HasEvidence, HasEvidence, h]

/-- Evidence stays as long as its acceptance is left alone. -/
theorem HasEvidence.mono (h : HasEvidence fid db)
    (hkeep : ∀ a ra, db.riskAcceptances.get? a = some ra → ra.status = .approved →
      db'.riskAcceptances.get? a = some ra) : HasEvidence fid db' := by
  obtain ⟨a, ra, approver, hget, hfid, hst, happ, hne⟩ := h
  exact ⟨a, ra, approver, hkeep a ra hget hst, hfid, hst, happ, hne⟩

theorem Segregated.of_appears (h : Segregated fid db) (ha : Appears db db') :
    Segregated fid db' := by
  intro hst
  refine (hasEvidence_congr ha.riskAcceptances).mpr (h ?_)
  rcases ha.statusOf fid with he | ⟨-, hopen⟩
  · rw [← he]
    exact hst
  · rw [hopen] at hst
    cases hst

/-- A `PATCH` keeps duties segregated exactly when it accepts with evidence. -/
theorem Segregated.update_iff (h : Segregated fid db) {now : Instant} {p : ℕ} {c : String}
    {body : FindingUpdate} {user : AuthUser} :
    Segregated fid (step db ⟨now, .updateFinding p c body user⟩) ↔
      AcceptsWithEvidence fid db ⟨now, .updateFinding p c body user⟩ := by
  rw [AcceptsWithEvidence]
  rcases step_updateFinding now p c body user db with ⟨f, due, hadm, hst, -, hra⟩ | ⟨hno, heq⟩
  · rw [Segregated, hst fid, hasEvidence_congr hra]
    have huniq : ∀ {f' due'}, UpdateAdmitted db p c body user f' due' → f' = f := fun hadm' =>
      Option.some.inj (hadm'.finding.symm.trans hadm.finding)
    by_cases hf : fid = f.id
    · rw [if_pos hf]
      constructor
      · rintro hseg f' due' hadm' - hnew
        exact hseg (by rw [hnew]; rfl)
      · intro hacc hnew
        cases hs : body.newStatus with
        | none =>
          -- the finding was accepted before
          rw [hs] at hnew
          refine h ?_
          rw [hf, Db.statusOf, Table.get?_of_mem (Db.findingAt_mem hadm.finding).1]
          exact hnew
        | some s =>
          rw [hs] at hnew
          obtain rfl : s = .acceptedRisk := Option.some.inj hnew
          exact hacc f due hadm hf.symm hs
    · rw [if_neg hf]
      exact iff_of_true h fun f' due' hadm' hfid => absurd (by rw [← hfid, huniq hadm']) hf
  · rw [heq]
    exact iff_of_true h fun f due hadm => absurd hadm (hno f due)

/-- A decision keeps duties segregated: an approval is its own evidence, and the
acceptance decided on was pending. -/
theorem Segregated.decide (h : Segregated fid db) {now : Instant} {p : ℕ} {c : String}
    {aid : ℕ} {body : RiskAcceptanceDecision} {user : AuthUser} :
    Segregated fid (step db ⟨now, .decideRiskAcceptance p c aid body user⟩) := by
  rcases step_decideRiskAcceptance now p c aid body user db with ⟨ra, hadm, heq⟩ | ⟨-, heq⟩
  · rw [heq]
    obtain ⟨hget, -⟩ := acceptanceAt_some hadm.acceptance
    intro hst
    rw [statusOf_decideWrite] at hst
    split at hst
    · rename_i hmoves
      refine ⟨aid, (Decision.assignment ⟨aid, ra.findingId, body.action, user.email⟩ now).set ra,
        user.email, ?_, hmoves.2.symm, ?_, rfl, (hadm.segregated hmoves.1).symm⟩
      · rw [get?_decideWrite, if_pos rfl, hget, Option.map_some]
      · change body.action.newStatus = .approved
        rw [show body.action = .approve from hmoves.1]
        rfl
    · refine (h hst).mono fun a ra' hra' happ => ?_
      rw [get?_decideWrite, if_neg ?_, hra']
      rintro rfl
      rw [Option.some.inj (hra'.symm.trans hget), hadm.pending] at happ
      cases happ
  · rwa [heq]

/-- The expiry job keeps duties segregated: it reopens the finding whose evidence it
removes. -/
theorem Segregated.expire (h : Segregated fid db) {now : Instant} {order : RowOrder DueRow} :
    Segregated fid (step db ⟨now, .expireRiskAcceptances order⟩) := by
  rw [step_of_ok rfl]
  intro hst
  rw [statusOf_expire] at hst
  split at hst
  · cases hst
  · rename_i hkept
    obtain ⟨a, ra, approver, hget, hfid, happ, hby, hne⟩ := h hst
    refine ⟨a, ra, approver, ?_, hfid, happ, hby, hne⟩
    have hdue : ra.due now.date = false := by
      by_contra hdue
      have hmem : ra ∈ db.dueOf fid now.date :=
        Table.mem_select.mpr ⟨(Table.get?_eq_some.mp hget).1, by simpa [hfid] using hdue⟩
      exact hkept ⟨hst, List.ne_nil_of_mem hmem⟩
    rw [get?_expire, hget, Option.map_some, if_neg (by simp [hdue])]

/-- **One step keeps duties segregated exactly when it accepts with evidence.** -/
theorem Segregated.step_iff (h : Segregated fid db) (e : Event) :
    Segregated fid (step db e) ↔ AcceptsWithEvidence fid db e := by
  obtain ⟨now, request⟩ := e
  cases request with
  | updateFinding p c body user => exact h.update_iff
  | createRiskAcceptance p c body user =>
    refine iff_of_true ?_ trivial
    rcases step_createRiskAcceptance now p c body user db with ⟨f, -, hst, -, hget⟩ | heq
    · intro hacc
      rw [hst] at hacc
      refine (h hacc).mono fun a ra hra _ => ?_
      rw [hget, if_neg ?_, hra]
      rintro rfl
      rw [Table.get?_seq] at hra
      cases hra
    · rwa [heq]
  | decideRiskAcceptance p c aid body user => exact iff_of_true h.decide trivial
  | expireRiskAcceptances order => exact iff_of_true h.expire trivial
  | deleteProduct p user order =>
    refine iff_of_true ?_ trivial
    rcases step_deleteProduct now user db p order with ⟨-, hst, -, hra⟩ | ⟨-, heq⟩
    · intro hacc
      rw [hst] at hacc
      split at hacc
      · cases hacc
      · exact (hasEvidence_congr hra).mpr (h hacc)
    · rwa [heq]
  | upsertFinding p c confidence reason priority =>
    exact iff_of_true (h.of_appears (appears_upsertFinding db confidence reason priority)) trivial
  | insertCirclFinding p c =>
    exact iff_of_true (h.of_appears (appears_insertCirclFinding db)) trivial

end Step

/-- **Duties are segregated throughout a run exactly when no `PATCH` of the run accepts
the finding without evidence.** -/
theorem segregated_throughout_iff {db : Db} (h : db.Initial) (fid : ℕ) (l : List Event) :
    Throughout step (Segregated fid) db l ↔ AllSteps step (AcceptsWithEvidence fid) db l :=
  throughout_iff_allSteps (J := fun _ => True) (fun _ _ _ => trivial)
    (fun _ e _ hI => hI.step_iff e) trivial (segregated_of_initial h)

/-- A finding appears, is requested to be accepted by one analyst and approved by another. -/
def requestedThenApproved : List Event :=
  [⟨0, .insertCirclFinding 1 "CVE-2024-0001"⟩,
    ⟨1, .createRiskAcceptance 1 "CVE-2024-0001" ⟨none, "mitigated by the WAF", 30⟩ .alice⟩,
    ⟨2, .decideRiskAcceptance 1 "CVE-2024-0001" 1 ⟨.approve, none, none⟩ .bob⟩]

/-- The regular path keeps duties segregated. -/
theorem segregated_requestedThenApproved :
    Throughout step (Segregated 1) .sample requestedThenApproved :=
  (segregated_throughout_iff (Db.initial_ofProducts _) 1 _).mpr
    ⟨trivial, trivial, trivial, trivial⟩

/-- A finding appears, and one analyst sets its status to `accepted_risk`. -/
def acceptedByPatch : List Event :=
  [⟨0, .insertCirclFinding 1 "CVE-2024-0001"⟩,
    ⟨1, .updateFinding 1 "CVE-2024-0001" (.ofStatus "accepted_risk") .alice⟩]

/-- **Segregation of duties can be bypassed**: there is no acceptance at all. -/
theorem exists_not_segregated :
    ∃ db : Db, db.Initial ∧ ∃ fid l, ¬Throughout step (Segregated fid) db l := by
  refine ⟨.sample, Db.initial_ofProducts _, 1, acceptedByPatch, fun h => ?_⟩
  have hnone : (run step .sample acceptedByPatch).riskAcceptances.rows.isEmpty = true := by decide
  obtain ⟨a, ra, approver, hget, -⟩ := h.last (by decide)
  have hmem := (Table.get?_eq_some.mp hget).1
  rw [List.isEmpty_iff.mp hnone] at hmem
  cases hmem

end CveManagement
