import CveManagement.Governance.Effects
import CveManagement.Library.Trajectory

/-!
# Approvals and terminal findings

`create_risk_acceptance` refuses a finding in a terminal status – remediated, closed, a
false positive – but nobody looks again when the request is decided: an approval sets
`accepted_risk` on whatever the finding has become. This file says exactly which runs
contain an approval that takes a finding out of a terminal status.

The request was admitted while the finding was not terminal, so between the two the
finding was closed, by `update_finding` or by `delete_product`, *while the acceptance was
pending*; and it must not have left the terminal statuses since. The first half is
`CveManagement.closes_of_switch`, a lemma about one step; the run is cut at the last
moment at which "pending and terminal" began to hold.
-/

namespace CveManagement

open Trajectory

/-- The finding is in a terminal status. -/
def InTerminal (x : ℕ) (db : Db) : Prop := ∃ st, db.statusOf x = some st ∧ st.terminal = true

/-- The acceptance is pending, and it is of this finding. -/
def PendingOf (a x : ℕ) (db : Db) : Prop :=
  ∃ ra, db.riskAcceptances.get? a = some ra ∧ ra.findingId = x ∧ ra.status = .pending

/-- An approval moves no finding out of a terminal status. -/
def ApprovalKeepsTerminal (db : Db) : Event → Prop
  | ⟨now, .decideRiskAcceptance p c aid body user⟩ => body.action = .approve → ∀ x,
      InTerminal x db → InTerminal x (step db ⟨now, .decideRiskAcceptance p c aid body user⟩)
  | _ => True

/-- The event puts the finding into a terminal status. -/
def Closes (x : ℕ) (db : Db) : Event → Prop
  | ⟨_, .updateFinding p c body user⟩ => ∃ f due st, UpdateAdmitted db p c body user f due ∧
      f.id = x ∧ body.newStatus = some st ∧ st.terminal = true
  | ⟨_, .deleteProduct p user _⟩ => DeleteAdmitted db p user ∧
      ∃ f, db.findings.get? x = some f ∧ f.closable p = true
  | _ => False

/-- The event approves the acceptance, of this finding. -/
def Approves (a x : ℕ) (db : Db) : Event → Prop
  | ⟨_, .decideRiskAcceptance p c aid body user⟩ => aid = a ∧ body.action = .approve ∧
      ∃ ra, DecisionAdmitted db p c aid body user ra ∧ ra.findingId = x
  | _ => False

/-- **No acceptance outlives the closing of its finding**: if a finding is closed while
an acceptance of it is pending, and the acceptance is approved later in the run, then
the finding has left the terminal statuses in between. -/
def NoneOutlivesClosing (db : Db) (l : List Event) : Prop :=
  ∀ l₁ e₁ l₂ e₂ l₃, l = l₁ ++ e₁ :: (l₂ ++ e₂ :: l₃) → ∀ a x,
    PendingOf a x (run step db l₁) → Closes x (run step db l₁) e₁ →
      Approves a x (run step db (l₁ ++ e₁ :: l₂)) e₂ →
        ¬Throughout step (InTerminal x) (step (run step db l₁) e₁) l₂

section Step

variable {a x : ℕ} {db db' : Db}

theorem inTerminal_congr (h : db'.statusOf x = db.statusOf x) :
    InTerminal x db' ↔ InTerminal x db := by
  rw [InTerminal, InTerminal, h]

theorem pendingOf_congr (h : db'.riskAcceptances.get? a = db.riskAcceptances.get? a) :
    PendingOf a x db' ↔ PendingOf a x db := by
  rw [PendingOf, PendingOf, h]

theorem not_inTerminal {st : FindingStatus} (h : db.statusOf x = some st)
    (hst : st.terminal = false) : ¬InTerminal x db := by
  rintro ⟨st', hst', hterm⟩
  rw [Option.some.inj (hst'.symm.trans h), hst] at hterm
  cases hterm

/-- What touches neither the finding nor the acceptance switches nothing. -/
theorem before_of_eq (hst : db'.statusOf x = db.statusOf x)
    (hra : db'.riskAcceptances.get? a = db.riskAcceptances.get? a)
    (h : PendingOf a x db' ∧ InTerminal x db') : PendingOf a x db ∧ InTerminal x db :=
  ⟨(pendingOf_congr hra).mp h.1, (inTerminal_congr hst).mp h.2⟩

/-- A finding that appears is not terminal. -/
theorem before_of_appears (happears : Appears db db') (h : PendingOf a x db' ∧ InTerminal x db') :
    PendingOf a x db ∧ InTerminal x db := by
  rcases happears.statusOf x with heq | ⟨-, hopen⟩
  · exact before_of_eq heq (by rw [happears.riskAcceptances]) h
  · exact absurd h.2 (not_inTerminal hopen rfl)

/-- An acceptance that is requested is of a finding that is not terminal. -/
theorem before_of_create {now : Instant} {p : ℕ} {c : String} {body : RiskAcceptanceCreate}
    {user : AuthUser}
    (h : PendingOf a x (step db ⟨now, .createRiskAcceptance p c body user⟩) ∧
      InTerminal x (step db ⟨now, .createRiskAcceptance p c body user⟩)) :
    PendingOf a x db ∧ InTerminal x db := by
  rcases step_createRiskAcceptance now p c body user db with ⟨f, hadm, hst, -, hget⟩ | heq
  · by_cases ha : a = db.riskAcceptances.seq
    · obtain ⟨⟨ra, hra, hfid, -⟩, hterm⟩ := h
      rw [hget, if_pos ha] at hra
      have hold : (step db ⟨now, .createRiskAcceptance p c body user⟩).statusOf x =
          some f.status := by
        rw [hst, ← hfid, ← Option.some.inj hra, Db.statusOf,
          Table.get?_of_mem (Db.findingAt_mem hadm.finding).1, Option.map_some]
      exact absurd hterm (not_inTerminal hold hadm.open_)
    · exact before_of_eq (hst x) (by rw [hget, if_neg ha]) h
  · exact before_of_eq (by rw [heq]) (by rw [heq]) h

/-- An acceptance that is decided is not pending, and an accepted finding not terminal. -/
theorem before_of_decide {now : Instant} {p : ℕ} {c : String} {aid : ℕ}
    {body : RiskAcceptanceDecision} {user : AuthUser}
    (h : PendingOf a x (step db ⟨now, .decideRiskAcceptance p c aid body user⟩) ∧
      InTerminal x (step db ⟨now, .decideRiskAcceptance p c aid body user⟩)) :
    PendingOf a x db ∧ InTerminal x db := by
  rcases step_decideRiskAcceptance now p c aid body user db with ⟨ra, hadm, heq⟩ | ⟨-, heq⟩
  · by_cases ha : a = aid
    · obtain ⟨⟨ra', hra', -, hp⟩, -⟩ := h
      rw [heq, get?_decideWrite, if_pos ha] at hra'
      obtain ⟨ra₀, -, rfl⟩ := Option.map_eq_some_iff.mp hra'
      cases hact : body.action <;>
        simp [Decision.assignment, hact, DecisionAction.newStatus] at hp
    · by_cases hmoves : body.action = .approve ∧ x = ra.findingId
      · obtain ⟨-, f, hf⟩ := acceptanceAt_some hadm.acceptance
        have haccepted : (step db ⟨now, .decideRiskAcceptance p c aid body user⟩).statusOf x =
            some .acceptedRisk := by
          rw [heq, statusOf_decideWrite, if_pos hmoves, hmoves.2, Db.statusOf, hf]
          rfl
        exact absurd h.2 (not_inTerminal haccepted rfl)
      · refine before_of_eq ?_ ?_ h
        · rw [heq, statusOf_decideWrite, if_neg hmoves]
        · rw [heq, get?_decideWrite, if_neg ha]
  · exact before_of_eq (by rw [heq]) (by rw [heq]) h

/-- An acceptance that expires is not pending, and a reopened finding not terminal. -/
theorem before_of_expire {now : Instant} {order : RowOrder DueRow}
    (h : PendingOf a x (step db ⟨now, .expireRiskAcceptances order⟩) ∧
      InTerminal x (step db ⟨now, .expireRiskAcceptances order⟩)) :
    PendingOf a x db ∧ InTerminal x db := by
  obtain ⟨⟨ra', hra', hfid, hp⟩, hterm⟩ := h
  have hget := get?_expire now db order a
  rw [step_of_ok rfl, hget, Option.map_eq_some_iff] at hra'
  obtain ⟨ra, hra, hexp⟩ := hra'
  have hsame : ra = ra' := by
    split at hexp
    · rw [← hexp] at hp
      cases hp
    · exact hexp
  subst hsame
  have hst := statusOf_expire now db order x
  split at hst
  · exact absurd hterm (not_inTerminal (by rw [step_of_ok rfl, hst]) rfl)
  · refine ⟨⟨ra, hra, hfid, hp⟩, (inTerminal_congr ?_).mp hterm⟩
    rw [step_of_ok rfl, hst]

/-- An update that makes a finding terminal names a terminal status. -/
theorem closes_of_update {now : Instant} {p : ℕ} {c : String} {body : FindingUpdate}
    {user : AuthUser} (hbefore : ¬(PendingOf a x db ∧ InTerminal x db))
    (h : PendingOf a x (step db ⟨now, .updateFinding p c body user⟩) ∧
      InTerminal x (step db ⟨now, .updateFinding p c body user⟩)) :
    PendingOf a x db ∧ Closes x db ⟨now, .updateFinding p c body user⟩ := by
  rcases step_updateFinding now p c body user db with ⟨f, due, hadm, hst, -, hra⟩ | ⟨-, heq⟩
  · by_cases hx : x = f.id
    · refine ⟨(pendingOf_congr (by rw [hra])).mp h.1, ?_⟩
      have hnow := hst x
      rw [if_pos hx] at hnow
      cases hs : body.newStatus with
      | none =>
        -- the status is left as it was
        have hold : db.statusOf x = some f.status := by
          rw [hx, Db.statusOf, Table.get?_of_mem (Db.findingAt_mem hadm.finding).1,
            Option.map_some]
        rw [hs] at hnow
        exact absurd (before_of_eq (hnow.trans hold.symm) (by rw [hra]) h) hbefore
      | some s =>
        obtain ⟨st, hst', hter⟩ := h.2
        rw [hs] at hnow
        have hsame : s = st := Option.some.inj (hnow.symm.trans hst')
        exact ⟨f, due, s, hadm, hx.symm, hs, by rw [hsame, hter]⟩
    · exact absurd (before_of_eq (by rw [hst, if_neg hx]) (by rw [hra]) h) hbefore
  · exact absurd (before_of_eq (by rw [heq]) (by rw [heq]) h) hbefore

/-- A deletion that makes a finding terminal closes it. -/
theorem closes_of_delete {now : Instant} {p : ℕ} {user : AuthUser} {order : RowOrder Finding}
    (hbefore : ¬(PendingOf a x db ∧ InTerminal x db))
    (h : PendingOf a x (step db ⟨now, .deleteProduct p user order⟩) ∧
      InTerminal x (step db ⟨now, .deleteProduct p user order⟩)) :
    PendingOf a x db ∧ Closes x db ⟨now, .deleteProduct p user order⟩ := by
  rcases step_deleteProduct now user db p order with ⟨hadm, hst, -, hra⟩ | ⟨-, heq⟩
  · by_cases hcl : (db.findings.get? x).any (Finding.closable p)
    · obtain ⟨f, hf, hclose⟩ := (Option.any_eq_true _ _).mp hcl
      exact ⟨(pendingOf_congr (by rw [hra])).mp h.1, hadm, f, hf, hclose⟩
    · exact absurd (before_of_eq (by rw [hst, if_neg hcl]) (by rw [hra]) h) hbefore
  · exact absurd (before_of_eq (by rw [heq]) (by rw [heq]) h) hbefore

/-- **How a finding comes to be terminal with an acceptance pending**: it is closed while
the acceptance is pending. -/
theorem closes_of_switch (hbefore : ¬(PendingOf a x db ∧ InTerminal x db)) {e : Event}
    (h : PendingOf a x (step db e) ∧ InTerminal x (step db e)) :
    PendingOf a x db ∧ Closes x db e := by
  obtain ⟨now, request⟩ := e
  cases request with
  | updateFinding p c body user => exact closes_of_update hbefore h
  | createRiskAcceptance p c body user => exact absurd (before_of_create h) hbefore
  | decideRiskAcceptance p c aid body user => exact absurd (before_of_decide h) hbefore
  | expireRiskAcceptances order => exact absurd (before_of_expire h) hbefore
  | deleteProduct p user order => exact closes_of_delete hbefore h
  | upsertFinding p c confidence reason priority =>
    exact absurd (before_of_appears (appears_upsertFinding db confidence reason priority) h) hbefore
  | insertCirclFinding p c =>
    exact absurd (before_of_appears (appears_insertCirclFinding db) h) hbefore

/-- An approval keeps a terminal finding terminal, unless it is of this finding. -/
theorem approvalKeepsTerminal_iff (db : Db) (e : Event) :
    ApprovalKeepsTerminal db e ↔ ∀ a x, Approves a x db e → ¬InTerminal x db := by
  obtain ⟨now, request⟩ := e
  cases request with
  | decideRiskAcceptance p c aid body user =>
    constructor
    · rintro hkeep a x ⟨-, happ, ra, hadm, rfl⟩ hterm
      obtain ⟨-, f, hf⟩ := acceptanceAt_some hadm.acceptance
      rcases step_decideRiskAcceptance now p c aid body user db with ⟨ra', hadm', heq⟩ | ⟨hno, -⟩
      · obtain rfl : ra' = ra := Option.some.inj (hadm'.acceptance.symm.trans hadm.acceptance)
        have haccepted : (step db ⟨now, .decideRiskAcceptance p c aid body user⟩).statusOf
            ra'.findingId = some .acceptedRisk := by
          rw [heq, statusOf_decideWrite, if_pos ⟨happ, rfl⟩, Db.statusOf, hf]
          rfl
        exact not_inTerminal haccepted rfl (hkeep happ _ hterm)
      · exact hno ra hadm
    · intro hnone happ x hterm
      rcases step_decideRiskAcceptance now p c aid body user db with ⟨ra, hadm, heq⟩ | ⟨-, heq⟩
      · by_cases hx : x = ra.findingId
        · exact absurd hterm (hnone aid x ⟨rfl, happ, ra, hadm, hx.symm⟩)
        · refine (inTerminal_congr ?_).mpr hterm
          rw [heq, statusOf_decideWrite, if_neg fun h => hx h.2]
      · rw [heq]
        exact hterm
  | _ => exact iff_of_true trivial fun a x h => h.elim

end Step

theorem not_inTerminal_of_rows {db : Db} (h : ∀ f ∈ db.findings.rows, f.status.terminal = false)
    (x : ℕ) : ¬InTerminal x db := by
  rintro ⟨st, hst, hterm⟩
  obtain ⟨f, hf, rfl⟩ := Option.map_eq_some_iff.mp hst
  rw [h f (Table.get?_eq_some.mp hf).1] at hterm
  cases hterm

theorem not_inTerminal_of_initial {db : Db} (h : db.Initial) (x : ℕ) : ¬InTerminal x db :=
  not_inTerminal_of_rows (by simp [h.findings]) x

/-- **Approvals keep terminal findings terminal throughout a run exactly when no
acceptance outlives the closing of its finding.** -/
theorem approvalsKeepTerminal_iff {db : Db} (h : db.Initial) (l : List Event) :
    AllSteps step ApprovalKeepsTerminal db l ↔ NoneOutlivesClosing db l := by
  rw [allSteps_iff_split]
  constructor
  · rintro hkeep l₁ e₁ l₂ e₂ l₃ rfl a x - - happ hstay
    have hsplit : l₁ ++ e₁ :: (l₂ ++ e₂ :: l₃) = (l₁ ++ e₁ :: l₂) ++ e₂ :: l₃ := by simp
    refine (approvalKeepsTerminal_iff _ _).mp (hkeep _ _ _ hsplit) a x happ ?_
    rw [run_append, run_cons]
    exact hstay.last
  · rintro hnone l₁ e₂ l₃ rfl
    refine (approvalKeepsTerminal_iff _ _).mpr fun a x happ hterm => ?_
    have hpend : PendingOf a x (run step db l₁) := by
      obtain ⟨now, request⟩ := e₂
      cases request with
      | decideRiskAcceptance p c aid body user =>
        obtain ⟨rfl, -, ra, hadm, hfid⟩ := happ
        exact ⟨ra, (acceptanceAt_some hadm.acceptance).1, hfid, hadm.pending⟩
      | _ => exact happ.elim
    -- cut the run where the finding became terminal with the acceptance pending
    have hlast : PendingOf a x (run step db l₁) ∧ InTerminal x (run step db l₁) := ⟨hpend, hterm⟩
    obtain ⟨k₁, e₁, k₂, rfl, hbefore, hstay⟩ :=
      exists_last_switch (I := fun db => PendingOf a x db ∧ InTerminal x db)
        (fun hc => not_inTerminal_of_initial h x hc.2) hlast
    obtain ⟨hpend₁, hcloses⟩ := closes_of_switch hbefore hstay.first
    exact hnone k₁ e₁ k₂ e₂ l₃ (by simp) a x hpend₁ hcloses happ (hstay.mono fun _ hs => hs.2)

/-- A finding appears, an acceptance is requested, and the finding is set to a status
before the acceptance is approved. -/
def approvedAfter (status : String) : List Event :=
  [⟨0, .insertCirclFinding 1 "CVE-2024-0001"⟩,
    ⟨1, .createRiskAcceptance 1 "CVE-2024-0001" ⟨none, "mitigated by the WAF", 30⟩ .alice⟩,
    ⟨2, .updateFinding 1 "CVE-2024-0001" (.ofStatus status) .alice⟩,
    ⟨3, .decideRiskAcceptance 1 "CVE-2024-0001" 1 ⟨.approve, none, none⟩ .bob⟩]

/-- A finding taken into review while the request was pending is not closed. -/
theorem noneOutlivesClosing_inReview :
    NoneOutlivesClosing .sample (approvedAfter "in_review") :=
  (approvalsKeepTerminal_iff (Db.initial_ofProducts _) _).mp
    ⟨trivial, trivial, trivial, (approvalKeepsTerminal_iff _ _).mpr fun _ x _ =>
      not_inTerminal_of_rows (by decide) x, trivial⟩

/-- **An approval can reopen a terminal finding**: one that was remediated while the
request was pending. -/
theorem exists_not_approvalsKeepTerminal :
    ∃ db : Db, db.Initial ∧ ∃ l, ¬AllSteps step ApprovalKeepsTerminal db l := by
  refine ⟨.sample, Db.initial_ofProducts _, approvedAfter "remediated", fun h => ?_⟩
  obtain ⟨st, hst, hterm⟩ := h.2.2.2.1 rfl 1 ⟨.remediated, by decide, rfl⟩
  rw [show st = .acceptedRisk from Option.some.inj (hst.symm.trans (by decide))] at hterm
  cases hterm

end CveManagement
