import CveManagement.Governance.Effects
import CveManagement.Library.Logbook
import CveManagement.Library.Trajectory

/-!
# The history of a finding

The rows of `findings_history` are meant to tell how a finding came to its status:
starting from `open`, each row starts where the one before it ended, and the last one
ends at the current status. `CveManagement.HistoryChains` says so of one finding.

Four operations write a status and a history row. `update_finding` records the status
it has read. The other three record a literal: an approval and a deletion start their
row at `open` whatever the finding's status is, and the expiry job writes one row for
each due acceptance although the first one reopens the finding already. Hence the
chain survives a step exactly when the literal is the truth
(`CveManagement.LogsTruly`), and `CveManagement.historyChains_throughout_iff` lifts
this to runs.
-/

namespace CveManagement

open Logbook Trajectory

/-- **The history of a finding chains** from `open` to its status. -/
def HistoryChains (fid : ℕ) (db : Db) : Prop :=
  ∀ st, db.statusOf fid = some st → Chained .opened (db.changes fid) st

/-- A finding that does not exist has no history. -/
def NoOrphans (db : Db) : Prop := ∀ x, db.statusOf x = none → db.changes x = []

/-- **What an event has to satisfy for its history rows of a finding to be true**: an
approval of the finding is made while it is open, a deletion finds it open if it closes
it, and no two acceptances of it are due at once. -/
def LogsTruly (fid : ℕ) (db : Db) : Event → Prop
  | ⟨_, .decideRiskAcceptance p c aid body user⟩ =>
    ∀ ra, DecisionAdmitted db p c aid body user ra → body.action = .approve →
      ra.findingId = fid → db.statusOf fid = some .opened
  | ⟨now, .expireRiskAcceptances _⟩ =>
    db.statusOf fid = some .acceptedRisk → (db.dueOf fid now.date).length ≤ 1
  | ⟨_, .deleteProduct p user _⟩ =>
    DeleteAdmitted db p user → ∀ f, db.findings.get? fid = some f → f.closable p = true →
      f.status = .opened
  | _ => True

/-! ### Findings that do not exist -/

theorem noOrphans_of_initial {db : Db} (h : db.Initial) : NoOrphans db := by
  intro x _
  rw [Db.changes, Table.select, h.history]
  rfl

/-- A step that records changes of existing findings only adds no orphan. -/
theorem NoOrphans.of_frame {db db' : Db} (h : NoOrphans db)
    (hframe : ∀ x, db'.statusOf x = none → db.statusOf x = none ∧ db'.changes x = db.changes x) :
    NoOrphans db' := by
  intro x hx
  obtain ⟨hnone, hch⟩ := hframe x hx
  rw [hch]
  exact h x hnone

theorem NoOrphans.of_appears {db db' : Db} (h : NoOrphans db) (ha : Appears db db') :
    NoOrphans db' := by
  refine h.of_frame fun x hx => ⟨?_, ha.changes x⟩
  rcases ha.statusOf x with he | ⟨hnone, -⟩
  · rw [← he]
    exact hx
  · exact hnone

/-- **No step records a change of a finding that does not exist.** -/
theorem NoOrphans.step {db : Db} (h : NoOrphans db) (e : Event) : NoOrphans (step db e) := by
  obtain ⟨now, request⟩ := e
  cases request with
  | updateFinding p c body user =>
    rcases step_updateFinding now p c body user db with ⟨f, due, -, hst, hch, -⟩ | ⟨-, heq⟩
    · refine h.of_frame fun x hx => ?_
      rw [hst] at hx
      split at hx
      · cases hx
      · rename_i hne
        exact ⟨hx, by rw [hch, if_neg (Ne.symm hne), List.append_nil]⟩
    · rwa [heq]
  | createRiskAcceptance p c body user =>
    rcases step_createRiskAcceptance now p c body user db with ⟨f, -, hst, hch, -⟩ | heq
    · exact h.of_frame fun x hx => ⟨by rw [← hst x]; exact hx, hch x⟩
    · rwa [heq]
  | decideRiskAcceptance p c aid body user =>
    rcases step_decideRiskAcceptance now p c aid body user db with ⟨ra, hadm, heq⟩ | ⟨-, heq⟩
    · obtain ⟨-, f, hf⟩ := acceptanceAt_some hadm.acceptance
      rw [heq]
      refine h.of_frame fun x hx => ?_
      rw [statusOf_decideWrite] at hx
      split at hx
      · rename_i hc
        -- the finding of an acceptance exists
        rw [hc.2, Db.statusOf, hf] at hx
        cases hx
      · rename_i hc
        refine ⟨hx, ?_⟩
        rw [changes_decideWrite, if_neg fun h => hc ⟨h.1, h.2.symm⟩, List.append_nil]
    · rwa [heq]
  | expireRiskAcceptances order =>
    refine h.of_frame fun x hx => ?_
    rw [step_of_ok rfl, statusOf_expire] at hx
    split at hx
    · cases hx
    · refine ⟨hx, ?_⟩
      rw [step_of_ok rfl, changes_expire, hx, if_neg (by simp), List.append_nil]
  | deleteProduct p user order =>
    rcases step_deleteProduct now user db p order with ⟨-, hst, hch, -⟩ | ⟨-, heq⟩
    · refine h.of_frame fun x hx => ?_
      rw [hst] at hx
      split at hx
      · cases hx
      · rename_i hno
        exact ⟨hx, by rw [hch, if_neg hno, List.append_nil]⟩
    · rwa [heq]
  | upsertFinding p c confidence reason priority =>
    exact h.of_appears (appears_upsertFinding db confidence reason priority)
  | insertCirclFinding p c => exact h.of_appears (appears_insertCirclFinding db)

/-! ### One step -/

section Step

variable {fid : ℕ} {db db' : Db}

theorem historyChains_of_initial (h : db.Initial) : HistoryChains fid db := by
  intro st hst
  rw [Db.statusOf, Table.get?, Table.find, h.findings] at hst
  cases hst

/-- A step that neither moves the finding nor records a change of it keeps the chain. -/
theorem historyChains_congr (hst : db'.statusOf fid = db.statusOf fid)
    (hch : db'.changes fid = db.changes fid) : HistoryChains fid db' ↔ HistoryChains fid db := by
  rw [HistoryChains, HistoryChains, hst, hch]

/-- **One recorded move** keeps the chain when it starts at the status and is a move. -/
theorem HistoryChains.snoc_iff {st a b : FindingStatus} (h : HistoryChains fid db)
    (hst : db.statusOf fid = some st) (hst' : db'.statusOf fid = some b)
    (hch : db'.changes fid = db.changes fid ++ [(a, b)]) :
    HistoryChains fid db' ↔ a = st ∧ a ≠ b := by
  rw [HistoryChains, hst', hch]
  simp only [Option.some.injEq, forall_eq']
  exact (h st hst).snoc_iff (e := (a, b))

theorem HistoryChains.of_appears (hJ : NoOrphans db) (h : HistoryChains fid db)
    (ha : Appears db db') : HistoryChains fid db' := by
  rcases ha.statusOf fid with hst | ⟨hnone, hst⟩
  · exact (historyChains_congr hst (ha.changes fid)).mpr h
  · -- a finding is created open, with an empty history
    intro st hst'
    rw [ha.changes, hJ fid hnone]
    exact Option.some.inj (hst.symm.trans hst')

/-- `update_finding` always keeps the chain: it records the status it has read. -/
theorem HistoryChains.updateFinding (h : HistoryChains fid db) {now : Instant} {p : ℕ}
    {c : String} {body : FindingUpdate} {user : AuthUser} :
    HistoryChains fid (step db ⟨now, .updateFinding p c body user⟩) := by
  rcases step_updateFinding now p c body user db with ⟨f, due, hadm, hst, hch, -⟩ | ⟨-, heq⟩
  · by_cases hf : f.id = fid
    · subst hf
      have hold : db.statusOf f.id = some f.status := by
        rw [Db.statusOf, Table.get?_of_mem (Db.findingAt_mem hadm.finding).1, Option.map_some]
      specialize hst f.id
      specialize hch f.id
      rw [if_pos rfl] at hst hch
      -- no status, the same status, or a change from the status that was read
      cases hs : body.newStatus with
      | none =>
        rw [hs] at hst hch
        exact (historyChains_congr (hst.trans hold.symm) (by simpa using hch)).mpr h
      | some s =>
        rw [hs] at hst hch
        by_cases he : s = f.status
        · subst he
          exact (historyChains_congr (hst.trans hold.symm)
            (by simpa [Option.filter] using hch)).mpr h
        · refine (h.snoc_iff hold hst ?_).mpr ⟨rfl, Ne.symm he⟩
          rw [hch, Option.filter_some, if_pos (by simpa using he)]
          rfl
    · refine (historyChains_congr ?_ ?_).mpr h
      · rw [hst, if_neg (Ne.symm hf)]
      · rw [hch, if_neg hf, List.append_nil]
  · rwa [heq]

/-- An approval keeps the chain exactly when the finding is open. -/
theorem HistoryChains.decide_iff (h : HistoryChains fid db) {now : Instant} {p : ℕ} {c : String}
    {aid : ℕ} {body : RiskAcceptanceDecision} {user : AuthUser} :
    HistoryChains fid (step db ⟨now, .decideRiskAcceptance p c aid body user⟩) ↔
      LogsTruly fid db ⟨now, .decideRiskAcceptance p c aid body user⟩ := by
  rcases step_decideRiskAcceptance now p c aid body user db with ⟨ra, hadm, heq⟩ | ⟨hno, heq⟩
  · rw [heq]
    obtain ⟨-, f, hf⟩ := acceptanceAt_some hadm.acceptance
    -- an approval of this finding records one change, from the literal `open`
    by_cases hmoves : body.action = .approve ∧ ra.findingId = fid
    · obtain ⟨happ, rfl⟩ := hmoves
      have hold : db.statusOf ra.findingId = some f.status := by
        rw [Db.statusOf, hf, Option.map_some]
      rw [h.snoc_iff hold (by rw [statusOf_decideWrite, if_pos ⟨happ, rfl⟩, hold]; rfl)
        (by rw [changes_decideWrite, if_pos ⟨happ, rfl⟩])]
      constructor
      · rintro ⟨hopen, -⟩ ra' hadm' - -
        rw [hold, hopen]
      · intro hlog
        refine ⟨?_, fun he => by cases he⟩
        have := hlog ra hadm happ rfl
        rw [hold] at this
        exact (Option.some.inj this).symm
    · refine iff_of_true ?_ ?_
      · refine (historyChains_congr ?_ ?_).mpr h
        · rw [statusOf_decideWrite, if_neg fun hc => hmoves ⟨hc.1, hc.2.symm⟩]
        · rw [changes_decideWrite, if_neg hmoves, List.append_nil]
      · intro ra' hadm' happ hfid
        have hra : ra' = ra :=
          Option.some.inj (hadm'.acceptance.symm.trans hadm.acceptance)
        exact absurd ⟨happ, by rw [← hra]; exact hfid⟩ hmoves
  · rw [heq]
    exact iff_of_true h fun ra hadm => absurd hadm (hno ra)

/-- The expiry job keeps the chain exactly when at most one acceptance of an accepted
finding is due. -/
theorem HistoryChains.expire_iff (h : HistoryChains fid db) {now : Instant}
    {order : RowOrder DueRow} :
    HistoryChains fid (step db ⟨now, .expireRiskAcceptances order⟩) ↔
      LogsTruly fid db ⟨now, .expireRiskAcceptances order⟩ := by
  rw [step_of_ok rfl, LogsTruly]
  by_cases hacc : db.statusOf fid = some .acceptedRisk
  · by_cases hdue : db.dueOf fid now.date = []
    · refine iff_of_true ?_ fun _ => by rw [hdue]; exact Nat.zero_le 1
      refine (historyChains_congr ?_ ?_).mpr h
      · rw [statusOf_expire, if_neg fun hc => hc.2 hdue]
      · rw [changes_expire, if_pos hacc, hdue, List.length_nil, List.replicate_zero,
          List.append_nil]
    · -- each due acceptance records a change, and only the first can start at the status
      have hpos : 0 < (db.dueOf fid now.date).length := List.length_pos_iff.mpr hdue
      have hone := (h _ hacc).append_replicate_iff
        (show FindingStatus.acceptedRisk ≠ .opened by decide) hpos
      rw [HistoryChains, statusOf_expire, if_pos ⟨hacc, hdue⟩, changes_expire, if_pos hacc]
      simp only [Option.some.injEq, forall_eq', hone]
      exact ⟨fun he _ => he.le, fun hle => Nat.le_antisymm (hle hacc) hpos⟩
  · refine iff_of_true ?_ fun hc => absurd hc hacc
    refine (historyChains_congr ?_ ?_).mpr h
    · rw [statusOf_expire, if_neg fun hc => hacc hc.1]
    · rw [changes_expire, if_neg hacc, List.append_nil]

/-- A deletion keeps the chain exactly when it closes the finding from `open`. -/
theorem HistoryChains.delete_iff (h : HistoryChains fid db) {now : Instant} {p : ℕ}
    {user : AuthUser} {order : RowOrder Finding} :
    HistoryChains fid (step db ⟨now, .deleteProduct p user order⟩) ↔
      LogsTruly fid db ⟨now, .deleteProduct p user order⟩ := by
  rw [LogsTruly]
  rcases step_deleteProduct now user db p order with ⟨hadm, hst, hch, -⟩ | ⟨hno, heq⟩
  · specialize hst fid
    specialize hch fid
    by_cases hcl : (db.findings.get? fid).any (Finding.closable p)
    · rw [if_pos hcl] at hst hch
      obtain ⟨f, hf, hclose⟩ := (Option.any_eq_true _ _).mp hcl
      have hold : db.statusOf fid = some f.status := by rw [Db.statusOf, hf, Option.map_some]
      rw [h.snoc_iff hold hst hch]
      constructor
      · rintro ⟨hopen, -⟩ - f' hf' -
        rw [← Option.some.inj (hf.symm.trans hf'), hopen]
      · intro hlog
        exact ⟨(hlog hadm f hf hclose).symm, by decide⟩
    · rw [if_neg hcl] at hst hch
      refine iff_of_true ((historyChains_congr hst (by rw [hch, List.append_nil])).mpr h) ?_
      intro _ f hf hclose
      exact absurd ((Option.any_eq_true _ _).mpr ⟨f, hf, hclose⟩) hcl
  · rw [heq]
    exact iff_of_true h fun hadm => absurd hadm hno

/-- **One step keeps the chain exactly when it logs truly.** -/
theorem HistoryChains.step_iff (hJ : NoOrphans db) (h : HistoryChains fid db) (e : Event) :
    HistoryChains fid (step db e) ↔ LogsTruly fid db e := by
  obtain ⟨now, request⟩ := e
  cases request with
  | updateFinding p c body user => exact iff_of_true h.updateFinding trivial
  | createRiskAcceptance p c body user =>
    refine iff_of_true ?_ trivial
    rcases step_createRiskAcceptance now p c body user db with ⟨f, -, hst, hch, -⟩ | heq
    · exact (historyChains_congr (hst fid) (hch fid)).mpr h
    · rwa [heq]
  | decideRiskAcceptance p c aid body user => exact h.decide_iff
  | expireRiskAcceptances order => exact h.expire_iff
  | deleteProduct p user order => exact h.delete_iff
  | upsertFinding p c confidence reason priority =>
    exact iff_of_true
      (h.of_appears hJ (appears_upsertFinding db confidence reason priority)) trivial
  | insertCirclFinding p c =>
    exact iff_of_true (h.of_appears hJ (appears_insertCirclFinding db)) trivial

end Step

/-! ### Runs -/

/-- **The history of a finding chains throughout a run exactly when every step of the
run logs truly.** -/
theorem historyChains_throughout_iff {db : Db} (h : db.Initial) (fid : ℕ) (l : List Event) :
    Throughout step (HistoryChains fid) db l ↔ AllSteps step (LogsTruly fid) db l :=
  throughout_iff_allSteps (J := NoOrphans) (fun _ e hJ => hJ.step e)
    (fun _ e hJ hI => HistoryChains.step_iff hJ hI e) (noOrphans_of_initial h)
    (historyChains_of_initial h)

/-- A finding is accepted by the regular path while it is open, until the 30th day, and reopened by
the job on the 40th. -/
def acceptedThenExpired : List Event :=
  [⟨0, .insertCirclFinding 1 "CVE-2024-0001"⟩,
    ⟨1, .createRiskAcceptance 1 "CVE-2024-0001" ⟨none, "mitigated by the WAF", 30⟩ .alice⟩,
    ⟨2, .decideRiskAcceptance 1 "CVE-2024-0001" 1 ⟨.approve, none, none⟩ .bob⟩,
    ⟨40 * 86400000000, .expireRiskAcceptances .insertion⟩]

/-- Its history chains throughout. -/
theorem historyChains_acceptedThenExpired :
    Throughout step (HistoryChains 1) .sample acceptedThenExpired := by
  refine (historyChains_throughout_iff (Db.initial_ofProducts _) 1 _).mpr
    ⟨trivial, trivial, fun _ _ _ _ => ?_, fun _ => ?_, trivial⟩
  · decide
  · decide

/-- A finding appears, is taken into review, and its product is deleted. -/
def reviewedThenDeleted : List Event :=
  [⟨0, .insertCirclFinding 1 "CVE-2024-0001"⟩,
    ⟨1, .updateFinding 1 "CVE-2024-0001" (.ofStatus "in_review") .alice⟩,
    ⟨2, .deleteProduct 1 .alice .insertion⟩]

/-- **The history of a finding need not chain**: the deletion records a change from
`open`, which the finding has left. -/
theorem exists_not_historyChains :
    ∃ db : Db, db.Initial ∧ ∃ fid l, ¬Throughout step (HistoryChains fid) db l := by
  refine ⟨.sample, Db.initial_ofProducts _, 1, reviewedThenDeleted, fun h => ?_⟩
  have hst : (run step .sample reviewedThenDeleted).statusOf 1 = some .closed := by decide
  exact absurd (h.last .closed hst) (by decide)

end CveManagement
