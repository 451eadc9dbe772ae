import CveManagement.Governance.Effects
import CveManagement.Library.Trajectory

/-!
# The expiry job

`expire_risk_acceptances` takes the approved acceptances whose date has passed, joined
with their findings, and for each of them reopens the finding if the *join* says that it
is accepted. What is wanted of one run (`CveManagement.ExpirySound`) is that a finding
is reopened only if it was accepted and no approved acceptance of it remains, that a
reopened finding gets one history row, and that it is counted once.

Nothing limits a finding to one acceptance. With a second approved acceptance that is
not due, the finding is reopened all the same; with a second one that is due, it is
logged and counted twice. `CveManagement.expirySound_iff` shows that these are the only
ways to fail: the run is sound exactly when every finding it reopens has one approved
acceptance.
-/

namespace CveManagement

/-- The approved acceptances of a finding. -/
def Db.approvedOf (db : Db) (x : ℕ) : List RiskAcceptance :=
  db.riskAcceptances.select fun ra => ra.findingId == x && ra.status == .approved

/-- The findings whose status differs between two states. -/
def Db.moved (db db' : Db) : List Finding :=
  db.findings.select fun f => db'.statusOf f.id != db.statusOf f.id

/-- **What is wanted of a run of the job** on a day, from `db` to `db'` with a result. -/
structure ExpirySound (today : Date) (db db' : Db) (result : ExpireResult) : Prop where
  /-- A finding is moved only out of `accepted_risk`, and to `open`. -/
  reopens : ∀ x, db'.statusOf x ≠ db.statusOf x →
    db.statusOf x = some .acceptedRisk ∧ db'.statusOf x = some .opened
  /-- No approved acceptance of a reopened finding remains. -/
  unaccepted : ∀ x, db'.statusOf x ≠ db.statusOf x → ∀ a ra,
    db'.riskAcceptances.get? a = some ra → ra.findingId = x → ra.status = .approved →
      ra.expiresAt < today
  /-- A reopened finding gets one history row. -/
  logged : ∀ x, db'.statusOf x ≠ db.statusOf x →
    (db'.changes x).length = (db.changes x).length + 1
  /-- A reopened finding is counted once. -/
  counted : result.reopened = (db.moved db').length

section Expiry

variable {db : Db} {now : Instant} {order : RowOrder DueRow}

variable (db now order) in
/-- **The findings that the job moves** are the accepted ones with a due acceptance. -/
theorem statusOf_expire_ne_iff (x : ℕ) :
    (expireRiskAcceptances now order db).2.statusOf x ≠ db.statusOf x ↔
      db.statusOf x = some .acceptedRisk ∧ db.dueOf x now.date ≠ [] := by
  rw [statusOf_expire]
  split
  · rename_i h
    refine iff_of_true ?_ h
    rw [h.1]
    exact fun he => by cases he
  · rename_i h
    exact iff_of_false (not_not_intro rfl) h

/-- The due acceptances of a finding are among its approved ones. -/
theorem dueOf_eq_filter (x : ℕ) (today : Date) :
    db.dueOf x today = (db.approvedOf x).filter fun ra => ra.expiresAt < today := by
  rw [Db.dueOf, Db.approvedOf, Table.select, Table.select, List.filter_filter]
  refine List.filter_congr fun ra _ => ?_
  rw [RiskAcceptance.due, Bool.and_comm (decide _), Bool.and_assoc]

/-- An approved acceptance of an existing finding that the job leaves approved is not
due, and was approved before. -/
theorem approved_after_expire {a : ℕ} {ra : RiskAcceptance} {st : FindingStatus}
    (hf : db.statusOf ra.findingId = some st) (happ : ra.status = .approved) :
    (expireRiskAcceptances now order db).2.riskAcceptances.get? a = some ra ↔
      db.riskAcceptances.get? a = some ra ∧ ra.due now.date = false := by
  rw [get?_expire, Option.map_eq_some_iff]
  obtain ⟨f, hf, -⟩ := Option.map_eq_some_iff.mp hf
  constructor
  · rintro ⟨ra', hget, he⟩
    split at he
    · rw [← he] at happ
      cases happ
    · rename_i hkeep
      subst he
      refine ⟨hget, ?_⟩
      by_contra hdue
      exact hkeep ⟨by simpa using hdue, by rw [hf]; rfl⟩
  · rintro ⟨hget, hdue⟩
    exact ⟨ra, hget, by rw [if_neg (by simp [hdue])]⟩

/-- What the job counts: the due acceptances of the accepted findings, finding by
finding. -/
theorem reopened_eq_sum :
    (expireRiskAcceptances now order db).1.reopened =
      ((db.findings.select fun f => f.status == .acceptedRisk).map fun f =>
        (db.dueOf f.id now.date).length).sum := by
  rw [result_expire]
  have hjoin := db.findings.countP_join (fun f => f.status == .acceptedRisk)
    RiskAcceptance.findingId (db.riskAcceptances.select fun ra => ra.due now.date)
  have hcount : (db.fetchDue now.date).countP (fun r => r.status == .acceptedRisk) =
      (db.riskAcceptances.select fun ra => ra.due now.date).countP fun ra =>
        (db.findings.get? ra.findingId).any fun f => f.status == .acceptedRisk := by
    rw [Db.fetchDue, List.countP_filterMap]
    refine List.countP_congr fun ra _ => ?_
    cases db.findings.get? ra.findingId <;> simp
  rw [hcount, hjoin]
  refine congrArg List.sum (List.map_congr_left fun f _ => ?_)
  rw [Db.dueOf, Table.select, Table.select, List.countP_filter, List.countP_eq_length_filter]

/-- The moved findings, as rows. -/
theorem moved_expire :
    db.moved (expireRiskAcceptances now order db).2 =
      (db.findings.select fun f => f.status == .acceptedRisk).filter fun f =>
        !(db.dueOf f.id now.date).isEmpty := by
  rw [Db.moved, Table.select, Table.select, List.filter_filter]
  refine List.filter_congr fun f hf => ?_
  rw [Bool.eq_iff_iff, bne_iff_ne, statusOf_expire_ne_iff, Db.statusOf, Table.get?_of_mem hf]
  simp [and_comm]

/-- If no moved finding has two due acceptances, the job counts what it moves. -/
theorem reopened_eq_moved (h : ∀ x, db.statusOf x = some .acceptedRisk →
      db.dueOf x now.date ≠ [] → (db.dueOf x now.date).length = 1) :
    (expireRiskAcceptances now order db).1.reopened =
      (db.moved (expireRiskAcceptances now order db).2).length := by
  rw [reopened_eq_sum, moved_expire, ← List.countP_eq_length_filter]
  have hacc : ∀ f ∈ db.findings.select fun f => f.status == .acceptedRisk,
      db.statusOf f.id = some .acceptedRisk := by
    intro f hf
    obtain ⟨hmem, hst⟩ := Table.mem_select.mp hf
    rw [Db.statusOf, Table.get?_of_mem hmem, Option.map_some, beq_iff_eq.mp hst]
  -- finding by finding: none is due and nothing is counted, or one is and it is moved
  generalize (db.findings.select fun f => f.status == .acceptedRisk) = rows at hacc ⊢
  induction rows with
  | nil => rfl
  | cons f rows ih =>
    rw [List.map_cons, List.sum_cons, ih fun g hg => hacc g (List.mem_cons_of_mem f hg),
      List.countP_cons, Nat.add_comm]
    by_cases hdue : db.dueOf f.id now.date = []
    · simp [hdue]
    · simp [hdue, h f.id (hacc f List.mem_cons_self) hdue]

/-- If there is one approved acceptance, and one is due, then it is the due one. -/
theorem approvedOf_eq_dueOf {x : ℕ} {today : Date} (h : (db.approvedOf x).length = 1)
    (hdue : db.dueOf x today ≠ []) : db.approvedOf x = db.dueOf x today := by
  have hpos := List.length_pos_iff.mpr hdue
  rw [dueOf_eq_filter] at hpos ⊢
  refine (List.filter_sublist.eq_of_length_le ?_).symm
  rw [h]
  exact hpos

/-- **A run of the job is sound exactly when every finding that it reopens has one
approved acceptance.** -/
theorem expirySound_iff (now : Instant) (order : RowOrder DueRow) (db : Db) :
    ExpirySound now.date db (expireRiskAcceptances now order db).2
        (expireRiskAcceptances now order db).1 ↔
      ∀ x, db.statusOf x = some .acceptedRisk → db.dueOf x now.date ≠ [] →
        (db.approvedOf x).length = 1 := by
  constructor
  · intro hsound x hacc hdue
    have hmoved := (statusOf_expire_ne_iff db now order x).mpr ⟨hacc, hdue⟩
    -- one history row, so one due acceptance
    have hone : (db.dueOf x now.date).length = 1 := by
      have := hsound.logged x hmoved
      rw [changes_expire, if_pos hacc, List.length_append, List.length_replicate] at this
      omega
    -- none remains, so the approved ones are the due ones
    rw [dueOf_eq_filter, List.filter_eq_self.mpr] at hone
    · exact hone
    · intro ra hra
      obtain ⟨hmem, hp⟩ := Table.mem_select.mp hra
      simp only [Bool.and_eq_true, beq_iff_eq] at hp
      obtain ⟨rfl, happ⟩ := hp
      by_contra hexp
      have hdue' : ra.due now.date = false := by
        rw [RiskAcceptance.due, Bool.and_eq_false_iff]
        exact .inr (by simpa using hexp)
      exact hexp (decide_eq_true (hsound.unaccepted _ hmoved ra.id ra
        ((approved_after_expire hacc happ).mpr ⟨Table.get?_of_mem hmem, hdue'⟩) rfl happ))
  · intro hone
    have hdueOne : ∀ x, db.statusOf x = some .acceptedRisk → db.dueOf x now.date ≠ [] →
        (db.dueOf x now.date).length = 1 := by
      intro x hacc hdue
      rw [← approvedOf_eq_dueOf (hone x hacc hdue) hdue]
      exact hone x hacc hdue
    -- what is moved was accepted; what is left approved is not due; and one row is logged
    refine ⟨fun x hx => ?_, fun x hx a ra hget hfid happ => ?_, fun x hx => ?_,
      reopened_eq_moved hdueOne⟩
    · obtain ⟨hacc, hdue⟩ := (statusOf_expire_ne_iff db now order x).mp hx
      exact ⟨hacc, by rw [statusOf_expire, if_pos ⟨hacc, hdue⟩]⟩
    · obtain ⟨hacc, hdue⟩ := (statusOf_expire_ne_iff db now order x).mp hx
      subst hfid
      obtain ⟨hget, hnotDue⟩ := (approved_after_expire hacc happ).mp hget
      have hmem : ra ∈ db.approvedOf ra.findingId :=
        Table.mem_select.mpr ⟨(Table.get?_eq_some.mp hget).1, by simp [happ]⟩
      rw [approvedOf_eq_dueOf (hone _ hacc hdue) hdue, dueOf_eq_filter, List.mem_filter] at hmem
      exact of_decide_eq_true hmem.2
    · obtain ⟨hacc, hdue⟩ := (statusOf_expire_ne_iff db now order x).mp hx
      rw [changes_expire, if_pos hacc, List.length_append, List.length_replicate,
        hdueOne x hacc hdue]

end Expiry

/-- One finding with two approved acceptances, until the 10th and until the 400th day. -/
def acceptedTwice : Db :=
  Trajectory.run step .sample
    [⟨0, .insertCirclFinding 1 "CVE-2024-0001"⟩,
      ⟨1, .createRiskAcceptance 1 "CVE-2024-0001" ⟨none, "mitigated by the WAF", 10⟩ .alice⟩,
      ⟨2, .createRiskAcceptance 1 "CVE-2024-0001" ⟨none, "not reachable from outside", 400⟩ .alice⟩,
      ⟨3, .decideRiskAcceptance 1 "CVE-2024-0001" 1 ⟨.approve, none, none⟩ .bob⟩,
      ⟨4, .decideRiskAcceptance 1 "CVE-2024-0001" 2 ⟨.approve, none, none⟩ .bob⟩]

/-- **The job is not always sound**: on the 20th day it reopens the finding although it
is accepted until the 400th. -/
theorem exists_not_expirySound :
    ∃ db : Db, db.Reachable ∧ ∃ now order, ¬ExpirySound now.date db
      (expireRiskAcceptances now order db).2 (expireRiskAcceptances now order db).1 := by
  refine ⟨acceptedTwice, ⟨.sample, Db.initial_ofProducts _, _, rfl⟩, 20 * 86400000000, .insertion,
    fun h => ?_⟩
  have hremains : ((expireRiskAcceptances (20 * 86400000000) .insertion
      acceptedTwice).2.riskAcceptances.get? 2).any (fun ra => ra.findingId == 1 &&
        ra.status == .approved && decide (20 ≤ ra.expiresAt)) = true := by decide
  obtain ⟨ra, hget, hra⟩ := (Option.any_eq_true _ _).mp hremains
  simp only [Bool.and_eq_true, beq_iff_eq, decide_eq_true_eq] at hra
  have hlt : ra.expiresAt < 20 := h.unaccepted 1 (by decide) 2 ra hget hra.1.1 hra.1.2
  exact absurd hra.2 (Int.not_le.mpr hlt)

end CveManagement
