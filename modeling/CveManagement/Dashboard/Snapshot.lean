import CveManagement.Dashboard.Lists
import Mathlib

/-!
# The daily snapshot and the SLA summary

`capture_daily_snapshot` counts the findings that are late or nearly so in SQL, by the statuses
that can be; `sla_summary` counts them in Python, by `compute_sla_state`, which sets aside the
statuses that cannot. The two lists of statuses leave one out: an accepted risk is not counted in
SQL, and is late in Python (`CveManagement.snapshotAgrees_iff`).
-/

namespace CveManagement

/-! ### The snapshot -/

/-- The row of the query over `findings`. -/
structure SnapshotCounts where
  openCount : ℕ
  inReviewCount : ℕ
  breachedCount : ℕ
  atRiskCount : ℕ
  remediated24h : ℕ

/-- `status IN ('open', 'in_review', 'planned')`. -/
def Finding.isPending (f : Finding) : Bool :=
  [FindingStatus.opened, .inReview, .planned].contains f.status

/-- **The query over `findings` of `capture_daily_snapshot`**, of a database in UTC. -/
def snapshotCounts (now : Instant) (findings : List Finding) : SnapshotCounts where
  openCount := findings.countP fun f => f.status == .opened
  inReviewCount := findings.countP fun f => f.status == .inReview
  breachedCount := findings.countP fun f =>
    f.isPending && f.dueDate.any fun due => decide (due < now.date)
  atRiskCount := findings.countP fun f => f.isPending &&
    f.dueDate.any fun due => decide (now.date ≤ due) && decide (due ≤ now.date + 7)
  remediated24h := findings.countP fun f =>
    f.status == .remediated && decide (now - 86400000000 ≤ f.updatedAt)

/-- The number of findings that are in a state on a day. -/
def stateCount (state : SlaState) (today : Date) (findings : List Finding) : ℕ :=
  findings.countP fun f => decide (computeSlaState f.status f.dueDate today = state)

/-- **The snapshot counts the findings that are breached, and those at risk.** -/
structure SnapshotAgrees (now : Instant) (findings : List Finding) : Prop where
  breached : (snapshotCounts now findings).breachedCount =
    stateCount .breached now.date findings
  atRisk : (snapshotCounts now findings).atRiskCount = stateCount .atRisk now.date findings

/-! ### Counting less -/

section Counts

variable {ρ : Type} {p q : ρ → Bool} {l : List ρ}

/-- **Of two conditions, one of which implies the other**, the counts are equal when nothing makes
the difference. -/
theorem countP_eq_countP_iff (h : ∀ r, p r = true → q r = true) :
    l.countP p = l.countP q ↔ ∀ r ∈ l, q r = true → p r = true := by
  induction l with
  | nil => simp
  | cons r l ih =>
    have hle : l.countP p ≤ l.countP q := List.countP_mono_left fun r _ => h r
    rw [List.forall_mem_cons, ← ih, List.countP_cons, List.countP_cons]
    cases hp : p r with
    | true => simp [h r hp]
    | false =>
      cases hq : q r with
      | true => simp; omega
      | false => simp

end Counts

/-! ### One finding -/

section Finding

variable {f : Finding} {today : Date}

/-- What is not set aside in Python: what is pending, and an accepted risk. -/
theorem terminal_eq (f : Finding) :
    f.status.terminal = !(f.isPending || f.status == .acceptedRisk) := by
  unfold Finding.isPending
  cases f.status <;> rfl

/-- **What is breached in Python**: what is pending or an accepted risk, and late. -/
theorem computeSlaState_eq_breached_iff :
    computeSlaState f.status f.dueDate today = .breached ↔
      (f.isPending || f.status == .acceptedRisk) = true ∧
        f.dueDate.any (fun due => decide (due < today)) = true := by
  cases htracked : f.isPending || f.status == .acceptedRisk with
  | false =>
    have hterminal : f.status.terminal = true := by rw [terminal_eq, htracked]; rfl
    simp [computeSlaState_of_terminal hterminal]
  | true =>
    have hopen : f.status.terminal = false := by rw [terminal_eq, htracked]; rfl
    rw [computeSlaState_of_not_terminal hopen]
    rcases f.dueDate with _ | due
    · simp
    · by_cases hlate : due < today
      · simp [hlate]
      · simp only [hlate, if_false, Option.any_some]
        split_ifs <;> simp

/-- **What is at risk in Python**: what is pending or an accepted risk, and due within a week. -/
theorem computeSlaState_eq_atRisk_iff :
    computeSlaState f.status f.dueDate today = .atRisk ↔
      (f.isPending || f.status == .acceptedRisk) = true ∧
        f.dueDate.any (fun due => decide (today ≤ due) && decide (due ≤ today + 7)) = true := by
  cases htracked : f.isPending || f.status == .acceptedRisk with
  | false =>
    have hterminal : f.status.terminal = true := by rw [terminal_eq, htracked]; rfl
    simp [computeSlaState_of_terminal hterminal]
  | true =>
    have hopen : f.status.terminal = false := by rw [terminal_eq, htracked]; rfl
    rw [computeSlaState_of_not_terminal hopen]
    rcases f.dueDate with _ | due
    · simp
    · simp only [Option.any_some, Bool.and_eq_true, decide_eq_true_eq, true_and]
      split_ifs with hlate hnear
      · exact iff_of_false (by decide) fun h => absurd h.1 (not_le.mpr hlate)
      · exact iff_of_true rfl ⟨not_lt.mp hlate, sub_le_iff_le_add'.mp hnear⟩
      · exact iff_of_false (by decide) fun h => hnear (sub_le_iff_le_add'.mpr h.2)

end Finding

/-! ### The two counts -/

/-- **What counting the accepted risks changes.** -/
theorem countP_tracked_iff (p : Option Date → Bool) (findings : List Finding) :
    findings.countP (fun f => f.isPending && p f.dueDate) =
        findings.countP (fun f => (f.isPending || f.status == .acceptedRisk) && p f.dueDate) ↔
      ∀ f ∈ findings, f.status = .acceptedRisk → p f.dueDate = false := by
  have himp : ∀ f : Finding, (f.isPending && p f.dueDate) = true →
      ((f.isPending || f.status == .acceptedRisk) && p f.dueDate) = true := by
    intro f h
    obtain ⟨hpending, hp⟩ := Bool.and_eq_true_iff.mp h
    rw [hpending, hp]
    rfl
  rw [countP_eq_countP_iff himp]
  refine forall₂_congr fun f _ => ?_
  unfold Finding.isPending
  cases f.status <;> cases p f.dueDate <;> simp

/-- The counts of the states, by due dates. -/
theorem stateCount_breached (today : Date) (findings : List Finding) :
    stateCount .breached today findings = findings.countP fun f =>
      (f.isPending || f.status == .acceptedRisk) &&
        f.dueDate.any fun due => decide (due < today) :=
  List.countP_congr fun f _ => by
    rw [decide_eq_true_eq, Bool.and_eq_true, computeSlaState_eq_breached_iff]

@[inherit_doc stateCount_breached]
theorem stateCount_atRisk (today : Date) (findings : List Finding) :
    stateCount .atRisk today findings = findings.countP fun f =>
      (f.isPending || f.status == .acceptedRisk) &&
        f.dueDate.any fun due => decide (today ≤ due) && decide (due ≤ today + 7) :=
  List.countP_congr fun f _ => by
    rw [decide_eq_true_eq, Bool.and_eq_true, computeSlaState_eq_atRisk_iff]

/-- **The SLA summary counts the findings by their state**: each finding has one CVE. -/
theorem totals_slaSummary (ctx : Answering) (order : RowOrder (Finding × MirrorRow))
    (s : Dataset) :
    (slaSummary ctx order s).totals.breached =
        stateCount .breached ctx.now.date s.db.findings.rows ∧
      (slaSummary ctx order s).totals.atRisk =
        stateCount .atRisk ctx.now.date s.db.findings.rows := by
  -- what the loop adds to the totals of any summary
  have hloop : ∀ (rows : List (Finding × MirrorRow)) (summary : SlaSummary),
      (rows.foldl (SlaSummary.add ctx.now.date) summary).totals.breached =
          summary.totals.breached + stateCount .breached ctx.now.date (rows.map Prod.fst) ∧
        (rows.foldl (SlaSummary.add ctx.now.date) summary).totals.atRisk =
          summary.totals.atRisk + stateCount .atRisk ctx.now.date (rows.map Prod.fst) := by
    intro rows
    induction rows with
    | nil => exact fun summary => ⟨rfl, rfl⟩
    | cons row rows ih =>
      intro summary
      obtain ⟨hbreached, hatRisk⟩ := ih (summary.add ctx.now.date row)
      rw [List.foldl_cons, hbreached, hatRisk, List.map_cons, stateCount, stateCount, stateCount,
        stateCount, List.countP_cons, List.countP_cons, SlaSummary.add]
      cases computeSlaState row.1.status row.1.dueDate ctx.now.date <;>
        simp [SlaCounters.count] <;> omega
  have hone : ∀ f ∈ s.db.findings.rows,
      (s.cves.rows.filter fun c => c.cveId == f.cveId).length = 1 := by
    intro f hf
    obtain ⟨c, hc⟩ := Option.isSome_iff_exists.mp (s.finding_cve f hf)
    obtain ⟨hmem, hid⟩ := Mirror.get?_eq_some.mp hc
    have hcount := List.count_eq_one_of_mem s.cves.uniqueCve (List.mem_map_of_mem hmem)
    rw [List.count, List.countP_map, List.countP_eq_length_filter, hid] at hcount
    exact hcount
  have hfst := Select.map_fst_innerJoin hone
  have hperm : ((order.arrange (Select.innerJoin (fun f c => c.cveId == f.cveId)
      s.db.findings.rows s.cves.rows)).map Prod.fst).Perm s.db.findings.rows := by
    refine ((order.perm _).map Prod.fst).trans ?_
    rw [hfst]
  obtain ⟨hbreached, hatRisk⟩ := hloop (order.arrange (Select.innerJoin
    (fun f c => c.cveId == f.cveId) s.db.findings.rows s.cves.rows)) .empty
  unfold slaSummary
  dsimp only
  rw [hbreached, hatRisk]
  exact ⟨(Nat.zero_add _).trans (hperm.countP_eq _), (Nat.zero_add _).trans (hperm.countP_eq _)⟩

/-- **The snapshot agrees with the SLA states exactly when no accepted risk is late, or due within
a week**; and the totals of `sla_summary` are the counts of the states. -/
theorem snapshotAgrees_iff (now : Instant) (findings : List Finding) :
    (SnapshotAgrees now findings ↔ ∀ f ∈ findings, f.status = .acceptedRisk →
      ∀ due, f.dueDate = some due → now.date + 7 < due) ∧
      ∀ ctx order (s : Dataset), ctx.now = now → s.db.findings.rows = findings →
        (slaSummary ctx order s).totals.breached = stateCount .breached now.date findings ∧
          (slaSummary ctx order s).totals.atRisk = stateCount .atRisk now.date findings := by
  constructor
  · have hbreached := countP_tracked_iff (fun dueDate => dueDate.any fun due =>
      decide (due < now.date)) findings
    have hatRisk := countP_tracked_iff (fun dueDate => dueDate.any fun due =>
      decide (now.date ≤ due) && decide (due ≤ now.date + 7)) findings
    rw [← stateCount_breached] at hbreached
    rw [← stateCount_atRisk] at hatRisk
    have hagrees : SnapshotAgrees now findings ↔
        (snapshotCounts now findings).breachedCount = stateCount .breached now.date findings ∧
          (snapshotCounts now findings).atRiskCount = stateCount .atRisk now.date findings :=
      ⟨fun h => ⟨h.breached, h.atRisk⟩, fun h => ⟨h.1, h.2⟩⟩
    rw [hagrees]
    refine (and_congr hbreached hatRisk).trans ?_
    rw [← forall₂_and]
    refine forall₂_congr fun f _ => ?_
    rw [← imp_and]
    refine imp_congr_right fun _ => ?_
    rcases f.dueDate with _ | due
    · simp
    · have hweek : now.date ≤ now.date + 7 := Int.le_add_of_nonneg_right (by decide)
      simp only [Option.any_some, decide_eq_false_iff_not, Bool.and_eq_false_iff, not_lt,
        Option.some.injEq, forall_eq', not_le]
      constructor
      · rintro ⟨hle, hlt | hlt⟩
        · exact absurd hle (not_le.mpr hlt)
        · exact hlt
      · intro hlt
        exact ⟨hweek.trans hlt.le, .inr hlt⟩
  · rintro ctx order s rfl rfl
    exact totals_slaSummary ctx order s

/-- A finding whose risk was accepted, and that was due the day before. -/
def Finding.acceptedLate : Finding :=
  { newFinding 0 1 "CVE-2024-0001" .certain "" none 1 with
    status := .acceptedRisk
    dueDate := some 9 }

/-- **The snapshot leaves it out, and the SLA summary counts it as breached.** -/
theorem not_snapshotAgrees_acceptedLate :
    (snapshotCounts 864000000000 [.acceptedLate]).breachedCount = 0 ∧
      stateCount .breached (Instant.date 864000000000) [.acceptedLate] = 1 ∧
      ¬SnapshotAgrees 864000000000 [.acceptedLate] := by
  have hsql : (snapshotCounts 864000000000 [.acceptedLate]).breachedCount = 0 := rfl
  have hpython : stateCount .breached (Instant.date 864000000000) [.acceptedLate] = 1 := rfl
  refine ⟨hsql, hpython, fun h => ?_⟩
  have hagree := h.breached
  rw [hsql, hpython] at hagree
  cases hagree

end CveManagement
