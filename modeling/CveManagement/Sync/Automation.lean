import CveManagement.Governance.Effects
import CveManagement.Priority.Recompute
import CveManagement.Sync.Counts
import Mathlib

/-!
# What automation leaves to people

Three jobs write findings of their own accord: the sync, the insert of the CIRCL fallback and
the recompute of the scores. Their SQL statements come in any order here
(`CveManagement.Automation`), with what a recompute has read kept until it writes.

None of them touches what people decide (`CveManagement.SameDecisions`), nor the match of a
finding that people have put aside (`CveManagement.frame_run`). And a sync is a fixed point:
repeated at the same instant it changes nothing (`CveManagement.syncProduct_twice`).
-/

namespace CveManagement

open Trajectory

/-- The statuses that `_FINDING_UPSERT_SQL` passes over. -/
def FindingStatus.held (st : FindingStatus) : Bool :=
  [.falsePositive, .acceptedRisk, .closed].contains st

theorem FindingStatus.not_held_of_active {st : FindingStatus} (h : st.active = true) :
    st.held = false := by
  cases st <;> first | rfl | cases h

/-! ### Statements in any order -/

/-- A statement of the sync, of the CIRCL fallback or of the recompute `t`. -/
inductive Statement (τ : Type)
  | updateStatus (status : SyncStatus) (productId : ℕ)
  | upsertFinding (productId : ℕ) (row : FindingRow)
  | updateStats (productId : ℕ)
  | insertCirclFinding (productId : ℕ) (cveId : String)
  | fetchForRecompute (t : τ) (r : Recompute) (cveIds : List String)
  | updatePriority (t : τ)

/-- A statement, and when it is executed. -/
structure Issued (τ : Type) where
  now : Instant
  statement : Statement τ

/-- The database, and the updates that the recomputes have not written yet. -/
structure Automation (τ : Type) where
  system : System
  fetched : τ → List Rescoring

/-- `_UPSERT_FINDING_SQL` of the CIRCL fallback, with the foreign key on the CVE. -/
def System.insertCirclFinding (s : System) (now : Instant) (productId : ℕ) (cveId : String) :
    System :=
  if (s.cves.get? cveId).isSome then
    { s with db := CveManagement.insertCirclFinding now productId cveId s.db }
  else s

/-- **One statement.** -/
def execute {τ : Type} [DecidableEq τ] (a : Automation τ) : Issued τ → Automation τ
  | ⟨now, .updateStatus status p⟩ => { a with system := a.system.updateStatus now status p }
  | ⟨now, .upsertFinding p row⟩ => { a with system := a.system.upsertFinding now p row }
  | ⟨now, .updateStats p⟩ => { a with system := a.system.updateStats now p }
  | ⟨now, .insertCirclFinding p cveId⟩ =>
    { a with system := a.system.insertCirclFinding now p cveId }
  | ⟨now, .fetchForRecompute t r cveIds⟩ =>
    ⟨a.system, Function.update a.fetched t (a.system.recomputeUpdates (r.score now) cveIds)⟩
  | ⟨now, .updatePriority t⟩ =>
    match a.fetched t with
    | [] => a
    | u :: us => ⟨a.system.updatePriority now u, Function.update a.fetched t us⟩

/-! ### The frame -/

/-- **People's part of a finding** is the same. -/
structure SameDecisions (f f' : Finding) : Prop where
  status : f'.status = f.status
  assignedTo : f'.assignedTo = f.assignedTo
  dueDate : f'.dueDate = f.dueDate
  notes : f'.notes = f.notes

/-- The match of a finding is the same. -/
structure SameMatch (f f' : Finding) : Prop where
  matchConfidence : f'.matchConfidence = f.matchConfidence
  matchReason : f'.matchReason = f.matchReason
  priorityScore : f'.priorityScore = f.priorityScore

/-- **What automation keeps of a finding**: the decisions, and the match if it is held. -/
structure Kept (f f' : Finding) : Prop where
  decisions : SameDecisions f f'
  match_of_held : f.status.held = true → SameMatch f f'

theorem Kept.refl (f : Finding) : Kept f f := ⟨⟨rfl, rfl, rfl, rfl⟩, fun _ => ⟨rfl, rfl, rfl⟩⟩

theorem Kept.trans {f g h : Finding} (hfg : Kept f g) (hgh : Kept g h) : Kept f h := by
  obtain ⟨⟨hst, hassigned, hdue, hnotes⟩, hmatch⟩ := hfg
  obtain ⟨⟨hst', hassigned', hdue', hnotes'⟩, hmatch'⟩ := hgh
  refine ⟨⟨hst'.trans hst, hassigned'.trans hassigned, hdue'.trans hdue, hnotes'.trans hnotes⟩,
    fun hheld => ?_⟩
  obtain ⟨hconfidence, hreason, hscore⟩ := hmatch hheld
  obtain ⟨hconfidence', hreason', hscore'⟩ := hmatch' (by rwa [hst])
  exact ⟨hconfidence'.trans hconfidence, hreason'.trans hreason, hscore'.trans hscore⟩

/-- **Every finding is still there, and kept.** -/
def AllKept (db db' : Db) : Prop :=
  ∀ x f, db.findings.get? x = some f → ∃ f', db'.findings.get? x = some f' ∧ Kept f f'

theorem AllKept.refl (db : Db) : AllKept db db := fun _ f hf => ⟨f, hf, .refl f⟩

theorem AllKept.trans {db db' db'' : Db} (h : AllKept db db') (h' : AllKept db' db'') :
    AllKept db db'' := by
  intro x f hf
  obtain ⟨f', hf', hkept⟩ := h x f hf
  obtain ⟨f'', hf'', hkept'⟩ := h' x f' hf'
  exact ⟨f'', hf'', hkept.trans hkept'⟩

section Statements

variable {db : Db} {now : Instant} {productId : ℕ} {cveId : String}

/-- An update keeps all findings if it keeps those it rewrites. -/
theorem allKept_updateFindings {p : Finding → Bool} {c : Finding.Assignment}
    (h : ∀ f ∈ db.findings.rows, p f = true → Kept f (c.set f)) :
    AllKept db (db.updateFindings p c) := by
  intro x f hf
  refine ⟨_, by rw [Db.get?_updateFindings, hf, Option.map_some], ?_⟩
  -- the finding is one that is rewritten, or as it was
  split_ifs with hp
  · exact h f (Table.get?_eq_some.mp hf).1 hp
  · exact .refl f

theorem allKept_insertFinding {row : ℕ → Finding} {hid : ∀ n, (row n).id = n} :
    AllKept db (db.insertFinding row hid) := by
  intro x f hf
  refine ⟨f, ?_, .refl f⟩
  unfold Db.insertFinding
  split_ifs
  · exact hf
  · -- the new id is none of the old ones
    have hne : x ≠ db.findings.seq := by
      rintro rfl
      rw [Table.get?_seq] at hf
      cases hf
    simpa only [Table.get?_insert, if_neg hne] using hf

theorem allKept_upsertFinding (confidence : Confidence) (reason : String) (priority : ℚ) :
    AllKept db (upsertFinding now productId cveId confidence reason priority db) := by
  unfold upsertFinding
  split
  · exact allKept_insertFinding
  · refine allKept_updateFindings fun f _ hp => ⟨⟨rfl, rfl, rfl, rfl⟩, fun hheld => ?_⟩
    -- a held finding does not satisfy the condition
    have hnot := (Bool.and_eq_true_iff.mp hp).2
    rw [show [FindingStatus.falsePositive, .acceptedRisk, .closed].contains f.status = true
      from hheld] at hnot
    cases hnot

end Statements

section Frame

variable {τ : Type} [DecidableEq τ] {a : Automation τ}

/-- **No held finding is to be rescored.** -/
def Automation.Sound (a : Automation τ) : Prop :=
  ∀ t, ∀ u ∈ a.fetched t, ∀ st, a.system.db.statusOf u.findingId = some st → st.held = false

/-- A statement adds open findings, if any, and changes no status. -/
theorem statusOf_execute (a : Automation τ) (e : Issued τ) (x : ℕ) :
    (execute a e).system.db.statusOf x = a.system.db.statusOf x ∨
      a.system.db.statusOf x = none ∧
        (execute a e).system.db.statusOf x = some .opened := by
  rcases e with ⟨now, statement⟩
  cases statement with
  | updateStatus status p => exact .inl rfl
  | upsertFinding p row => exact (appears_upsertFinding a.system.db _ _ _).statusOf x
  | updateStats p => exact .inl rfl
  | insertCirclFinding p cveId =>
    simp only [execute, System.insertCirclFinding]
    split_ifs
    · exact (appears_insertCirclFinding a.system.db).statusOf x
    · exact .inl rfl
  | fetchForRecompute t r cveIds => exact .inl rfl
  | updatePriority t =>
    -- an update by id: the score changes, whatever the status is by now
    simp only [execute]
    rcases a.fetched t with _ | ⟨u, us⟩
    · exact .inl rfl
    · exact .inl (a.system.db.statusOf_updateFindings_of_keep (fun _ => rfl) x)

theorem sound_execute (e : Issued τ) (h : a.Sound) : (execute a e).Sound := by
  -- what is still fetched was fetched before, or is active now
  have hfetched : ∀ t, ∀ u ∈ (execute a e).fetched t, ∀ st,
      a.system.db.statusOf u.findingId = some st → st.held = false := by
    intro t u hu st hst
    rcases e with ⟨now, statement⟩
    cases statement with
    | fetchForRecompute t' r cveIds =>
      simp only [execute, Function.update_apply] at hu
      split_ifs at hu
      · obtain ⟨f, hf, hactive⟩ := System.active_of_mem_recomputeUpdates hu
        rw [Db.statusOf, hf] at hst
        cases hst
        exact FindingStatus.not_held_of_active hactive
      · exact h t u hu st hst
    | updatePriority t' =>
      rcases hf : a.fetched t' with _ | ⟨u', us⟩
      · simp only [execute, hf] at hu
        exact h t u hu st hst
      · simp only [execute, hf, Function.update_apply] at hu
        split_ifs at hu with ht
        · exact h t' u (by rw [hf]; exact List.mem_cons_of_mem _ hu) st hst
        · exact h t u hu st hst
    | _ => exact h t u hu st hst
  intro t u hu st hst
  rcases statusOf_execute a e u.findingId with hsame | ⟨-, hopen⟩
  · exact hfetched t u hu st (hsame ▸ hst)
  · rw [hopen] at hst
    cases hst
    rfl

/-- **One statement keeps every finding.** -/
theorem allKept_execute (e : Issued τ) (h : a.Sound) :
    AllKept a.system.db (execute a e).system.db := by
  rcases e with ⟨now, statement⟩
  cases statement with
  | updateStatus status p => exact fun x f hf => ⟨f, hf, .refl f⟩
  | upsertFinding p row => exact allKept_upsertFinding _ _ _
  | updateStats p => exact fun x f hf => ⟨f, hf, .refl f⟩
  | insertCirclFinding p cveId =>
    simp only [execute, System.insertCirclFinding]
    split_ifs
    · exact allKept_insertFinding
    · exact .refl _
  | fetchForRecompute t r cveIds => exact .refl _
  | updatePriority t =>
    rcases hf : a.fetched t with _ | ⟨u, us⟩
    · simp only [execute, hf]
      exact .refl _
    · simp only [execute, hf]
      refine allKept_updateFindings fun f hmem hp => ⟨⟨rfl, rfl, rfl, rfl⟩, fun hheld => ?_⟩
      -- the update is of a finding that is not held
      have hid : f.id = u.findingId := by simpa using hp
      have hnot := h t u (by rw [hf]; exact List.mem_cons_self) f.status
        (by rw [Db.statusOf, ← hid, Table.get?_of_mem hmem, Option.map_some])
      exact absurd (hheld.symm.trans hnot) (by decide)

/-- **No order of statements takes anything from people.** -/
theorem frame_run (h : a.Sound) (l : List (Issued τ)) :
    AllKept a.system.db (run execute a l).system.db := by
  have hrun : Throughout execute (fun b => b.Sound ∧ AllKept a.system.db b.system.db) a l :=
    throughout_of_step
      (fun b e hb => ⟨sound_execute e hb.1, hb.2.trans (allKept_execute e hb.1)⟩) ⟨h, .refl _⟩ l
  exact hrun.last.2

end Frame

/-! ### The jobs, as orders of statements -/

section Jobs

variable {τ : Type} [DecidableEq τ] (now : Instant)

/-- The `executemany` of the upserts, statement by statement. -/
theorem run_upsertFindings (productId : ℕ) (rows : List FindingRow) (a : Automation τ) :
    run execute a (rows.map fun row => ⟨now, .upsertFinding productId row⟩) =
      ⟨a.system.upsertFindings now productId rows, a.fetched⟩ := by
  induction rows generalizing a with
  | nil => rfl
  | cons row rows ih => exact ih _

/-- **A sync is one order of such statements.** -/
theorem exists_run_syncProduct (ctx : SyncContext) (productId : ℕ) (a : Automation τ) :
    ∃ l, run execute a l = ⟨(syncProduct ctx now productId a.system).2, a.fetched⟩ := by
  rcases syncProduct_cases ctx now productId a.system with
    ⟨-, hrun⟩ | ⟨product, e, -, -, hrun⟩ | ⟨product, rows, r, -, -, hrun⟩
  · rw [hrun]
    exact ⟨[], rfl⟩
  · rw [hrun]
    exact ⟨[⟨now, .updateStatus .syncing productId⟩], rfl⟩
  · rw [hrun, System.written]
    split_ifs
    · exact ⟨[⟨now, .updateStatus .syncing productId⟩,
        ⟨now, .updateStatus .synced productId⟩], rfl⟩
    · -- the upserts and the statistics are one transaction, here a stretch of the run
      refine ⟨⟨now, .updateStatus .syncing productId⟩ ::
        (rows.map fun row => ⟨now, .upsertFinding productId row⟩) ++
          [⟨now, .updateStats productId⟩], ?_⟩
      rw [List.cons_append, run_cons, run_append, run_upsertFindings]
      rfl

/-- The updates of a recompute, one after the other. -/
theorem run_updatePriority (t : τ) (us : List Rescoring) (a : Automation τ)
    (h : a.fetched t = us) :
    run execute a (us.map fun _ => ⟨now, .updatePriority t⟩) =
      ⟨us.foldl (fun s u => s.updatePriority now u) a.system,
        Function.update a.fetched t []⟩ := by
  induction us generalizing a with
  | nil =>
    have hsame : Function.update a.fetched t [] = a.fetched := by
      rw [← h, Function.update_eq_self]
    rw [hsame]
    rfl
  | cons u us ih =>
    have hnext : execute a ⟨now, .updatePriority t⟩ =
        ⟨a.system.updatePriority now u, Function.update a.fetched t us⟩ := by
      simp only [execute, h]
    rw [List.map_cons, run_cons, hnext, ih _ (by simp), Function.update_idem]
    rfl

/-- **So is a recompute.** -/
theorem exists_run_recompute (r : Recompute) (cveIds : List String) (t : τ) (a : Automation τ) :
    ∃ l, run execute a l =
      ⟨a.system.recomputeFindingPriorities now r cveIds, Function.update a.fetched t []⟩ := by
  refine ⟨⟨now, .fetchForRecompute t r cveIds⟩ ::
    (a.system.recomputeUpdates (r.score now) cveIds).map fun _ => ⟨now, .updatePriority t⟩, ?_⟩
  rw [run_cons, run_updatePriority now t _ _ (by simp [execute])]
  simp only [execute, Function.update_idem]
  rfl

end Jobs

end CveManagement
