import CveManagement.Governance.Effects
import CveManagement.Query.CirclStore
import CveManagement.Sync.Entries
import CveManagement.Sync.Jobs
import Mathlib

/-!
# The findings of a deleted product

`delete_product` closes the findings of the product. Nothing that runs afterwards looks at
`is_deleted`, and the question is whether the product gets an actionable finding again.

The sync and the CIRCL fallback only ever add findings that are open and keep the status of
those that exist (`CveManagement.Db.entries`), so they wake the product exactly when they
bring a CVE of which it has no finding yet. A decision wakes it when it approves a request
that was pending at the deletion. The requests for a sync, and the expiry of acceptances, do
not wake it by themselves (`CveManagement.inert_perform_iff`).
-/

namespace CveManagement

open Register Trajectory

/-- The statuses of a finding that asks for action. -/
def FindingStatus.actionable (st : FindingStatus) : Bool :=
  [.opened, .inReview, .planned, .acceptedRisk].contains st

theorem FindingStatus.actionable_eq (st : FindingStatus) : st.actionable = !st.terminal := by
  cases st <;> rfl

/-- **The product has no actionable finding.** -/
def Inert (productId : ℕ) (db : Db) : Prop :=
  ∀ f ∈ db.findings.rows, f.productId = productId → f.status.actionable = false

/-! ### Batches of open findings -/

section Batches

variable {s : System} {db : Db} {now : Instant} {productId : ℕ}

theorem inert_iff_entries :
    Inert productId db ↔ ∀ e ∈ db.entries, e.1.1 = productId → e.2.actionable = false := by
  simp [Inert, Db.entries, Finding.target]

/-- **A batch of open findings leaves the product inert exactly if none of them is new.** -/
theorem inert_of_entries {db' : Db} {otherId : ℕ} {cveIds : List String} (h : Inert productId db)
    (hentries : db'.entries = enterAll .opened db.entries (cveIds.map fun c => (otherId, c))) :
    Inert productId db' ↔
      (otherId = productId → ∀ c ∈ cveIds, (db.findingAt productId c).isSome = true) := by
  rw [inert_iff_entries] at h ⊢
  rw [hentries, forall_enterAll_iff h, List.forall_mem_map]
  constructor
  · -- a CVE without finding would be entered as an open one
    rintro hnew rfl c hc
    refine (@mem_keys_column _ .status _ _ _).mp (by_contra fun hnot => ?_)
    have hopen : FindingStatus.opened.actionable = false := hnew c hc hnot rfl
    exact absurd hopen (by decide)
  · rintro hold c hc hnot rfl
    exact absurd ((@mem_keys_column _ .status _ _ _).mpr (hold rfl c hc)) hnot

theorem column_insertCirclFindings {ν : Type} (col : FindingColumn ν) (cveIds : List String)
    (db : Db) :
    (cveIds.foldl (fun db cveId => insertCirclFinding now productId cveId db) db).column col =
      enterAll col.initial (db.column col) (cveIds.map fun cveId => (productId, cveId)) := by
  induction cveIds generalizing db with
  | nil => rfl
  | cons cveId cveIds ih =>
    rw [List.foldl_cons, ih, List.map_cons, enterAll_cons]
    refine congrArg (fun l => enterAll _ l _) ?_
    exact column_insertFinding col .uncertain "circl_fallback" none

/-- The CVEs of which the fallback writes findings. -/
def System.linked (s : System) : CirclAnswer → List String
  | .cached cveIds => if cveIds.all fun c => (s.cves.get? c).isSome then cveIds else []
  | .fetched rows => rows.map MirrorRow.cveId

/-- What `_store` has inserted is in the mirror, and what was there is. -/
theorem Mirror.isSome_foldl_insertMissing {rows : List MirrorRow} {m : Mirror} {c : String} :
    ((rows.foldl Mirror.insertMissing m).get? c).isSome = true ↔
      (m.get? c).isSome = true ∨ c ∈ rows.map MirrorRow.cveId := by
  induction rows generalizing m with
  | nil => simp
  | cons row rows ih =>
    rw [List.foldl_cons, ih, Mirror.get?_insertMissing, Option.isSome_or, Bool.or_eq_true,
      List.map_cons, List.mem_cons, or_assoc, @eq_comm _ c]
    simp

/-- The CVEs go in first, in the same transaction, so the foreign key holds of each. -/
theorem Mirror.all_isSome_foldl_insertMissing (rows : List MirrorRow) (m : Mirror) :
    ((rows.map MirrorRow.cveId).all fun c =>
      ((rows.foldl Mirror.insertMissing m).get? c).isSome) = true :=
  List.all_eq_true.mpr fun _ hc => Mirror.isSome_foldl_insertMissing.mpr (.inr hc)

theorem column_storeCircl {ν : Type} (col : FindingColumn ν) (answer : CirclAnswer) :
    (s.storeCircl now productId answer).db.column col = enterAll col.initial (s.db.column col)
      ((s.linked answer).map fun c => (productId, c)) := by
  cases answer with
  | cached cveIds =>
    rw [System.storeCircl, System.insertCirclFindings, System.linked]
    split_ifs
    · exact column_insertCirclFindings col cveIds s.db
    · rfl
  | fetched rows =>
    rw [System.storeCircl, System.insertCirclFindings,
      if_pos (Mirror.all_isSome_foldl_insertMissing rows s.cves)]
    exact column_insertCirclFindings col _ s.db

end Batches

/-! ### What the governance handlers do -/

section Governance

variable {db : Db} {now : Instant} {productId : ℕ}

theorem inert_updateFindings {p : Finding → Bool} {c : Finding.Assignment} :
    Inert productId (db.updateFindings p c) ↔ ∀ f ∈ db.findings.rows, f.productId = productId →
      (if p f then (c.set f).status else f.status).actionable = false := by
  have htarget : ∀ f : Finding, (if p f then c.set f else f).productId = f.productId := by
    intro f
    split_ifs
    · exact congrArg Prod.fst (c.target_set f)
    · rfl
  simp only [Inert, Db.updateFindings, Table.update, List.forall_mem_map, htarget]
  refine forall₂_congr fun f _ => imp_congr_right fun _ => ?_
  split_ifs <;> rfl

/-- An updated finding is the finding of its id, of the same product. -/
theorem exists_of_mem_updateFindings {p : Finding → Bool} {c : Finding.Assignment} {f : Finding}
    (h : f ∈ (db.updateFindings p c).findings.rows) :
    ∃ g ∈ db.findings.rows, f.id = g.id ∧ f.productId = g.productId := by
  obtain ⟨g, hg, rfl⟩ := Table.mem_update.mp h
  refine ⟨g, hg, ?_⟩
  split_ifs
  · exact ⟨c.key_set g, congrArg Prod.fst (c.target_set g)⟩
  · exact ⟨rfl, rfl⟩

theorem findings_closeHistory (user : AuthUser) (rows : List Finding) (db : Db) :
    (closeHistory now user rows db).findings = db.findings := by
  rw [closeHistory]
  induction rows generalizing db with
  | nil => rfl
  | cons f rows ih =>
    rw [List.foldl_cons, ih]
    rfl

/-- **After `delete_product` the product is inert.** -/
theorem inert_deleteProduct {user : AuthUser} {order : RowOrder Finding} {n : ℕ} {db' : Db}
    (h : deleteProduct now productId user order db = .ok (n, db')) : Inert productId db' := by
  unfold deleteProduct at h
  split at h
  · cases h
  split at h
  · cases h
  split at h
  · cases h
  · cases h
    have hclosed : Inert productId (db.updateFindings (Finding.closable productId)
        (Finding.moveTo .closed now)) := by
      refine inert_updateFindings.mpr fun f _ hf => ?_
      -- what is not closed here is in a terminal status already
      split_ifs with hclose
      · rfl
      · rw [FindingStatus.actionable_eq]
        simpa [Finding.closable, hf] using hclose
    intro f hf
    change f ∈ (closeHistory now user _ _).findings.rows at hf
    rw [findings_closeHistory] at hf
    exact hclosed f hf

/-- A decision that is admitted is about a finding of its product. -/
theorem inert_decideWrite {cveId : String} {acceptanceId : ℕ} {ra : RiskAcceptance}
    {action : DecisionAction} {decidedBy : String} {otherId : ℕ} (h : Inert productId db)
    (hra : db.acceptanceAt otherId cveId acceptanceId = some ra) :
    Inert productId (decideWrite now ⟨acceptanceId, ra.findingId, action, decidedBy⟩ db).2 ↔
      (otherId = productId → action ≠ .approve) := by
  have hp := Table.of_find hra
  rw [Bool.and_eq_true, Option.any_eq_true] at hp
  obtain ⟨-, f, hf, htarget⟩ := hp
  have hother : f.productId = otherId := by
    simp only [Bool.and_eq_true, beq_iff_eq] at htarget
    exact htarget.1
  obtain ⟨hmem, hid⟩ := Table.get?_eq_some.mp hf
  cases action with
  | reject => exact iff_of_true h fun _ => by decide
  | approve =>
    have hmoved : Inert productId (decideWrite now
          ⟨acceptanceId, ra.findingId, .approve, decidedBy⟩ db).2 ↔
        Inert productId (db.updateFindings (fun f => f.id == ra.findingId)
          (Finding.moveTo .acceptedRisk now)) := Iff.rfl
    rw [hmoved, inert_updateFindings]
    constructor
    · intro hafter heq
      have haccepted := hafter f hmem (hother.trans heq)
      rw [if_pos (beq_iff_eq.mpr hid), Finding.status_moveTo] at haccepted
      exact absurd haccepted (by decide)
    · intro hne g hg hgp
      split_ifs with hgid
      · -- the finding of the acceptance would be one of the product
        have hsame : g = f := Table.eq_of_key hg hmem ((beq_iff_eq.mp hgid).trans hid.symm)
        exact absurd rfl (hne (hother.symm.trans (hsame ▸ hgp)))
      · exact h g hg hgp

/-- The loop of the expiry reopens findings of other products only. -/
theorem inert_expire_foldl (rows : List DueRow) (acc : ExpireResult × Db)
    (h : Inert productId acc.2)
    (hrows : ∀ r ∈ rows, r.status = .acceptedRisk → ∀ f ∈ acc.2.findings.rows,
      f.id = r.findingId → f.productId ≠ productId) :
    Inert productId (rows.foldl (expireOne now) acc).2 := by
  induction rows generalizing acc with
  | nil => exact h
  | cons r rows ih =>
    rw [List.foldl_cons]
    obtain ⟨hr, hrest⟩ := List.forall_mem_cons.mp hrows
    by_cases hst : r.status = .acceptedRisk
    · -- the finding that is reopened is none of the product, before and after
      have hdb : (expireOne now acc r).2.findings = (acc.2.updateFindings
          (fun f => f.id == r.findingId) (Finding.moveTo .opened now)).findings := by
        simp only [expireOne, if_pos hst]
        rfl
      refine ih _ ?_ ?_
      · intro f hf
        rw [hdb] at hf
        refine inert_updateFindings.mpr (fun g hg hgp => ?_) f hf
        split_ifs with hgid
        · exact absurd hgp (hr hst g hg (beq_iff_eq.mp hgid))
        · exact h g hg hgp
      · intro r' hr' hst' f hf hid hp
        rw [hdb] at hf
        obtain ⟨g, hg, hgid, hgp⟩ := exists_of_mem_updateFindings hf
        exact hrest r' hr' hst' g hg (hgid.symm.trans hid) (hgp.symm.trans hp)
    · have hdb : (expireOne now acc r).2.findings = acc.2.findings := by
        simp only [expireOne, if_neg hst]
        rfl
      refine ih _ ?_ ?_
      · intro f hf
        exact h f (hdb ▸ hf)
      · intro r' hr' hst' f hf
        exact hrest r' hr' hst' f (hdb ▸ hf)

/-- **An expiry leaves the product inert**: it has no accepted finding to reopen. -/
theorem inert_expire (order : RowOrder DueRow) (h : Inert productId db) :
    Inert productId (expireRiskAcceptances now order db).2 := by
  refine inert_expire_foldl _ _ h fun r hr hst f hf hid hp => ?_
  obtain ⟨ra, -, hmap⟩ := List.mem_filterMap.mp ((order.perm _).mem_iff.mp hr)
  obtain ⟨g, hg, rfl⟩ := Option.map_eq_some_iff.mp hmap
  obtain ⟨hgmem, hgid⟩ := Table.get?_eq_some.mp hg
  -- the row was fetched with the status of this finding
  obtain rfl : f = g := Table.eq_of_key hf hgmem (hid.trans hgid.symm)
  have hactionable := h f hf hp
  rw [show f.status = .acceptedRisk from hst] at hactionable
  exact absurd hactionable (by decide)

end Governance

/-! ### Whatever runs after the deletion -/

/-- What may run after the deletion. -/
inductive Activity
  | resyncAll (user : AuthUser) (order : RowOrder Product)
  | manualSync (productId : ℕ) (user : AuthUser)
  | processOneJob (ctx : SyncContext) (order : RowOrder SyncJob)
  | circlFallback (productId : ℕ) (answer : CirclAnswer)
  | decideRiskAcceptance (productId : ℕ) (cveId : String) (acceptanceId : ℕ)
      (body : RiskAcceptanceDecision) (user : AuthUser)
  | expireRiskAcceptances (order : RowOrder DueRow)

/-- An activity, and when it runs. -/
structure Scheduled where
  now : Instant
  activity : Activity

/-- **One activity**; a request that fails leaves the database as it was. -/
def perform (s : System) : Scheduled → System
  | ⟨now, .resyncAll user order⟩ => (resyncAll now user order s).toOption.getD s
  | ⟨now, .manualSync p user⟩ => (manualSync now p user s).toOption.getD s
  | ⟨now, .processOneJob ctx order⟩ => CveManagement.processOneJob ctx order now s
  | ⟨now, .circlFallback p answer⟩ => if s.circlAsks p then s.storeCircl now p answer else s
  | ⟨now, .decideRiskAcceptance p cveId aid body user⟩ =>
    { s with db := step s.db ⟨now, .decideRiskAcceptance p cveId aid body user⟩ }
  | ⟨now, .expireRiskAcceptances order⟩ =>
    { s with db := step s.db ⟨now, .expireRiskAcceptances order⟩ }

/-- **The activity does not wake the product.** A sync of it, or a fallback for it, finds no
CVE but those of which the product has a finding already; and no request for an acceptance of
one of its findings is approved. -/
def LetsRest (productId : ℕ) (s : System) : Scheduled → Prop
  | ⟨now, .processOneJob ctx order⟩ => ∀ job, s.nextJob now order = some job →
      job.targetId = productId → ∀ cveId ∈ s.affecting ctx now productId,
        (s.db.findingAt productId cveId).isSome
  | ⟨_, .circlFallback p answer⟩ => p = productId → s.circlAsks productId →
      ∀ cveId ∈ s.linked answer, (s.db.findingAt productId cveId).isSome
  | ⟨_, .decideRiskAcceptance p cveId aid body user⟩ => p = productId → body.action = .approve →
      ∀ ra, ¬DecisionAdmitted s.db p cveId aid body user ra
  | _ => True

section Perform

variable {s : System} {productId : ℕ}

theorem db_resyncAll (now : Instant) (user : AuthUser) (order : RowOrder Product) :
    ((resyncAll now user order s).toOption.getD s).db = s.db := by
  have hfold : ∀ (products : List Product) (s : System),
      (products.foldl (fun s p => s.enqueueSync now p.id 100) s).db = s.db := by
    intro products s
    induction products generalizing s with
    | nil => rfl
    | cons p products ih => rw [List.foldl_cons, ih, System.db_enqueueSync]
  unfold resyncAll
  split_ifs
  · rfl
  · exact hfold _ s

theorem findings_manualSync (now : Instant) (p : ℕ) (user : AuthUser) :
    ((manualSync now p user s).toOption.getD s).db.findings = s.db.findings := by
  unfold manualSync
  split_ifs
  · rfl
  · cases s.db.products.get? p with
    | none => rfl
    | some product =>
      have hsame := congrArg Db.findings (s.db_enqueueSync p 10 now)
      exact hsame

theorem inert_of_findings {db db' : Db} (h : db'.findings = db.findings) :
    Inert productId db' ↔ Inert productId db := by
  rw [Inert, Inert, h]

theorem entries_processOneJob (ctx : SyncContext) (order : RowOrder SyncJob) (now : Instant)
    {job : SyncJob} (hjob : s.nextJob now order = some job) :
    (processOneJob ctx order now s).db.entries = enterAll .opened s.db.entries
      ((s.affecting ctx now job.targetId).map fun c => (job.targetId, c)) := by
  have hsync : (syncProduct ctx now job.targetId
        (s.updateJob job.id (SyncJob.claim now))).2.db.entries =
      enterAll .opened s.db.entries
        ((s.affecting ctx now job.targetId).map fun c => (job.targetId, c)) :=
    column_syncProduct .status
  rw [processOneJob, hjob]
  dsimp only
  -- completed or failed, the job is all that is updated after the sync
  rcases hrun : syncProduct ctx now job.targetId (s.updateJob job.id (SyncJob.claim now)) with
    ⟨_ | _, s'⟩
  · rw [hrun] at hsync
    exact hsync
  · rw [hrun] at hsync
    exact hsync

/-- **One activity leaves a product inert exactly if it does not wake it.** -/
theorem inert_perform_iff (e : Scheduled) (h : Inert productId s.db) :
    Inert productId (perform s e).db ↔ LetsRest productId s e := by
  rcases e with ⟨now, activity⟩
  cases activity with
  | resyncAll user order =>
    refine iff_of_true ?_ trivial
    rw [perform, db_resyncAll]
    exact h
  | manualSync p user =>
    refine iff_of_true ?_ trivial
    exact (inert_of_findings (findings_manualSync now p user)).mpr h
  | processOneJob ctx order =>
    rw [perform, LetsRest]
    cases hjob : s.nextJob now order with
    | none =>
      have hidle : processOneJob ctx order now s = s := by rw [processOneJob, hjob]
      rw [hidle]
      exact iff_of_true h fun job hsome => by cases hsome
    | some job =>
      rw [inert_of_entries h (entries_processOneJob ctx order now hjob)]
      constructor
      · rintro hold job' hjob' rfl
        obtain rfl := Option.some.inj hjob'
        exact hold rfl
      · rintro hold heq
        rw [heq]
        exact hold job rfl heq
  | circlFallback p answer =>
    rw [perform, LetsRest]
    split_ifs with hasks
    · rw [inert_of_entries h (column_storeCircl .status answer)]
      exact ⟨fun hold heq _ => hold heq, fun hold heq => hold heq (heq ▸ hasks)⟩
    · refine iff_of_true h ?_
      rintro rfl hasks'
      exact absurd hasks' hasks
  | decideRiskAcceptance p cveId aid body user =>
    rw [perform, LetsRest]
    rcases step_decideRiskAcceptance now p cveId aid body user s.db with
      ⟨ra, hadm, hstep⟩ | ⟨hnone, hstep⟩
    · dsimp only
      rw [hstep, inert_decideWrite h hadm.acceptance]
      constructor
      · exact fun hrest heq happrove => absurd happrove (hrest heq)
      · exact fun hrest heq happrove => hrest heq happrove ra hadm
    · dsimp only
      rw [hstep]
      exact iff_of_true h fun _ _ ra => hnone ra
  | expireRiskAcceptances order =>
    exact iff_of_true (inert_expire order h) trivial

end Perform

/-- **After the deletion of a product, it has no actionable finding throughout a run exactly
if no activity of the run wakes it.** -/
theorem deleted_stays_inert_iff (now : Instant) (productId : ℕ) (user : AuthUser)
    (order : RowOrder Finding) (s : System) (closed : ℕ) (db' : Db)
    (h : deleteProduct now productId user order s.db = .ok (closed, db')) (l : List Scheduled) :
    Throughout perform (fun s => Inert productId s.db) { s with db := db' } l ↔
      AllSteps perform (LetsRest productId) { s with db := db' } l := by
  have hstep : ∀ (s : System) (e : Scheduled), True → Inert productId s.db →
      (Inert productId (perform s e).db ↔ LetsRest productId s e) :=
    fun _ e _ hs => inert_perform_iff e hs
  exact throughout_iff_allSteps (fun _ _ _ => trivial) hstep trivial (inert_deleteProduct h)

/-! ### A deleted product that wakes up -/

/-- One product with a CPE, and no CVE. -/
def System.withCpe : System where
  db := .ofProducts (Table.empty.insert fun n =>
    ⟨n, "nginx", some "F5", some "1.25.1", some "cpe:2.3:a:f5:nginx:1.25.1:*:*:*:*:*:*:*", 0, 0, 0,
      false, none, none⟩)
  cves := ⟨[], List.nodup_nil⟩
  syncColumns _ := ⟨.synced, none⟩
  syncJobs := .empty

/-- The product is deleted, somebody queries its CVEs, and the fallback opens a finding. -/
theorem not_deleted_stays_inert : ∃ db',
    deleteProduct 10 1 .alice .insertion System.withCpe.db = .ok (0, db') ∧
      ¬Throughout perform (fun s => Inert 1 s.db) { System.withCpe with db := db' }
        [⟨20, .circlFallback 1 (.fetched [.bare "CVE-2024-0001"])⟩] := by
  refine ⟨_, rfl, fun hrun => ?_⟩
  have hopen := hrun.last
  exact absurd (hopen _ List.mem_cons_self rfl) (by decide)

/-- The characterisation, at that run. -/
theorem deleted_stays_inert_withCpe : ∃ db',
    deleteProduct 10 1 .alice .insertion System.withCpe.db = .ok (0, db') ∧
      (Throughout perform (fun s => Inert 1 s.db) { System.withCpe with db := db' }
          [⟨20, .circlFallback 1 (.fetched [.bare "CVE-2024-0001"])⟩] ↔
        AllSteps perform (LetsRest 1) { System.withCpe with db := db' }
          [⟨20, .circlFallback 1 (.fetched [.bare "CVE-2024-0001"])⟩]) :=
  ⟨_, rfl, deleted_stays_inert_iff 10 1 .alice .insertion System.withCpe 0 _ rfl _⟩

end CveManagement
