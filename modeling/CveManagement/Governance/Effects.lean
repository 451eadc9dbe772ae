import CveManagement.Governance.Requests

/-!
# What each operation does to the lifecycle

For each handler, the condition under which it succeeds, and everything it then does
to the status of a finding, to the changes its history records, and to the
acceptances. `CveManagement.step_updateFinding` and its siblings put the two together:
an event either is admitted, and has these effects, or is not, and has none. The
invariants of the lifecycle are read off these lemmas; none of them unfolds a handler.
-/

namespace CveManagement

/-- A failing event changes nothing. -/
theorem step_of_error {db : Db} {e : Event} (err : ApiError) (h : serve db e = .error err) :
    step db e = db := by
  rw [step, h]

theorem step_of_ok {db db' : Db} {e : Event} (h : serve db e = .ok db') : step db e = db' := by
  rw [step, h]

/-! ### `update_finding` -/

section UpdateFinding

variable {now : Instant} {productId : ℕ} {cveId : String} {body : FindingUpdate} {user : AuthUser}
  {edit : FindingEdit} {db db' : Db}

/-- **`update_finding` is admitted**, on a finding and with a due date: every check
passes, the one by the `CHECK` of the column included. -/
structure UpdateAdmitted (db : Db) (productId : ℕ) (cveId : String) (body : FindingUpdate)
    (user : AuthUser) (f : Finding) (dueDate : Option Date) : Prop where
  role : user.mayWrite = true
  status : body.statusAdmitted = true
  nonempty : body.status ≠ some ""
  finding : db.findingAt productId cveId = some f
  dueDate : body.parseDueDate = .ok dueDate

theorem updateFindingRead_eq_ok :
    updateFindingRead productId cveId body user db = .ok edit ↔
      user.mayWrite = true ∧ body.statusAdmitted = true ∧
        ∃ f, db.findingAt productId cveId = some f ∧ body.parseDueDate = .ok edit.dueDate ∧
          edit = ⟨f.id, f.status, edit.dueDate⟩ := by
  rw [updateFindingRead]
  by_cases hrole : user.mayWrite
  · by_cases hst : body.statusAdmitted
    · cases hf : db.findingAt productId cveId with
      | none => simp [hrole, hst]
      | some f =>
        cases hd : body.parseDueDate with
        | error e => simp [hrole, hst]
        | ok due =>
          simp only [hrole, hst, Bool.not_true, Bool.false_eq_true, if_false, true_and,
            Except.ok.injEq, Option.some.injEq, exists_eq_left']
          constructor
          · rintro rfl
            exact ⟨rfl, rfl⟩
          · rintro ⟨rfl, he⟩
            exact he.symm
    · simp [hrole, hst]
  · simp [hrole]

@[simp] theorem findings_logChange :
    (body.logChange edit now user db).findings = db.findings := by
  rw [FindingUpdate.logChange]
  cases body.statusChange edit <;> rfl

@[simp] theorem statusOf_logChange (x : ℕ) :
    (body.logChange edit now user db).statusOf x = db.statusOf x := by
  rw [FindingUpdate.logChange]
  cases body.statusChange edit <;> rfl

@[simp] theorem riskAcceptances_logChange :
    (body.logChange edit now user db).riskAcceptances = db.riskAcceptances := by
  rw [FindingUpdate.logChange]
  cases body.statusChange edit <;> rfl

theorem changes_logChange (x : ℕ) :
    (body.logChange edit now user db).changes x = db.changes x ++
      if edit.findingId = x then (body.statusChange edit).toList.map fun s => (edit.oldStatus, s)
      else [] := by
  rw [FindingUpdate.logChange]
  cases hs : body.statusChange edit with
  | none => simp
  | some s => simp [Db.changes_insertHistory]

theorem updateFindingWrite_ok {row : Option Finding}
    (h : updateFindingWrite now productId cveId body user edit db = .ok (row, db')) :
    ∃ action, db' = (body.logChange edit now user
        (db.updateFindings (fun f => f.productId == productId && f.cveId == cveId)
          (body.assignment edit now))).recordInTx action "finding" (findingTarget productId cveId)
      user.email user.role now := by
  rw [updateFindingWrite] at h
  split at h
  · cases h
  · exact ⟨_, (Prod.mk.inj (Except.ok.inj h)).2.symm⟩

theorem statusOf_updateFindingWrite {row : Option Finding} {f : Finding}
    (h : updateFindingWrite now productId cveId body user edit db = .ok (row, db'))
    (hf : db.findingAt productId cveId = some f) (x : ℕ) :
    db'.statusOf x = if x = f.id then some (body.newStatus.getD f.status) else db.statusOf x := by
  obtain ⟨hmem, hp, hc⟩ := Db.findingAt_mem hf
  obtain ⟨action, rfl⟩ := updateFindingWrite_ok h
  rw [Db.statusOf_recordInTx, statusOf_logChange, Db.statusOf_updateFindings]
  by_cases hx : x = f.id
  · subst hx
    rw [if_pos rfl, Table.get?_of_mem hmem, Option.map_some]
    simp [hp, hc, FindingUpdate.assignment]
  · rw [if_neg hx, Db.statusOf]
    refine Option.map_congr fun g hg => ?_
    obtain ⟨hgmem, hgid⟩ := Table.get?_eq_some.mp hg
    -- no other finding has the same target
    have hne : ¬(g.productId = productId ∧ g.cveId = cveId) := by
      rintro ⟨h1, h2⟩
      refine hx ?_
      rw [← hgid, Db.finding_unique hgmem hmem
        (by rw [Finding.target, Finding.target, h1, h2, hp, hc])]
    simp only [Bool.and_eq_true, beq_iff_eq]
    rw [if_neg hne]

theorem changes_updateFindingWrite {row : Option Finding}
    (h : updateFindingWrite now productId cveId body user edit db = .ok (row, db')) (x : ℕ) :
    db'.changes x = db.changes x ++
      if edit.findingId = x then (body.statusChange edit).toList.map fun s => (edit.oldStatus, s)
      else [] := by
  obtain ⟨action, rfl⟩ := updateFindingWrite_ok h
  rw [Db.changes_recordInTx, changes_logChange, Db.changes_updateFindings]

theorem riskAcceptances_updateFindingWrite {row : Option Finding}
    (h : updateFindingWrite now productId cveId body user edit db = .ok (row, db')) :
    db'.riskAcceptances = db.riskAcceptances := by
  obtain ⟨action, rfl⟩ := updateFindingWrite_ok h
  rw [Db.riskAcceptances_recordInTx, riskAcceptances_logChange,
    Db.riskAcceptances_updateFindings]

theorem updateFinding_eq_ok :
    (∃ row, updateFinding now productId cveId body user db = .ok (row, db')) ↔
      ∃ f due, UpdateAdmitted db productId cveId body user f due ∧
        ∃ row, updateFindingWrite now productId cveId body user ⟨f.id, f.status, due⟩ db =
          .ok (row, db') := by
  constructor
  · rintro ⟨row, h⟩
    rw [updateFinding] at h
    split at h
    · cases h
    · rename_i edit hread
      obtain ⟨hrole, hst, f, hf, hdue, hedit⟩ := updateFindingRead_eq_ok.mp hread
      -- an empty text passes the check of the handler and fails that of the column
      have hne : body.status ≠ some "" := fun he => by
        rw [updateFindingWrite, if_pos ⟨he, by rw [hf]; rfl⟩] at h
        cases h
      exact ⟨f, edit.dueDate, ⟨hrole, hst, hne, hf, hdue⟩, row, by rw [← hedit]; exact h⟩
  · rintro ⟨f, due, hadm, row, h⟩
    refine ⟨row, ?_⟩
    have hread : updateFindingRead productId cveId body user db = .ok ⟨f.id, f.status, due⟩ :=
      updateFindingRead_eq_ok.mpr ⟨hadm.role, hadm.status, f, hadm.finding, hadm.dueDate, rfl⟩
    rw [updateFinding, hread]
    exact h

variable (db now productId cveId body user) in
/-- **What `update_finding` does.** -/
theorem step_updateFinding :
    (∃ f due, UpdateAdmitted db productId cveId body user f due ∧
      (∀ x, (step db ⟨now, .updateFinding productId cveId body user⟩).statusOf x =
        if x = f.id then some (body.newStatus.getD f.status) else db.statusOf x) ∧
      (∀ x, (step db ⟨now, .updateFinding productId cveId body user⟩).changes x =
        db.changes x ++ if f.id = x then
          (body.newStatus.filter fun s => s != f.status).toList.map fun s => (f.status, s)
        else []) ∧
      (step db ⟨now, .updateFinding productId cveId body user⟩).riskAcceptances =
        db.riskAcceptances) ∨
    (∀ f due, ¬UpdateAdmitted db productId cveId body user f due) ∧
      step db ⟨now, .updateFinding productId cveId body user⟩ = db := by
  by_cases hadm : ∃ f due, UpdateAdmitted db productId cveId body user f due
  · obtain ⟨f, due, hadm⟩ := hadm
    refine .inl ⟨f, due, hadm, ?_⟩
    have hwrite : ∃ row db', updateFindingWrite now productId cveId body user
        ⟨f.id, f.status, due⟩ db = .ok (row, db') := by
      rw [updateFindingWrite, if_neg fun h => hadm.nonempty h.1]
      exact ⟨_, _, rfl⟩
    obtain ⟨row, db', hwrite⟩ := hwrite
    obtain ⟨row', hok⟩ := updateFinding_eq_ok.mpr ⟨f, due, hadm, row, hwrite⟩
    have hstep : step db ⟨now, .updateFinding productId cveId body user⟩ = db' :=
      step_of_ok (by rw [serve, hok]; rfl)
    rw [hstep]
    exact ⟨statusOf_updateFindingWrite hwrite hadm.finding, changes_updateFindingWrite hwrite,
      riskAcceptances_updateFindingWrite hwrite⟩
  · refine .inr ⟨fun f due h => hadm ⟨f, due, h⟩, ?_⟩
    cases hserve : updateFinding now productId cveId body user db with
    | error err => exact step_of_error err (by rw [serve, hserve]; rfl)
    | ok r =>
      obtain ⟨f, due, h, -⟩ := updateFinding_eq_ok.mp ⟨r.1, hserve⟩
      exact absurd ⟨f, due, h⟩ hadm

end UpdateFinding

/-! ### `create_risk_acceptance` -/

section Create

variable {now : Instant} {productId : ℕ} {cveId : String} {body : RiskAcceptanceCreate}
  {user : AuthUser} {db : Db}

/-- **`create_risk_acceptance` is admitted**, on a finding. -/
structure CreateAdmitted (db : Db) (now : Instant) (productId : ℕ) (cveId : String)
    (body : RiskAcceptanceCreate) (user : AuthUser) (f : Finding) : Prop where
  role : user.mayWrite = true
  valid : body.invalid now.date = none
  finding : db.findingAt productId cveId = some f
  open_ : f.status.terminal = false

variable (db now productId cveId body user) in
/-- **What `create_risk_acceptance` does**: a pending acceptance of a finding that is
not in a terminal status is added. -/
theorem step_createRiskAcceptance :
    (∃ f, CreateAdmitted db now productId cveId body user f ∧
      (∀ x, (step db ⟨now, .createRiskAcceptance productId cveId body user⟩).statusOf x =
        db.statusOf x) ∧
      (∀ x, (step db ⟨now, .createRiskAcceptance productId cveId body user⟩).changes x =
        db.changes x) ∧
      ∀ a, (step db ⟨now, .createRiskAcceptance productId cveId body user⟩).riskAcceptances.get? a =
        if a = db.riskAcceptances.seq then
          some ⟨a, f.id, user.email, none, body.justification, body.expiresAt, .pending, now, none⟩
        else db.riskAcceptances.get? a) ∨
    step db ⟨now, .createRiskAcceptance productId cveId body user⟩ = db := by
  cases hserve : createRiskAcceptance now productId cveId body user db with
  | error err => exact .inr (step_of_error err (by rw [serve, hserve]; rfl))
  | ok r =>
    have hstep : step db ⟨now, .createRiskAcceptance productId cveId body user⟩ = r.2 :=
      step_of_ok (by rw [serve, hserve]; rfl)
    rw [hstep]
    rw [createRiskAcceptance] at hserve
    split at hserve
    · cases hserve
    split at hserve
    · cases hserve
    split at hserve
    · cases hserve
    split at hserve
    · cases hserve
    · rename_i hrole _ hbody _ f hf hterm
      cases hserve
      refine .inl ⟨f, ⟨by simpa using hrole, hbody, hf, by simpa using hterm⟩, fun x => by simp,
        fun x => by simp, fun a => ?_⟩
      rw [Db.riskAcceptances_recordInTx, Db.insertAcceptance, Table.get?_insert]
      by_cases ha : a = db.riskAcceptances.seq
      · rw [if_pos ha, if_pos ha, ha]
      · rw [if_neg ha, if_neg ha]

end Create

/-! ### `decide_risk_acceptance` -/

section Decide

variable {now : Instant} {productId : ℕ} {cveId : String} {acceptanceId : ℕ}
  {body : RiskAcceptanceDecision} {user : AuthUser} {d : Decision} {db : Db}

theorem acceptanceAt_some {ra : RiskAcceptance}
    (h : db.acceptanceAt productId cveId acceptanceId = some ra) :
    db.riskAcceptances.get? acceptanceId = some ra ∧
      ∃ f, db.findings.get? ra.findingId = some f := by
  have hp := Table.of_find h
  rw [Bool.and_eq_true, beq_iff_eq, Option.any_eq_true] at hp
  obtain ⟨hid, f, hf, -⟩ := hp
  exact ⟨Table.get?_eq_some.mpr ⟨Table.mem_of_find h, hid⟩, f, hf⟩

/-- **A decision is admitted**: the acceptance is pending, and not approved by the
user who requested it. -/
structure DecisionAdmitted (db : Db) (productId : ℕ) (cveId : String) (acceptanceId : ℕ)
    (body : RiskAcceptanceDecision) (user : AuthUser) (ra : RiskAcceptance) : Prop where
  role : user.mayWrite = true
  valid : body.invalid = none
  acceptance : db.acceptanceAt productId cveId acceptanceId = some ra
  pending : ra.status = .pending
  segregated : body.action = .approve → ra.requestedBy ≠ user.email

/-- **The checks of `decide_risk_acceptance`.** -/
theorem decideRead_eq_ok : decideRead productId cveId acceptanceId body user db = .ok d ↔
    ∃ ra, DecisionAdmitted db productId cveId acceptanceId body user ra ∧
      d = ⟨acceptanceId, ra.findingId, body.action, user.email⟩ := by
  constructor
  · intro h
    rw [decideRead] at h
    split at h
    · cases h
    split at h
    · cases h
    split at h
    · cases h
    split at h
    · cases h
    split at h
    · cases h
    · rename_i hrole _ hbody _ ra hra hpend hsod
      exact ⟨ra, ⟨by simpa using hrole, hbody, hra, not_not.mp hpend, fun ha he => hsod ⟨ha, he⟩⟩,
        (Except.ok.inj h).symm⟩
  · rintro ⟨ra, hadm, rfl⟩
    have hsod : ¬(body.action = .approve ∧ ra.requestedBy = user.email) :=
      fun h => hadm.segregated h.1 h.2
    simp [decideRead, hadm.role, hadm.valid, hadm.acceptance, hadm.pending, hsod]

theorem statusOf_decideWrite (x : ℕ) :
    (decideWrite now d db).2.statusOf x =
      if d.action = .approve ∧ x = d.findingId then (db.statusOf x).map fun _ => .acceptedRisk
      else db.statusOf x := by
  rw [decideWrite, Db.statusOf_recordInTx]
  cases ha : d.action with
  | reject => simp
  | approve =>
    simp only [Db.statusOf_insertHistory, Db.statusOf_moveOne, Db.statusOf_updateAcceptance,
      true_and]

theorem changes_decideWrite (x : ℕ) :
    (decideWrite now d db).2.changes x = db.changes x ++
      if d.action = .approve ∧ d.findingId = x then [(.opened, .acceptedRisk)] else [] := by
  rw [decideWrite, Db.changes_recordInTx]
  cases ha : d.action with
  | reject => simp
  | approve => simp [Db.changes_insertHistory]

theorem get?_decideWrite (a : ℕ) :
    (decideWrite now d db).2.riskAcceptances.get? a =
      if a = d.acceptanceId then (db.riskAcceptances.get? a).map (d.assignment now).set
      else db.riskAcceptances.get? a := by
  rw [← Db.get?_updateAcceptance, decideWrite, Db.riskAcceptances_recordInTx]
  cases d.action <;> rfl

variable (db now productId cveId acceptanceId body user) in
/-- **What `decide_risk_acceptance` does**: its writing half, if the decision is admitted. -/
theorem step_decideRiskAcceptance :
    (∃ ra, DecisionAdmitted db productId cveId acceptanceId body user ra ∧
      step db ⟨now, .decideRiskAcceptance productId cveId acceptanceId body user⟩ =
        (decideWrite now ⟨acceptanceId, ra.findingId, body.action, user.email⟩ db).2) ∨
    (∀ ra, ¬DecisionAdmitted db productId cveId acceptanceId body user ra) ∧
      step db ⟨now, .decideRiskAcceptance productId cveId acceptanceId body user⟩ = db := by
  cases hread : decideRead productId cveId acceptanceId body user db with
  | error err =>
    refine .inr ⟨fun ra hadm => ?_, step_of_error err ?_⟩
    · rw [decideRead_eq_ok.mpr ⟨ra, hadm, rfl⟩] at hread
      cases hread
    · rw [serve, decideRiskAcceptance, hread]
      rfl
  | ok d =>
    obtain ⟨ra, hadm, rfl⟩ := decideRead_eq_ok.mp hread
    refine .inl ⟨ra, hadm, step_of_ok ?_⟩
    rw [serve, decideRiskAcceptance, hread]
    rfl

end Decide

/-! ### `expire_risk_acceptances` -/

section Expire

variable {now : Instant}

/-- A row of the loop that reopens finding `x`. -/
def DueRow.reopens (x : ℕ) (r : DueRow) : Bool :=
  r.findingId == x && r.status == .acceptedRisk

theorem statusOf_expireOne (acc : ExpireResult × Db) (r : DueRow) (x : ℕ) :
    (expireOne now acc r).2.statusOf x =
      if r.reopens x then (acc.2.statusOf x).map fun _ => .opened else acc.2.statusOf x := by
  rw [expireOne, Db.statusOf_recordInTx, DueRow.reopens]
  by_cases hs : r.status = .acceptedRisk
  · rw [if_pos hs, Db.statusOf_insertHistory, Db.statusOf_moveOne, Db.statusOf_updateAcceptance]
    simp only [hs, beq_self_eq_true, Bool.and_true, beq_iff_eq, @eq_comm ℕ x]
  · rw [if_neg hs, if_neg (by simp [hs]), Db.statusOf_updateAcceptance]

theorem changes_expireOne (acc : ExpireResult × Db) (r : DueRow) (x : ℕ) :
    (expireOne now acc r).2.changes x = acc.2.changes x ++
      if r.reopens x then [(.acceptedRisk, .opened)] else [] := by
  rw [expireOne, Db.changes_recordInTx, DueRow.reopens]
  by_cases hs : r.status = .acceptedRisk
  · rw [if_pos hs, Db.changes_insertHistory]
    simp [hs]
  · simp [hs]

theorem get?_expireOne (acc : ExpireResult × Db) (r : DueRow) (a : ℕ) :
    (expireOne now acc r).2.riskAcceptances.get? a =
      if a = r.id then (acc.2.riskAcceptances.get? a).map RiskAcceptance.expiry.set
      else acc.2.riskAcceptances.get? a := by
  rw [← Db.get?_updateAcceptance, expireOne, Db.riskAcceptances_recordInTx]
  by_cases hs : r.status = .acceptedRisk
  · rw [if_pos hs]
    rfl
  · rw [if_neg hs]

section Loop

variable (rows : List DueRow)

/-- The loop, from any point of it. -/
theorem statusOf_expire_foldl (acc : ExpireResult × Db) (x : ℕ) :
    (rows.foldl (expireOne now) acc).2.statusOf x =
      if rows.any (DueRow.reopens x) then (acc.2.statusOf x).map fun _ => .opened
      else acc.2.statusOf x := by
  induction rows generalizing acc with
  | nil => simp
  | cons r rows ih =>
    rw [List.foldl_cons, ih, statusOf_expireOne, List.any_cons]
    -- a finding that is reopened twice is open as after the first time
    by_cases hr : r.reopens x
    · simp only [hr, if_true, Bool.true_or, Option.map_map]
      by_cases hrows : rows.any (DueRow.reopens x)
      · rw [if_pos hrows]
        rfl
      · rw [if_neg hrows]
    · simp [hr]

theorem changes_expire_foldl (acc : ExpireResult × Db) (x : ℕ) :
    (rows.foldl (expireOne now) acc).2.changes x = acc.2.changes x ++
      List.replicate (rows.countP (DueRow.reopens x)) (.acceptedRisk, .opened) := by
  induction rows generalizing acc with
  | nil => simp
  | cons r rows ih =>
    rw [List.foldl_cons, ih, changes_expireOne, List.append_assoc]
    by_cases hr : r.reopens x
    · rw [if_pos hr, List.countP_cons_of_pos hr, List.replicate_succ]
      rfl
    · rw [if_neg hr, List.countP_cons_of_neg hr]
      rfl

theorem get?_expire_foldl (acc : ExpireResult × Db) (a : ℕ) :
    (rows.foldl (expireOne now) acc).2.riskAcceptances.get? a =
      if rows.any fun r => r.id == a then
        (acc.2.riskAcceptances.get? a).map RiskAcceptance.expiry.set
      else acc.2.riskAcceptances.get? a := by
  induction rows generalizing acc with
  | nil => simp
  | cons r rows ih =>
    rw [List.foldl_cons, ih, get?_expireOne, List.any_cons]
    by_cases hr : a = r.id
    · -- expiring an acceptance twice is expiring it once
      subst hr
      simp only [beq_self_eq_true, Bool.true_or, if_true, Option.map_map]
      by_cases hrows : rows.any fun r' => r'.id == r.id
      · rw [if_pos hrows]
        rfl
      · rw [if_neg hrows]
    · simp only [if_neg hr, beq_eq_false_iff_ne.mpr (Ne.symm hr), Bool.false_or]

theorem result_expire_foldl (acc : ExpireResult × Db) :
    (rows.foldl (expireOne now) acc).1 =
      ⟨acc.1.expired + rows.length,
        acc.1.reopened + rows.countP fun r => r.status == .acceptedRisk⟩ := by
  induction rows generalizing acc with
  | nil => rfl
  | cons r rows ih =>
    rw [List.foldl_cons, ih]
    by_cases hr : r.status = .acceptedRisk
    · simp [expireOne, hr]
      omega
    · simp [expireOne, hr]
      omega

end Loop

/-- The due acceptances of a finding. -/
def Db.dueOf (db : Db) (x : ℕ) (today : Date) : List RiskAcceptance :=
  db.riskAcceptances.select fun ra => ra.findingId == x && ra.due today

variable {db : Db} {order : RowOrder DueRow} {today : Date}

/-- **The rows that reopen a finding**: one for each due acceptance of it, if it is
accepted when the rows are fetched, and none otherwise. -/
theorem countP_reopens (x : ℕ) :
    (db.fetchDue today).countP (DueRow.reopens x) =
      if db.statusOf x = some .acceptedRisk then (db.dueOf x today).length else 0 := by
  rw [Db.fetchDue, Db.dueOf, Table.select, Table.select, List.countP_filterMap, List.countP_filter,
    ← List.countP_eq_length_filter]
  -- an accepted finding is reopened by each of its rows, any other one by none
  split
  · rename_i hacc
    refine List.countP_congr fun ra _ => ?_
    obtain ⟨f, hf, hst⟩ := Option.map_eq_some_iff.mp hacc
    by_cases hx : ra.findingId = x
    · simp [hx, hf, hst, DueRow.reopens]
    · cases hg : db.findings.get? ra.findingId with
      | none => simp [hx]
      | some g => simp [hx, DueRow.reopens]
  · rename_i hacc
    refine List.countP_eq_zero.mpr fun ra _ => ?_
    cases hg : db.findings.get? ra.findingId with
    | none => simp
    | some g =>
      -- a row of the finding carries its status
      have hrow : ra.findingId = x → g.status ≠ .acceptedRisk := by
        rintro rfl hst
        exact hacc (by rw [Db.statusOf, hg, Option.map_some, hst])
      simp only [Option.map_some, Option.getD_some, DueRow.reopens, Bool.and_eq_true, beq_iff_eq,
        not_and]
      exact fun h => absurd h.2 (hrow h.1)

theorem any_reopens (x : ℕ) :
    (db.fetchDue today).any (DueRow.reopens x) = true ↔
      db.statusOf x = some .acceptedRisk ∧ db.dueOf x today ≠ [] := by
  rw [List.any_eq_true, ← List.countP_pos_iff, countP_reopens]
  by_cases hacc : db.statusOf x = some .acceptedRisk
  · simp [hacc, List.length_pos_iff]
  · simp [hacc]

/-- The fetched rows name the due acceptances, as far as their findings exist. -/
theorem any_fetchDue_id {a : ℕ} {ra : RiskAcceptance} (hra : db.riskAcceptances.get? a = some ra) :
    (db.fetchDue today).any (fun r => r.id == a) = true ↔
      ra.due today = true ∧ (db.findings.get? ra.findingId).isSome = true := by
  obtain ⟨hmem, rfl⟩ := Table.get?_eq_some.mp hra
  rw [List.any_eq_true]
  constructor
  · rintro ⟨r, hr, hid⟩
    obtain ⟨ra', hra', hmap⟩ := List.mem_filterMap.mp hr
    obtain ⟨hmem', hdue⟩ := Table.mem_select.mp hra'
    obtain ⟨f, hf, rfl⟩ := Option.map_eq_some_iff.mp hmap
    obtain rfl := Table.eq_of_key hmem' hmem (by simpa using hid)
    exact ⟨hdue, by rw [hf]; rfl⟩
  · rintro ⟨hdue, hf⟩
    obtain ⟨f, hf⟩ := Option.isSome_iff_exists.mp hf
    exact ⟨_, List.mem_filterMap.mpr ⟨ra, Table.mem_select.mpr ⟨hmem, hdue⟩, by rw [hf]; rfl⟩,
      by simp⟩

variable (now db order) in
/-- **What one run of the job does to a finding's status.** -/
theorem statusOf_expire (x : ℕ) :
    (expireRiskAcceptances now order db).2.statusOf x =
      if db.statusOf x = some .acceptedRisk ∧ db.dueOf x now.date ≠ [] then some .opened
      else db.statusOf x := by
  rw [expireRiskAcceptances, expireLoop, statusOf_expire_foldl, (order.perm _).any_eq]
  by_cases h : (db.fetchDue now.date).any (DueRow.reopens x)
  · rw [if_pos h, if_pos ((any_reopens x).mp h), ((any_reopens x).mp h).1]
    rfl
  · rw [if_neg h, if_neg fun hc => h ((any_reopens x).mpr hc)]

/-- **What one run of the job records of a finding**: a change for each due acceptance. -/
theorem changes_expire (x : ℕ) :
    (expireRiskAcceptances now order db).2.changes x = db.changes x ++
      if db.statusOf x = some .acceptedRisk then
        List.replicate (db.dueOf x now.date).length (.acceptedRisk, .opened)
      else [] := by
  rw [expireRiskAcceptances, expireLoop, changes_expire_foldl, (order.perm _).countP_eq,
    countP_reopens]
  by_cases h : db.statusOf x = some .acceptedRisk
  · rw [if_pos h, if_pos h]
  · rw [if_neg h, if_neg h]
    rfl

variable (now db order) in
/-- **What one run of the job does to an acceptance.** -/
theorem get?_expire (a : ℕ) :
    (expireRiskAcceptances now order db).2.riskAcceptances.get? a =
      (db.riskAcceptances.get? a).map fun ra =>
        if ra.due now.date = true ∧ (db.findings.get? ra.findingId).isSome = true then
          RiskAcceptance.expiry.set ra
        else ra := by
  rw [expireRiskAcceptances, expireLoop, get?_expire_foldl, (order.perm _).any_eq]
  cases hra : db.riskAcceptances.get? a with
  | none => simp
  | some ra =>
    by_cases h : (db.fetchDue now.date).any fun r => r.id == a
    · rw [if_pos h, Option.map_some, Option.map_some, if_pos ((any_fetchDue_id hra).mp h)]
    · rw [if_neg h, Option.map_some, if_neg fun hc => h ((any_fetchDue_id hra).mpr hc)]

/-- What one run of the job reports. -/
theorem result_expire :
    (expireRiskAcceptances now order db).1 =
      ⟨(db.fetchDue now.date).length,
        (db.fetchDue now.date).countP fun r => r.status == .acceptedRisk⟩ := by
  rw [expireRiskAcceptances, expireLoop, result_expire_foldl, (order.perm _).countP_eq,
    order.length_arrange, Nat.zero_add, Nat.zero_add]

end Expire

/-! ### `delete_product` -/

section Delete

variable {now : Instant} {user : AuthUser}

theorem statusOf_closeHistory (rows : List Finding) (db : Db) (x : ℕ) :
    (closeHistory now user rows db).statusOf x = db.statusOf x := by
  rw [closeHistory]
  induction rows generalizing db with
  | nil => rfl
  | cons f rows ih => rw [List.foldl_cons, ih, Db.statusOf_insertHistory]

theorem riskAcceptances_closeHistory (rows : List Finding) (db : Db) :
    (closeHistory now user rows db).riskAcceptances = db.riskAcceptances := by
  rw [closeHistory]
  induction rows generalizing db with
  | nil => rfl
  | cons f rows ih => rw [List.foldl_cons, ih, Db.riskAcceptances_insertHistory]

theorem changes_closeHistory (rows : List Finding) (db : Db) (x : ℕ) :
    (closeHistory now user rows db).changes x = db.changes x ++
      List.replicate (rows.countP fun f => f.id == x) (.opened, .closed) := by
  rw [closeHistory]
  induction rows generalizing db with
  | nil => simp
  | cons f rows ih =>
    rw [List.foldl_cons, ih, Db.changes_insertHistory, List.append_assoc]
    by_cases hf : f.id = x
    · rw [if_pos hf, List.countP_cons_of_pos (by simp [hf]), List.replicate_succ]
      rfl
    · rw [if_neg hf, List.countP_cons_of_neg (by simp [hf])]
      rfl

/-- The findings `delete_product` closes. -/
theorem statusOf_close (db : Db) (productId : ℕ) (x : ℕ) :
    (db.updateFindings (Finding.closable productId) (Finding.moveTo .closed now)).statusOf x =
      if (db.findings.get? x).any (Finding.closable productId) then some .closed
      else db.statusOf x := by
  rw [Db.statusOf_updateFindings, Db.statusOf]
  cases db.findings.get? x with
  | none => rfl
  | some f =>
    by_cases hf : f.closable productId
    · simp [hf]
    · simp [hf]

/-- **`delete_product` is admitted**: the product exists and is not deleted. -/
structure DeleteAdmitted (db : Db) (productId : ℕ) (user : AuthUser) : Prop where
  role : user.mayWrite = true
  product : ∃ p, db.products.get? productId = some p ∧ p.isDeleted = false

variable (now user) in
/-- **What `delete_product` does**: the closable findings of the product are closed,
each with one history row that starts at the literal `open`. -/
theorem step_deleteProduct (db : Db) (productId : ℕ) (order : RowOrder Finding) :
    (DeleteAdmitted db productId user ∧
      (∀ x, (step db ⟨now, .deleteProduct productId user order⟩).statusOf x =
        if (db.findings.get? x).any (Finding.closable productId) then some .closed
        else db.statusOf x) ∧
      (∀ x, (step db ⟨now, .deleteProduct productId user order⟩).changes x = db.changes x ++
        if (db.findings.get? x).any (Finding.closable productId) then [(.opened, .closed)]
        else []) ∧
      (step db ⟨now, .deleteProduct productId user order⟩).riskAcceptances =
        db.riskAcceptances) ∨
    ¬DeleteAdmitted db productId user ∧
      step db ⟨now, .deleteProduct productId user order⟩ = db := by
  cases hserve : deleteProduct now productId user order db with
  | error err =>
    refine .inr ⟨fun hadm => ?_, step_of_error err (by rw [serve, hserve]; rfl)⟩
    obtain ⟨p, hp, hdel⟩ := hadm.product
    rw [deleteProduct, hp] at hserve
    simp [hadm.role, hdel] at hserve
  | ok r =>
    have hstep : step db ⟨now, .deleteProduct productId user order⟩ = r.2 :=
      step_of_ok (by rw [serve, hserve]; rfl)
    rw [hstep]
    rw [deleteProduct] at hserve
    split at hserve
    · cases hserve
    split at hserve
    · cases hserve
    split at hserve
    · cases hserve
    · rename_i hrole _ p hp hdel
      cases hserve
      refine .inl ⟨⟨by simpa using hrole, p, hp, by simpa using hdel⟩, fun x => ?_, fun x => ?_, ?_⟩
      · rw [Db.statusOf_recordInTx, statusOf_closeHistory, statusOf_close]
        rfl
      · rw [Db.changes_recordInTx, changes_closeHistory, (order.perm _).countP_eq,
          Table.countP_key, Db.changes_updateFindings]
        by_cases hx : (db.findings.get? x).any (Finding.closable productId)
        · rw [if_pos hx, if_pos hx]
          rfl
        · rw [if_neg hx, if_neg hx]
          rfl
      · rw [Db.riskAcceptances_recordInTx, riskAcceptances_closeHistory]
        rfl

end Delete

/-! ### The statements by which findings appear -/

section Appear

variable {now : Instant} {productId : ℕ} {cveId : String}

/-- What a statement that may add a finding keeps: existing findings have their status,
a new one is open, and neither the histories nor the acceptances are touched. -/
structure Appears (db db' : Db) : Prop where
  statusOf : ∀ x, db'.statusOf x = db.statusOf x ∨
    db.statusOf x = none ∧ db'.statusOf x = some .opened
  changes : ∀ x, db'.changes x = db.changes x
  riskAcceptances : db'.riskAcceptances = db.riskAcceptances

theorem appears_insertFinding (db : Db) {row : ℕ → Finding} {hid : ∀ n, (row n).id = n}
    (hopen : ∀ n, (row n).status = .opened) : Appears db (db.insertFinding row hid) := by
  refine ⟨fun x => ?_, fun x => db.changes_insertFinding x, db.riskAcceptances_insertFinding⟩
  -- the only id whose status can differ is the new one
  by_cases hx : x = db.findings.seq
  · subst hx
    rw [Db.insertFinding]
    split
    · exact .inl rfl
    · refine .inr ⟨by simp [Db.statusOf], ?_⟩
      simp only [Db.statusOf, Table.get?_insert, if_true, Option.map_some, hopen]
  · exact .inl (db.statusOf_insertFinding hx)

theorem appears_upsertFinding (db : Db) (confidence : Confidence) (reason : String)
    (priority : ℚ) :
    Appears db (upsertFinding now productId cveId confidence reason priority db) := by
  rw [upsertFinding]
  split
  · exact appears_insertFinding db fun _ => rfl
  · exact ⟨fun x => .inl (db.statusOf_updateFindings_of_keep (fun _ => rfl) x), fun x => rfl, rfl⟩

theorem appears_insertCirclFinding (db : Db) :
    Appears db (insertCirclFinding now productId cveId db) :=
  appears_insertFinding db fun _ => rfl

end Appear

end CveManagement
