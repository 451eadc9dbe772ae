import CveManagement.Governance.Schema
import CveManagement.Library.Trajectory

/-!
# The operations on findings and acceptances

The handlers that write the finding lifecycle, as functions of the database at the
time they run: `update_finding`, `create_risk_acceptance`,
`decide_risk_acceptance`, `delete_product`, the daily `expire_risk_acceptances`, and
the two statements by which findings appear (the upsert of `sync_product` and the
insert of the CIRCL fallback). A handler either fails, and then its transaction is
rolled back, or returns its reply with the next database.

`update_finding` and `decide_risk_acceptance` read outside their transaction and
write inside it, so each is the composition of a reading and a writing half
(`CveManagement.updateFindingRead`, `CveManagement.updateFindingWrite`,
`CveManagement.decideRead`, `CveManagement.decideWrite`): what the writing half knows
of the database is what the reading half returned, and nothing else.

The role check of `require_role("analyst")` comes first in every endpoint; the
`cve_id` of a request is the path parameter after `upper()`; `now` is the clock of
the request, which the database's `NOW()` and `CURRENT_DATE` read as well.
-/

namespace CveManagement

/-! ### Requests -/

/-- An authenticated user, from the access token. -/
structure AuthUser where
  id : ℕ
  email : String
  role : String

/-- `require_role("analyst")`: an analyst, or an admin. -/
def AuthUser.mayWrite (user : AuthUser) : Bool := user.role == "admin" || user.role == "analyst"

/-- How a request fails: by a response of the handler, by a field of its body that the
request model refuses, or by a constraint of the database. -/
inductive ApiError
  | http (statusCode : ℕ) (detail : String)
  | validation (field : String)
  | checkViolation (constraint : String)
  deriving DecidableEq, Repr

/-- The response of `require_role` to a user without the role. -/
def forbidden (user : AuthUser) : ApiError :=
  .http 403 ("Role '" ++ user.role ++ "' is not authorized; required one of ['analyst']")

/-- A text with what `date.fromisoformat` makes of it. -/
structure IsoText where
  text : String
  fromisoformat : Option Date

/-- The body of `PATCH /api/findings/…`. -/
structure FindingUpdate where
  status : Option String
  assignedTo : Option String
  dueDate : Option IsoText
  notes : Option String
  actor : Option String
  reason : Option String

/-- The body of a risk-acceptance request. -/
structure RiskAcceptanceCreate where
  requestedBy : Option String
  justification : String
  expiresAt : Date

/-- What the request model of a risk acceptance refuses, on a given day. -/
def RiskAcceptanceCreate.invalid (body : RiskAcceptanceCreate) (today : Date) : Option String :=
  if body.requestedBy.any fun s => 200 < s.length then some "requested_by"
  else if body.justification.length < 10 ∨ 4000 < body.justification.length then
    some "justification"
  else if body.expiresAt ≤ today then some "expires_at"
  else none

/-- The two decisions on an acceptance; the request model admits no other action. -/
inductive DecisionAction
  | approve
  | reject
  deriving DecidableEq, Repr

/-- The status a decision leads to. -/
def DecisionAction.newStatus : DecisionAction → AcceptanceStatus
  | .approve => .approved
  | .reject => .rejected

/-- The body of a decision. -/
structure RiskAcceptanceDecision where
  action : DecisionAction
  decidedBy : Option String
  note : Option String

/-- What the request model of a decision refuses. -/
def RiskAcceptanceDecision.invalid (body : RiskAcceptanceDecision) : Option String :=
  if body.decidedBy.any fun s => 200 < s.length then some "decided_by"
  else if body.note.any fun s => 2000 < s.length then some "note"
  else none

/-- The `target_id` under which a finding is audited. -/
def findingTarget (productId : ℕ) (cveId : String) : String := toString productId ++ ":" ++ cveId

/-! ### `update_finding` -/

/-- The due date of a body: absent, empty, or a date. -/
def FindingUpdate.parseDueDate (body : FindingUpdate) : Except ApiError (Option Date) :=
  match body.dueDate with
  | none => .ok none
  | some t =>
    if t.text = "" then .ok none
    else match t.fromisoformat with
      | none => .error (.http 422 "due_date must be YYYY-MM-DD")
      | some d => .ok (some d)

/-- The status check: an empty status passes it, as an absent one does. -/
def FindingUpdate.statusAdmitted (body : FindingUpdate) : Bool :=
  match body.status with
  | none => true
  | some s => s == "" || (FindingStatus.ofText s).isSome

/-- The response to a status outside `_VALID_STATUSES`. -/
def FindingUpdate.invalidStatus (body : FindingUpdate) : ApiError :=
  .http 422 ("Invalid status '" ++ body.status.getD "" ++ "'. Valid: ['accepted_risk', " ++
    "'closed', 'false_positive', 'in_review', 'open', 'planned', 'remediated']")

/-- What `update_finding` has read before its transaction: the id and status of the
finding, and the parsed due date. -/
structure FindingEdit where
  findingId : ℕ
  oldStatus : FindingStatus
  dueDate : Option Date

/-- The reading half of `update_finding`. -/
def updateFindingRead (productId : ℕ) (cveId : String) (body : FindingUpdate) (user : AuthUser)
    (db : Db) : Except ApiError FindingEdit :=
  if !user.mayWrite then .error (forbidden user)
  else if !body.statusAdmitted then .error body.invalidStatus
  else match db.findingAt productId cveId with
    | none => .error (.http 404 "Finding not found")
    | some current =>
      match body.parseDueDate with
      | .error e => .error e
      | .ok dueDate => .ok ⟨current.id, current.status, dueDate⟩

/-- The status a body asks for, if it names one. -/
def FindingUpdate.newStatus (body : FindingUpdate) : Option FindingStatus :=
  body.status.bind FindingStatus.ofText

/-- `status_changed`: the new status, when it differs from the one that was read. -/
def FindingUpdate.statusChange (body : FindingUpdate) (edit : FindingEdit) :
    Option FindingStatus :=
  body.newStatus.filter fun s => s != edit.oldStatus

/-- The `SET` clause of `update_finding`. -/
def FindingUpdate.assignment (body : FindingUpdate) (edit : FindingEdit) (now : Instant) :
    Finding.Assignment where
  set f := { f with
    status := body.newStatus.getD f.status
    assignedTo := body.assignedTo <|> f.assignedTo
    dueDate := edit.dueDate <|> f.dueDate
    notes := body.notes <|> f.notes
    updatedAt := now }
  key_set _ := rfl
  target_set _ := rfl

/-- The history row of a status change, if there is one. -/
def FindingUpdate.logChange (body : FindingUpdate) (edit : FindingEdit) (now : Instant)
    (user : AuthUser) (db : Db) : Db :=
  match body.statusChange edit with
  | none => db
  | some s => db.insertHistory edit.findingId edit.oldStatus s user.email now body.reason

/-- The writing half of `update_finding`: the row, the history row of a status change
and the audit row. An empty status reaches the `CHECK` of the column. -/
def updateFindingWrite (now : Instant) (productId : ℕ) (cveId : String) (body : FindingUpdate)
    (user : AuthUser) (edit : FindingEdit) (db : Db) : Except ApiError (Option Finding × Db) :=
  if body.status = some "" ∧ (db.findingAt productId cveId).isSome then
    .error (.checkViolation "findings_status_check")
  else
    let updated := db.updateFindings (fun f => f.productId == productId && f.cveId == cveId)
      (body.assignment edit now)
    let action := if (body.statusChange edit).isSome then "finding.status_change"
      else "finding.update"
    .ok (updated.findingAt productId cveId, (body.logChange edit now user updated).recordInTx
      action "finding" (findingTarget productId cveId) user.email user.role now)

/-- `PATCH /api/findings/{product_id}/{cve_id}`. -/
def updateFinding (now : Instant) (productId : ℕ) (cveId : String) (body : FindingUpdate)
    (user : AuthUser) (db : Db) : Except ApiError (Option Finding × Db) :=
  match updateFindingRead productId cveId body user db with
  | .error e => .error e
  | .ok edit => updateFindingWrite now productId cveId body user edit db

/-! ### `create_risk_acceptance` -/

/-- `POST /api/findings/{product_id}/{cve_id}/risk-acceptance`. -/
def createRiskAcceptance (now : Instant) (productId : ℕ) (cveId : String)
    (body : RiskAcceptanceCreate) (user : AuthUser) (db : Db) :
    Except ApiError (Option RiskAcceptance × Db) :=
  if !user.mayWrite then .error (forbidden user)
  else match body.invalid now.date with
    | some field => .error (.validation field)
    | none =>
      match db.findingAt productId cveId with
      | none => .error (.http 404 "finding not found")
      | some finding =>
        if finding.status.terminal then
          .error (.http 409 ("cannot request risk acceptance for finding in status '" ++
            finding.status.text ++ "'"))
        else
          let inserted := db.insertAcceptance finding.id user.email body.justification
            body.expiresAt now
          .ok (inserted.riskAcceptances.get? db.riskAcceptances.seq,
            inserted.recordInTx "risk_acceptance.request" "finding"
              (findingTarget productId cveId) user.email user.role now)

/-! ### `decide_risk_acceptance` -/

/-- What `decide_risk_acceptance` carries from its checks to its transaction. -/
structure Decision where
  acceptanceId : ℕ
  findingId : ℕ
  action : DecisionAction
  decidedBy : String

/-- The acceptance a decision is about: by its id, and by the target of its finding. -/
def Db.acceptanceAt (db : Db) (productId : ℕ) (cveId : String) (acceptanceId : ℕ) :
    Option RiskAcceptance :=
  db.riskAcceptances.find fun ra => ra.id == acceptanceId &&
    (db.findings.get? ra.findingId).any fun f => f.productId == productId && f.cveId == cveId

/-- The reading half of `decide_risk_acceptance`: its checks. -/
def decideRead (productId : ℕ) (cveId : String) (acceptanceId : ℕ)
    (body : RiskAcceptanceDecision) (user : AuthUser) (db : Db) : Except ApiError Decision :=
  if !user.mayWrite then .error (forbidden user)
  else match body.invalid with
    | some field => .error (.validation field)
    | none =>
      match db.acceptanceAt productId cveId acceptanceId with
      | none => .error (.http 404 "risk acceptance not found")
      | some existing =>
        if existing.status ≠ .pending then
          .error (.http 409 ("already decided (status=" ++ existing.status.text ++ ")"))
        else if body.action = .approve ∧ existing.requestedBy = user.email then
          .error (.http 409 "approver must differ from requester (segregation of duties)")
        else .ok ⟨acceptanceId, existing.findingId, body.action, user.email⟩

/-- The name of a decision in the audit log. -/
def DecisionAction.text : DecisionAction → String
  | .approve => "approve"
  | .reject => "reject"

/-- The `SET` clause of a decision. -/
def Decision.assignment (d : Decision) (now : Instant) : Table.Assignment RiskAcceptance.id where
  set ra := { ra with
    status := d.action.newStatus
    approvedBy := some d.decidedBy
    decidedAt := some now }
  key_set _ := rfl

/-- The writing half of `decide_risk_acceptance`. Neither `UPDATE` has a condition
besides the id, and the old status of the history row is a literal. -/
def decideWrite (now : Instant) (d : Decision) (db : Db) : Option RiskAcceptance × Db :=
  let decided := db.updateAcceptance d.acceptanceId (d.assignment now)
  let moved := match d.action with
    | .reject => decided
    | .approve =>
      (decided.updateFindings (fun f => f.id == d.findingId)
        (Finding.moveTo .acceptedRisk now)).insertHistory d.findingId
          .opened .acceptedRisk d.decidedBy now
          (some ("risk_acceptance.approve#" ++ toString d.acceptanceId))
  (decided.riskAcceptances.get? d.acceptanceId,
    moved.recordInTx ("risk_acceptance." ++ d.action.text) "risk_acceptance"
      (toString d.acceptanceId) d.decidedBy "approver" now)

/-- `PATCH /api/findings/{product_id}/{cve_id}/risk-acceptance/{acceptance_id}`. -/
def decideRiskAcceptance (now : Instant) (productId : ℕ) (cveId : String) (acceptanceId : ℕ)
    (body : RiskAcceptanceDecision) (user : AuthUser) (db : Db) :
    Except ApiError (Option RiskAcceptance × Db) :=
  match decideRead productId cveId acceptanceId body user db with
  | .error e => .error e
  | .ok d => .ok (decideWrite now d db)

/-! ### `expire_risk_acceptances` -/

/-- A row of `_FETCH_DUE_SQL`: an acceptance joined with its finding. -/
structure DueRow where
  id : ℕ
  findingId : ℕ
  productId : ℕ
  cveId : String
  status : FindingStatus
  deriving DecidableEq

/-- The condition of `_FETCH_DUE_SQL` on an acceptance. -/
def RiskAcceptance.due (ra : RiskAcceptance) (today : Date) : Bool :=
  ra.status == .approved && decide (ra.expiresAt < today)

/-- `_FETCH_DUE_SQL`: the due acceptances, joined with their findings as they are before
the loop. -/
def Db.fetchDue (db : Db) (today : Date) : List DueRow :=
  (db.riskAcceptances.select fun ra => ra.due today).filterMap fun ra =>
    (db.findings.get? ra.findingId).map fun f =>
      ⟨ra.id, ra.findingId, f.productId, f.cveId, f.status⟩

/-- What the job reports. -/
structure ExpireResult where
  expired : ℕ
  reopened : ℕ
  deriving DecidableEq, Repr

/-- The `SET` clause of an expiry. -/
def RiskAcceptance.expiry : Table.Assignment RiskAcceptance.id where
  set ra := { ra with status := .expired }
  key_set _ := rfl

/-- One round of the loop: the acceptance expires, and if its finding was accepted when
the loop's rows were fetched, the finding is reopened. -/
def expireOne (now : Instant) (acc : ExpireResult × Db) (r : DueRow) : ExpireResult × Db :=
  let expired := acc.2.updateAcceptance r.id RiskAcceptance.expiry
  -- by the status that was fetched, which an earlier round may have changed
  let moved := if r.status = .acceptedRisk then
      (expired.updateFindings (fun f => f.id == r.findingId)
        (Finding.moveTo .opened now)).insertHistory r.findingId
          .acceptedRisk .opened "system" now
          (some ("risk_acceptance.expire#" ++ toString r.id))
    else expired
  (⟨acc.1.expired + 1, acc.1.reopened + if r.status = .acceptedRisk then 1 else 0⟩,
    moved.recordInTx "risk_acceptance.expire" "risk_acceptance" (toString r.id) "system" "system"
      now)

/-- The loop of `expire_risk_acceptances` over fetched rows. -/
def expireLoop (now : Instant) (rows : List DueRow) (db : Db) : ExpireResult × Db :=
  rows.foldl (expireOne now) (⟨0, 0⟩, db)

/-- `expire_risk_acceptances`. -/
def expireRiskAcceptances (now : Instant) (order : RowOrder DueRow) (db : Db) :
    ExpireResult × Db :=
  expireLoop now (order.arrange (db.fetchDue now.date)) db

/-! ### `delete_product` -/

/-- The findings `delete_product` closes. -/
def Finding.closable (productId : ℕ) (f : Finding) : Bool :=
  f.productId == productId && !f.status.terminal

/-- One history row per closed finding; its old status is a literal. -/
def closeHistory (now : Instant) (user : AuthUser) (rows : List Finding) (db : Db) : Db :=
  rows.foldl (fun db f => db.insertHistory f.id .opened .closed user.email now
    (some "product soft-deleted")) db

/-- The `SET` clause of a soft deletion. -/
def Product.deletion (user : AuthUser) (now : Instant) : Table.Assignment Product.id where
  set p := { p with
    isDeleted := true
    deletedAt := some now
    deletedBy := some user.email
    updatedAt := now }
  key_set _ := rfl

/-- `DELETE /api/products/{product_id}`; the reply is the number of closed findings. -/
def deleteProduct (now : Instant) (productId : ℕ) (user : AuthUser) (order : RowOrder Finding)
    (db : Db) : Except ApiError (ℕ × Db) :=
  if !user.mayWrite then .error (forbidden user)
  else match db.products.get? productId with
    | none => .error (.http 404 "Product not found")
    | some snapshot =>
      if snapshot.isDeleted then .error (.http 409 "Product already deleted")
      else
        let flagged := { db with
          products := db.products.update (fun p => p.id == productId)
            (Product.deletion user now) }
        -- the rows are returned as updated, so their old status is not known any more
        let affected := order.arrange (flagged.findings.select (Finding.closable productId))
        let closed := flagged.updateFindings (Finding.closable productId)
          (Finding.moveTo .closed now)
        .ok (affected.length, (closeHistory now user affected closed).recordInTx "product.delete"
          "product" (toString productId) user.email user.role now)

/-! ### The statements by which findings appear -/

/-- A finding as the sync and the CIRCL fallback insert it. -/
def newFinding (now : Instant) (productId : ℕ) (cveId : String) (confidence : Confidence)
    (reason : String) (priority : Option ℚ) (n : ℕ) : Finding :=
  ⟨n, productId, cveId, .opened, some confidence, some reason, priority, none, none, none, now, now⟩

/-- The `DO UPDATE SET` clause of `_FINDING_UPSERT_SQL`. -/
def Finding.rematch (now : Instant) (confidence : Confidence) (reason : String) (priority : ℚ) :
    Finding.Assignment where
  set f := { f with
    matchConfidence := some confidence
    matchReason := some reason
    priorityScore := some priority
    updatedAt := now }
  key_set _ := rfl
  target_set _ := rfl

/-- `_FINDING_UPSERT_SQL` of `sync_product`. -/
def upsertFinding (now : Instant) (productId : ℕ) (cveId : String) (confidence : Confidence)
    (reason : String) (priority : ℚ) (db : Db) : Db :=
  match db.findingAt productId cveId with
  | none => db.insertFinding (newFinding now productId cveId confidence reason (some priority))
  | some _ =>
    db.updateFindings (fun f => f.productId == productId && f.cveId == cveId &&
        !([.falsePositive, .acceptedRisk, .closed].contains f.status))
      (Finding.rematch now confidence reason priority)

/-- `_UPSERT_FINDING_SQL` of the CIRCL fallback. -/
def insertCirclFinding (now : Instant) (productId : ℕ) (cveId : String) (db : Db) : Db :=
  db.insertFinding (newFinding now productId cveId .uncertain "circl_fallback" none)

/-! ### Serving requests -/

/-- What the governance tables are subjected to. -/
inductive Request
  | updateFinding (productId : ℕ) (cveId : String) (body : FindingUpdate) (user : AuthUser)
  | createRiskAcceptance (productId : ℕ) (cveId : String) (body : RiskAcceptanceCreate)
      (user : AuthUser)
  | decideRiskAcceptance (productId : ℕ) (cveId : String) (acceptanceId : ℕ)
      (body : RiskAcceptanceDecision) (user : AuthUser)
  | expireRiskAcceptances (order : RowOrder DueRow)
  | deleteProduct (productId : ℕ) (user : AuthUser) (order : RowOrder Finding)
  | upsertFinding (productId : ℕ) (cveId : String) (confidence : Confidence) (reason : String)
      (priority : ℚ)
  | insertCirclFinding (productId : ℕ) (cveId : String)

/-- A request, or a run of the job, at a point in time. -/
structure Event where
  now : Instant
  request : Request

/-- The database after an event, unless the event fails. -/
def serve (db : Db) : Event → Except ApiError Db
  | ⟨now, .updateFinding p c body user⟩ => (updateFinding now p c body user db).map Prod.snd
  | ⟨now, .createRiskAcceptance p c body user⟩ =>
    (createRiskAcceptance now p c body user db).map Prod.snd
  | ⟨now, .decideRiskAcceptance p c aid body user⟩ =>
    (decideRiskAcceptance now p c aid body user db).map Prod.snd
  | ⟨now, .expireRiskAcceptances order⟩ => .ok (expireRiskAcceptances now order db).2
  | ⟨now, .deleteProduct p user order⟩ => (deleteProduct now p user order db).map Prod.snd
  | ⟨now, .upsertFinding p c confidence reason priority⟩ =>
    .ok (upsertFinding now p c confidence reason priority db)
  | ⟨now, .insertCirclFinding p c⟩ => .ok (insertCirclFinding now p c db)

/-- **One event**: a failing one leaves the database as it was. -/
def step (db : Db) (e : Event) : Db :=
  match serve db e with
  | .ok db' => db'
  | .error _ => db

/-- The states a run starts from: products only. -/
structure Db.Initial (db : Db) : Prop where
  findings : db.findings.rows = []
  history : db.findingsHistory.rows = []
  acceptances : db.riskAcceptances.rows = []

/-- The states that some run reaches. -/
def Db.Reachable (db : Db) : Prop := ∃ db₀, Db.Initial db₀ ∧ ∃ l, Trajectory.run step db₀ l = db

/-- The database into which some products have been entered, and nothing else. -/
def Db.ofProducts (products : Table Product Product.id) : Db :=
  ⟨products, .empty, .empty, .empty, .empty, List.nodup_nil⟩

theorem Db.initial_ofProducts (products : Table Product Product.id) :
    (Db.ofProducts products).Initial := ⟨rfl, rfl, rfl⟩

/-! ### A small instance -/

/-- One product, under the id 1. -/
def Db.sample : Db :=
  .ofProducts (Table.empty.insert fun n =>
    ⟨n, "nginx", some "F5", some "1.25.1", none, 0, 0, 0, false, none, none⟩)

/-- Two analysts. -/
def AuthUser.alice : AuthUser := ⟨1, "alice@example.com", "analyst"⟩

@[inherit_doc AuthUser.alice]
def AuthUser.bob : AuthUser := ⟨2, "bob@example.com", "analyst"⟩

/-- A body that sets a status and nothing else. -/
def FindingUpdate.ofStatus (s : String) : FindingUpdate := ⟨some s, none, none, none, none, none⟩

end CveManagement
