import CveManagement.Catalog.Products
import CveManagement.Governance.Effects
import CveManagement.Governance.Masking
import CveManagement.Sync.Jobs
import Mathlib

/-!
# Requests and their audit rows

Six endpoints write their audit row inside the transaction of what they do, and each puts the
diff together in its own way. If `json.dumps` refuses the diff, the exception leaves the
transaction, and with the audit row goes the operation.

Five of the diffs consist of texts, numbers and `None`. That of `create_product` is the whole
row that the `INSERT` returns, with the points in time `created_at` and `updated_at` in it
(`CveManagement.auditSafe_iff`).

The texts of a request hold no `U+0000`, which neither a column nor `jsonb` takes.
-/

namespace CveManagement

/-! ### Texts of dates -/

/-- The decimal digits of a number, filled up with zeros. -/
def padded (width : ℕ) (n : ℤ) : String :=
  String.ofList (List.leftpad width '0' (toString n.toNat).toList)

/-- `date.isoformat`. A year is counted from March, so that the leap day is its last. -/
def Date.isoformat (d : Date) : String :=
  let z := d + 719468
  let era := z / 146097
  let dayOfEra := z % 146097
  let yearOfEra :=
    (dayOfEra - dayOfEra / 1460 + dayOfEra / 36524 - dayOfEra / 146096) / 365
  let dayOfYear := dayOfEra - (365 * yearOfEra + yearOfEra / 4 - yearOfEra / 100)
  let shifted := (5 * dayOfYear + 2) / 153
  let day := dayOfYear - (153 * shifted + 2) / 5 + 1
  let month := if shifted < 10 then shifted + 3 else shifted - 9
  let year := yearOfEra + era * 400 + if month ≤ 2 then 1 else 0
  padded 4 year ++ "-" ++ padded 2 month ++ "-" ++ padded 2 day

example : [Date.isoformat 0, Date.isoformat 19782, Date.isoformat 19783] =
    ["1970-01-01", "2024-02-29", "2024-03-01"] := by decide +kernel

/-! ### Diffs -/

/-- The text a sync status is stored as. -/
def SyncStatus.text : SyncStatus → String
  | .pending => "pending"
  | .syncing => "syncing"
  | .synced => "synced"
  | .error => "error"

/-- `_product_row` of a whole row of `products`. -/
def productRow (p : Product) (cpeConfidence : Option String) (sync : SyncColumns)
    (createdAt : Instant) : PyVal :=
  .dict [("id", .num p.id), ("name", .str p.name), ("vendor", .ofText? p.vendor),
    ("version", .ofText? p.version), ("cpe_confidence", .ofText? cpeConfidence),
    ("sync_status", .str sync.syncStatus.text),
    ("last_synced_at", .ofInstant? sync.lastSyncedAt), ("cve_count", .num p.cveCount),
    ("critical_count", .num p.criticalCount), ("created_at", .datetime createdAt),
    ("updated_at", .datetime p.updatedAt), ("is_deleted", .bool p.isDeleted),
    ("deleted_at", .ofInstant? p.deletedAt), ("deleted_by", .ofText? p.deletedBy),
    ("cpe_keyword", .ofText? p.normalizedCpe)]

/-- The diff of `create_product`: the row that the `INSERT` returns. -/
def createDiff (now : Instant) (p : Product) : PyVal :=
  .dict [("after", productRow p none ⟨.pending, none⟩ now)]

/-- The snapshot of `delete_product`, without `is_deleted`. -/
def snapshotDiff (p : Product) : PyVal :=
  .dict [("id", .num p.id), ("name", .str p.name), ("vendor", .ofText? p.vendor),
    ("version", .ofText? p.version), ("cve_count", .num p.cveCount),
    ("critical_count", .num p.criticalCount)]

/-- The diff of `delete_product`. -/
def deleteDiff (snapshot : Product) (closed : ℕ) : PyVal :=
  .dict [("before", snapshotDiff snapshot), ("after", .dict [("is_deleted", .bool true)]),
    ("findings_closed", .num closed)]

/-- The id that `_enqueue_sync` returns. -/
def System.enqueuedJob (s : System) (productId : ℕ) : Option ℕ :=
  if s.syncJobs.rows.any fun j => j.targetId == productId && j.active then none
  else some s.syncJobs.seq

/-- The diff of `manual_sync`. -/
def syncDiff (jobId : Option ℕ) : PyVal :=
  .dict [("job_id", match jobId with
    | none => .none
    | some id => .num id)]

/-- The diff of `update_finding`. -/
def FindingUpdate.diff (body : FindingUpdate) (edit : FindingEdit) : PyVal :=
  .dict [("before", .dict [("status", .str edit.oldStatus.text)]),
    ("after", .dict [
      ("status", .str ((body.status.filter fun s => s != "").getD edit.oldStatus.text)),
      ("assigned_to", .ofText? body.assignedTo),
      ("due_date", .ofText? (edit.dueDate.map Date.isoformat)),
      ("reason", .ofText? body.reason)])]

/-- The diff of `create_risk_acceptance`. -/
def RiskAcceptanceCreate.diff (body : RiskAcceptanceCreate) : PyVal :=
  .dict [("after", .dict [("status", .str "pending"),
    ("expires_at", .str (Date.isoformat body.expiresAt)),
    ("justification_len", .num body.justification.length)])]

/-- The diff of `decide_risk_acceptance`. -/
def RiskAcceptanceDecision.diff (body : RiskAcceptanceDecision) : PyVal :=
  .dict [("before", .dict [("status", .str "pending")]),
    ("after", .dict [("status", .str body.action.newStatus.text), ("note", .ofText? body.note)])]

/-! ### The transactions -/

/-- The requests whose audit row is part of their transaction. -/
inductive AuditedRequest
  | createProduct (body : ProductCreate)
  | deleteProduct (productId : ℕ) (order : RowOrder Finding)
  | manualSync (productId : ℕ)
  | updateFinding (productId : ℕ) (cveId : String) (body : FindingUpdate)
  | createRiskAcceptance (productId : ℕ) (cveId : String) (body : RiskAcceptanceCreate)
  | decideRiskAcceptance (productId : ℕ) (cveId : String) (acceptanceId : ℕ)
      (body : RiskAcceptanceDecision)

/-- `create_product`, with the diff it passes. -/
def createProduct (py : PyText) (now : Instant) (body : ProductCreate) (user : AuthUser)
    (s : System) : Except ApiError (PyVal × System) :=
  if !user.mayWrite then .error (forbidden user)
  else match s.enterProduct now 10 (body.values py) with
    | none => .error (.http 409 "Product already exists")
    | some entered =>
      let id := s.db.products.seq
      .ok (createDiff now ((body.values py).row now id),
        { entered with
          db := entered.db.recordInTx "product.create" "product" (toString id) user.email user.role
            now })

/-- **A request up to its commit**: the diff that it passes to `record_in_tx`, and the database
with what it does and its audit row; or the response with which it fails. -/
def attempt (py : PyText) (now : Instant) (user : AuthUser) (s : System) :
    AuditedRequest → Except ApiError (PyVal × System)
  | .createProduct body => createProduct py now body user s
  | .deleteProduct p order =>
    -- the snapshot is read in the same transaction, before the row is flagged
    match s.db.products.get? p, deleteProduct now p user order s.db with
    | some snapshot, .ok (closed, db) => .ok (deleteDiff snapshot closed, { s with db := db })
    | _, .error e => .error e
    | none, .ok _ => .error (.http 404 "Product not found")
  | .manualSync p =>
    (manualSync now p user s).map fun s' => (syncDiff (s.enqueuedJob p), s')
  | .updateFinding p cveId body =>
    -- the finding is read before the transaction, and `before` is what was read
    match updateFindingRead p cveId body user s.db with
    | .error e => .error e
    | .ok edit => (updateFindingWrite now p cveId body user edit s.db).map fun r =>
      (body.diff edit, { s with db := r.2 })
  | .createRiskAcceptance p cveId body =>
    (createRiskAcceptance now p cveId body user s.db).map fun r => (body.diff, { s with db := r.2 })
  | .decideRiskAcceptance p cveId aid body =>
    (decideRiskAcceptance now p cveId aid body user s.db).map fun r =>
      (body.diff, { s with db := r.2 })

/-- How an audited request fails: by a response, or by an exception out of the audit. -/
inductive RequestFailure
  | response (error : ApiError)
  | raised (error : PyError)

/-- **A request**: it commits if the audit row can be written. -/
def commit (py : PyText) (mask : PyMask) (now : Instant) (user : AuthUser) (s : System)
    (r : AuditedRequest) : Except RequestFailure System :=
  match attempt py now user s r with
  | .error e => .error (.response e)
  | .ok (diff, s') =>
    match mask.diffColumn diff with
    -- the exception leaves the transaction, which is rolled back
    | .error e => .error (.raised e)
    | .ok _ => .ok s'

section Diffs

variable {py : PyText} {mask : PyMask} {now : Instant} {user : AuthUser} {s s' : System}
  {diff : PyVal}

@[simp] theorem PyVal.timeless_ofText? (s : Option String) : (PyVal.ofText? s).timeless = true := by
  cases s <;> rfl

/-- **The row of a new product cannot be serialised**, masked or not. -/
theorem not_dumps_createDiff (p : Product) :
    ¬∃ j, jsonDumps (mask.maskSensitive (createDiff now p)) = .ok j := by
  have hafter : mask.isSensitive "after" = false := by
    rw [PyMask.isSensitive_ascii rfl]
    rfl
  have hcreated : mask.isSensitive "created_at" = false := by
    rw [PyMask.isSensitive_ascii rfl]
    rfl
  -- neither the key of the row nor that of the date is one that hides its value
  rw [exists_jsonDumps_iff, createDiff, productRow, PyMask.maskSensitive, PyMask.maskMembers,
    PyMask.maskMember_of_ne _ hafter (by simp), PyMask.maskSensitive]
  intro h
  simp only [PyVal.timeless, PyVal.timelessMembers, Bool.and_eq_true] at h
  have hall := PyVal.timelessMembers_iff.mp h.1
  -- the masking has left the time of creation in place
  exact absurd (hall _ (PyMask.mem_maskMembers hcreated (t := now) (by simp))) (by
    simp [PyVal.timeless])

/-- What `create_product` passes. -/
theorem diff_createProduct {body : ProductCreate}
    (h : createProduct py now body user s = .ok (diff, s')) : ∃ p, diff = createDiff now p := by
  unfold createProduct at h
  split_ifs at h
  split at h
  · cases h
  · cases h
    exact ⟨_, rfl⟩

/-- When `create_product` gets to its audit row. -/
theorem createProduct_eq_ok {body : ProductCreate} :
    (∃ diff s', createProduct py now body user s = .ok (diff, s')) ↔
      user.mayWrite = true ∧ s.refuses (body.values py) = false := by
  rw [createProduct, System.enterProduct]
  cases user.mayWrite <;> cases s.refuses (body.values py) <;> simp

/-- A request that commits has got to its audit row. -/
theorem attempt_of_commit {r : AuditedRequest} (h : commit py mask now user s r = .ok s') :
    ∃ diff, attempt py now user s r = .ok (diff, s') := by
  rw [commit] at h
  split at h
  · cases h
  · rename_i diff s'' hattempt
    split at h
    · cases h
    · obtain rfl := Except.ok.inj h
      exact ⟨diff, hattempt⟩

/-- **A creation does not commit.** -/
theorem not_commit_createProduct {body : ProductCreate} :
    ¬∃ s', commit py mask now user s (.createProduct body) = .ok s' := by
  rintro ⟨s', h⟩
  obtain ⟨diff, hcreate⟩ := attempt_of_commit h
  obtain ⟨p, rfl⟩ := diff_createProduct hcreate
  rw [commit, hcreate] at h
  dsimp only at h
  have htruthy : (createDiff now p).truthy = true := rfl
  rw [PyMask.diffColumn, if_pos htruthy] at h
  cases hdumps : jsonDumps (mask.maskSensitive (createDiff now p)) with
  | ok j => exact not_dumps_createDiff p ⟨j, hdumps⟩
  | error e =>
    rw [hdumps] at h
    cases h

end Diffs

/-- The masking of ASCII keys, and of no URL. -/
def PyMask.ascii : PyMask where
  sameLetter a b := a.toLower == b.toLower
  urlparse _ := none
  sameLetter_ascii _ _ _ _ := rfl

end CveManagement
