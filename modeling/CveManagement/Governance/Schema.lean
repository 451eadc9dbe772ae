import CveManagement.Library.Table
import Mathlib.Data.Rat.Defs

/-!
# The governance tables

The part of the database that the finding lifecycle lives in: `products`,
`findings`, `findings_history`, `risk_acceptances` and `audit_log`, with the columns
of migrations 0001, 0002, 0007 and 0011. Columns with a `CHECK (… IN …)` are
enumerations, timestamps are microseconds and dates days since 1970-01-01, both in
UTC, and `NUMERIC` columns are rationals.

`CveManagement.Db` carries the one constraint the handlers rely on beyond the
serial keys: `UNIQUE (product_id, cve_id)` on `findings`. Its primitives are the
statements the handlers are made of – `CveManagement.Db.updateFindings`,
`CveManagement.Db.insertHistory` and so on – and each comes with what it does to the
two things the lifecycle is about: the status of a finding
(`CveManagement.Db.statusOf`) and the changes its history records
(`CveManagement.Db.changes`).
-/

namespace CveManagement

/-- A point in time: microseconds since 1970-01-01T00:00:00Z. -/
abbrev Instant := ℤ

/-- A calendar day: days since 1970-01-01. -/
abbrev Date := ℤ

/-- The UTC day of a point in time. -/
def Instant.date (t : Instant) : Date := t / 86400000000

/-! ### Rows -/

/-- The values of `findings.status`. -/
inductive FindingStatus
  | opened
  | inReview
  | falsePositive
  | acceptedRisk
  | planned
  | remediated
  | closed
  deriving DecidableEq, Repr

/-- The text a status is stored as. -/
def FindingStatus.text : FindingStatus → String
  | .opened => "open"
  | .inReview => "in_review"
  | .falsePositive => "false_positive"
  | .acceptedRisk => "accepted_risk"
  | .planned => "planned"
  | .remediated => "remediated"
  | .closed => "closed"

/-- `_VALID_STATUSES`, by the text of its elements. -/
def FindingStatus.ofText (s : String) : Option FindingStatus :=
  [.opened, .inReview, .falsePositive, .acceptedRisk, .planned, .remediated, .closed].find?
    fun st => st.text == s

/-- The statuses for which `create_risk_acceptance` refuses a request, and which
`delete_product` leaves alone. -/
def FindingStatus.terminal : FindingStatus → Bool
  | .remediated | .closed | .falsePositive => true
  | _ => false

/-- The values of `risk_acceptances.status`. -/
inductive AcceptanceStatus
  | pending
  | approved
  | rejected
  | expired
  deriving DecidableEq, Repr

/-- The text an acceptance status is stored as. -/
def AcceptanceStatus.text : AcceptanceStatus → String
  | .pending => "pending"
  | .approved => "approved"
  | .rejected => "rejected"
  | .expired => "expired"

/-- The matcher's `Confidence`, which is also `findings.match_confidence`. -/
inductive Confidence
  | certain
  | uncertain
  deriving DecidableEq, Repr

/-- A row of `products`. -/
structure Product where
  id : ℕ
  name : String
  vendor : Option String
  version : Option String
  normalizedCpe : Option String
  cveCount : ℕ
  criticalCount : ℕ
  updatedAt : Instant
  isDeleted : Bool
  deletedAt : Option Instant
  deletedBy : Option String

/-- A row of `findings`. -/
structure Finding where
  id : ℕ
  productId : ℕ
  cveId : String
  status : FindingStatus
  matchConfidence : Option Confidence
  matchReason : Option String
  priorityScore : Option ℚ
  assignedTo : Option String
  dueDate : Option Date
  notes : Option String
  createdAt : Instant
  updatedAt : Instant

/-- The columns of `UNIQUE (product_id, cve_id)`. -/
def Finding.target (f : Finding) : ℕ × String := (f.productId, f.cveId)

/-- **A `SET` clause on findings**, which assigns neither to the key nor to the target. -/
structure Finding.Assignment extends Table.Assignment Finding.id where
  target_set : ∀ r, (set r).target = r.target

attribute [simp] Finding.Assignment.target_set

/-- `SET status = …, updated_at = NOW()`. -/
def Finding.moveTo (status : FindingStatus) (now : Instant) : Finding.Assignment where
  set f := { f with status := status, updatedAt := now }
  key_set _ := rfl
  target_set _ := rfl

@[simp] theorem Finding.status_moveTo (status : FindingStatus) (now : Instant) (f : Finding) :
    ((Finding.moveTo status now).set f).status = status := rfl

/-- A row of `findings_history`. -/
structure HistoryRow where
  id : ℕ
  findingId : ℕ
  oldStatus : FindingStatus
  newStatus : FindingStatus
  changedBy : String
  changedAt : Instant
  reason : Option String

/-- A row of `risk_acceptances`. -/
structure RiskAcceptance where
  id : ℕ
  findingId : ℕ
  requestedBy : String
  approvedBy : Option String
  justification : String
  expiresAt : Date
  status : AcceptanceStatus
  createdAt : Instant
  decidedAt : Option Instant

/-- A row of `audit_log`, without the request metadata and the diff. -/
structure AuditRow where
  id : ℕ
  action : String
  actorEmail : String
  actorRole : String
  targetType : String
  targetId : String
  ts : Instant

/-- **The governance tables**, with `UNIQUE (product_id, cve_id)` on `findings`. -/
structure Db where
  products : Table Product Product.id
  findings : Table Finding Finding.id
  findingsHistory : Table HistoryRow HistoryRow.id
  riskAcceptances : Table RiskAcceptance RiskAcceptance.id
  auditLog : Table AuditRow AuditRow.id
  uniqueFinding : (findings.rows.map Finding.target).Nodup

namespace Db

/-! ### What the lifecycle is about -/

/-- The status of a finding, if there is one under this id. -/
def statusOf (db : Db) (fid : ℕ) : Option FindingStatus := (db.findings.get? fid).map Finding.status

/-- The status changes recorded for a finding, in the order of insertion. -/
def changes (db : Db) (fid : ℕ) : List (FindingStatus × FindingStatus) :=
  (db.findingsHistory.select fun h => h.findingId == fid).map fun h => (h.oldStatus, h.newStatus)

/-- The finding of a product and a CVE. -/
def findingAt (db : Db) (productId : ℕ) (cveId : String) : Option Finding :=
  db.findings.find fun f => f.productId == productId && f.cveId == cveId

/-! ### Statements -/

/-- `UPDATE findings SET … WHERE …`. -/
def updateFindings (db : Db) (p : Finding → Bool) (c : Finding.Assignment) : Db :=
  { db with
    findings := db.findings.update p c.toAssignment
    uniqueFinding := by
      have hmap : (db.findings.update p c.toAssignment).rows.map Finding.target =
          db.findings.rows.map Finding.target := by
        rw [Table.update, List.map_map]
        refine List.map_congr_left fun r _ => ?_
        by_cases hp : p r
        · simp [hp]
        · simp [hp]
      rw [hmap]
      exact db.uniqueFinding }

/-- `INSERT INTO findings … ON CONFLICT (product_id, cve_id) DO NOTHING`. -/
def insertFinding (db : Db) (row : ℕ → Finding) (hid : ∀ n, (row n).id = n := by intro _; rfl) :
    Db :=
  if h : (row db.findings.seq).target ∈ db.findings.rows.map Finding.target then db
  else
    { db with
      findings := db.findings.insert row hid
      uniqueFinding := by
        rw [Table.rows_insert, List.map_append, List.map_singleton]
        refine List.Nodup.append db.uniqueFinding (List.nodup_singleton _) ?_
        rwa [List.disjoint_singleton] }

/-- `INSERT INTO findings_history`. -/
def insertHistory (db : Db) (findingId : ℕ) (oldStatus newStatus : FindingStatus)
    (changedBy : String) (changedAt : Instant) (reason : Option String) : Db :=
  { db with
    findingsHistory := db.findingsHistory.insert fun n =>
      ⟨n, findingId, oldStatus, newStatus, changedBy, changedAt, reason⟩ }

/-- `INSERT INTO risk_acceptances`, of a pending request. -/
def insertAcceptance (db : Db) (findingId : ℕ) (requestedBy justification : String)
    (expiresAt : Date) (createdAt : Instant) : Db :=
  { db with
    riskAcceptances := db.riskAcceptances.insert fun n =>
      ⟨n, findingId, requestedBy, none, justification, expiresAt, .pending, createdAt, none⟩ }

/-- `UPDATE risk_acceptances SET … WHERE id = …`. -/
def updateAcceptance (db : Db) (aid : ℕ) (c : Table.Assignment RiskAcceptance.id) : Db :=
  { db with riskAcceptances := db.riskAcceptances.update (fun ra => ra.id == aid) c }

/-- `record_in_tx`: the audit row, inside the caller's transaction. -/
def recordInTx (db : Db) (action targetType targetId actorEmail actorRole : String)
    (ts : Instant) : Db :=
  { db with
    auditLog := db.auditLog.insert fun n =>
      ⟨n, action, actorEmail, actorRole, targetType, targetId, ts⟩ }

/-! ### What each statement does to statuses and histories -/

section Frame

variable (db : Db)

@[simp] theorem get?_updateFindings {p : Finding → Bool} {c : Finding.Assignment} (fid : ℕ) :
    (db.updateFindings p c).findings.get? fid =
      (db.findings.get? fid).map fun r => if p r then c.set r else r :=
  Table.get?_update _ _ _ _

@[simp] theorem changes_updateFindings {p : Finding → Bool} {c : Finding.Assignment} (fid : ℕ) :
    (db.updateFindings p c).changes fid = db.changes fid := rfl

@[simp] theorem riskAcceptances_updateFindings {p : Finding → Bool} {c : Finding.Assignment} :
    (db.updateFindings p c).riskAcceptances = db.riskAcceptances := rfl

/-- An update of the findings of a condition. -/
theorem statusOf_updateFindings {p : Finding → Bool} {c : Finding.Assignment} (fid : ℕ) :
    (db.updateFindings p c).statusOf fid =
      (db.findings.get? fid).map fun r => if p r then (c.set r).status else r.status := by
  rw [statusOf, get?_updateFindings, Option.map_map]
  refine congrArg (fun g => Option.map g (db.findings.get? fid)) (funext fun r => ?_)
  by_cases hp : p r <;> simp [hp]

/-- An update that touches no status leaves the statuses alone. -/
theorem statusOf_updateFindings_of_keep {p : Finding → Bool} {c : Finding.Assignment}
    (hc : ∀ r, (c.set r).status = r.status) (fid : ℕ) :
    (db.updateFindings p c).statusOf fid = db.statusOf fid := by
  rw [statusOf_updateFindings]
  simp only [hc, ite_self]
  rfl

/-- A move of one finding to a status. -/
theorem statusOf_moveOne {x : ℕ} {st : FindingStatus} {now : Instant} (fid : ℕ) :
    (db.updateFindings (fun f => f.id == x) (Finding.moveTo st now)).statusOf fid =
      if fid = x then (db.statusOf fid).map fun _ => st else db.statusOf fid := by
  rw [statusOf_updateFindings, statusOf, Option.map_map]
  by_cases hx : fid = x
  · rw [if_pos hx]
    refine Option.map_congr fun f hf => ?_
    simp [(Table.get?_eq_some.mp hf).2, hx]
  · rw [if_neg hx]
    refine Option.map_congr fun f hf => ?_
    simp [(Table.get?_eq_some.mp hf).2, hx]

@[simp] theorem statusOf_insertHistory {x : ℕ} {a b : FindingStatus} {by_ : String} {t : Instant}
    {reason : Option String} (fid : ℕ) :
    (db.insertHistory x a b by_ t reason).statusOf fid = db.statusOf fid := rfl

@[simp] theorem riskAcceptances_insertHistory {x : ℕ} {a b : FindingStatus} {by_ : String}
    {t : Instant} {reason : Option String} :
    (db.insertHistory x a b by_ t reason).riskAcceptances = db.riskAcceptances := rfl

/-- A history row is appended to the changes of its finding, and to no other. -/
theorem changes_insertHistory {x : ℕ} {a b : FindingStatus} {by_ : String} {t : Instant}
    {reason : Option String} (fid : ℕ) :
    (db.insertHistory x a b by_ t reason).changes fid =
      db.changes fid ++ if x = fid then [(a, b)] else [] := by
  simp only [changes, insertHistory, Table.select, Table.rows_insert, List.filter_append,
    List.map_append]
  by_cases hx : x = fid
  · simp [hx]
  · simp [hx]

@[simp] theorem statusOf_insertAcceptance {x : ℕ} {u j : String} {e : Date} {t : Instant}
    (fid : ℕ) : (db.insertAcceptance x u j e t).statusOf fid = db.statusOf fid := rfl

@[simp] theorem changes_insertAcceptance {x : ℕ} {u j : String} {e : Date} {t : Instant}
    (fid : ℕ) : (db.insertAcceptance x u j e t).changes fid = db.changes fid := rfl

@[simp] theorem statusOf_updateAcceptance {aid : ℕ}
    {c : Table.Assignment RiskAcceptance.id} (fid : ℕ) :
    (db.updateAcceptance aid c).statusOf fid = db.statusOf fid := rfl

@[simp] theorem changes_updateAcceptance {aid : ℕ}
    {c : Table.Assignment RiskAcceptance.id} (fid : ℕ) :
    (db.updateAcceptance aid c).changes fid = db.changes fid := rfl

/-- An update of one acceptance. -/
theorem get?_updateAcceptance {aid : ℕ} {c : Table.Assignment RiskAcceptance.id} (a : ℕ) :
    (db.updateAcceptance aid c).riskAcceptances.get? a =
      if a = aid then (db.riskAcceptances.get? a).map c.set else db.riskAcceptances.get? a := by
  rw [updateAcceptance, Table.get?_update]
  cases hg : db.riskAcceptances.get? a with
  | none => simp
  | some ra =>
    by_cases ha : a = aid
    · simp [(Table.get?_eq_some.mp hg).2, ha]
    · simp [(Table.get?_eq_some.mp hg).2, ha]

@[simp] theorem findings_recordInTx {a tt ti u r : String} {t : Instant} :
    (db.recordInTx a tt ti u r t).findings = db.findings := rfl

@[simp] theorem statusOf_recordInTx {a tt ti u r : String} {t : Instant} (fid : ℕ) :
    (db.recordInTx a tt ti u r t).statusOf fid = db.statusOf fid := rfl

@[simp] theorem changes_recordInTx {a tt ti u r : String} {t : Instant} (fid : ℕ) :
    (db.recordInTx a tt ti u r t).changes fid = db.changes fid := rfl

@[simp] theorem riskAcceptances_recordInTx {a tt ti u r : String} {t : Instant} :
    (db.recordInTx a tt ti u r t).riskAcceptances = db.riskAcceptances := rfl

/-- An insertion of a finding adds its status under the key it draws, if anything. -/
theorem statusOf_insertFinding {row : ℕ → Finding} {hid : ∀ n, (row n).id = n} {fid : ℕ}
    (hfid : fid ≠ db.findings.seq) : (db.insertFinding row hid).statusOf fid = db.statusOf fid := by
  rw [insertFinding]
  split
  · rfl
  · simp only [statusOf, Table.get?_insert, if_neg hfid]

@[simp] theorem changes_insertFinding {row : ℕ → Finding} {hid : ∀ n, (row n).id = n} (fid : ℕ) :
    (db.insertFinding row hid).changes fid = db.changes fid := by
  rw [insertFinding]
  split <;> rfl

@[simp] theorem riskAcceptances_insertFinding {row : ℕ → Finding} {hid : ∀ n, (row n).id = n} :
    (db.insertFinding row hid).riskAcceptances = db.riskAcceptances := by
  rw [insertFinding]
  split <;> rfl

end Frame

/-! ### The finding of a product and a CVE -/

theorem findingAt_mem {db : Db} {productId : ℕ} {cveId : String} {f : Finding}
    (h : db.findingAt productId cveId = some f) :
    f ∈ db.findings.rows ∧ f.productId = productId ∧ f.cveId = cveId := by
  refine ⟨Table.mem_of_find h, ?_⟩
  have := Table.of_find h
  simpa using this

/-- An update rewrites the finding, if it satisfies the condition. -/
theorem findingAt_updateFindings (db : Db) (p : Finding → Bool) (c : Finding.Assignment)
    (productId : ℕ) (cveId : String) :
    (db.updateFindings p c).findingAt productId cveId =
      (db.findingAt productId cveId).map fun f => if p f then c.set f else f := by
  refine Table.find_update _ _ _ _ fun f => ?_
  obtain ⟨hproduct, hcve⟩ := Prod.mk.inj (c.target_set f)
  rw [hproduct, hcve]

/-- **There is at most one finding of a product and a CVE.** -/
theorem finding_unique {db : Db} {f g : Finding} (hf : f ∈ db.findings.rows)
    (hg : g ∈ db.findings.rows) (h : f.target = g.target) : f = g :=
  List.inj_on_of_nodup_map db.uniqueFinding hf hg h

end Db

end CveManagement
