import CveManagement.Priority.CallSites
import Mathlib

/-!
# Due dates

`app/services/sla.py`: when a finding is due, counted in days from the publication of its CVE, and
what that makes of it on a day. A finding without due date is never late
(`CveManagement.computeSlaState_of_noDueDate`).
-/

namespace CveManagement

/-- `SLA_DAYS`. -/
def slaDays : Severity → Option ℤ
  | .critical => some 7
  | .high => some 30
  | .medium => some 90
  | .low => some 180
  | .none => none

/-- `SLA_KEV_OVERRIDE`. -/
def slaKevOverride : ℤ := 3

/-- `DEFAULT_SLA_DAYS`, those of `MEDIUM`. -/
def defaultSlaDays : ℤ := 90

/-- `AT_RISK_THRESHOLD_DAYS`. -/
def atRiskThresholdDays : ℤ := 7

/-- The day of `datetime.max`, 9999-12-31. -/
def Date.max : Date := 2932896

/-- **`compute_due_date`** at a time; it raises where the due date is no date of Python. -/
def computeDueDate (now : Instant) (severity : Option Severity) (isKev : Bool)
    (publishedAt createdAt : Option Instant) : Option Date :=
  let days := if isKev then slaKevOverride else (severity.bind slaDays).getD defaultSlaDays
  let base := (publishedAt.or createdAt).getD now
  let due := base.date + days
  if due ≤ Date.max then some due else none

/-- `SlaState`. -/
inductive SlaState
  | met
  | breached
  | atRisk
  | onTrack
  deriving DecidableEq, Repr

/-- **`compute_sla_state`** on a day. -/
def computeSlaState (findingStatus : FindingStatus) (dueDate : Option Date) (today : Date) :
    SlaState :=
  if [.remediated, .closed, .falsePositive].contains findingStatus then .met
  else match dueDate with
    | none => .onTrack
    | some dueDate =>
      if dueDate < today then .breached
      else if dueDate - today ≤ atRiskThresholdDays then .atRisk
      else .onTrack

/-- **`days_overdue`** on a day. -/
def daysOverdue (dueDate : Option Date) (today : Date) : ℤ :=
  match dueDate with
  | none => 0
  | some dueDate => if today ≤ dueDate then 0 else today - dueDate

section SlaState

variable {st : FindingStatus} {today : Date}

/-- A finding that is done with has met its date, whatever the date was. -/
theorem computeSlaState_of_terminal (h : st.terminal = true) (dueDate : Option Date)
    (today : Date) : computeSlaState st dueDate today = .met := by
  cases st with
  | remediated | closed | falsePositive => rfl
  | _ => cases h

/-- Any other goes by its due date. -/
theorem computeSlaState_of_not_terminal (h : st.terminal = false) (dueDate : Option Date)
    (today : Date) : computeSlaState st dueDate today = match dueDate with
      | none => .onTrack
      | some due =>
        if due < today then .breached else if due - today ≤ 7 then .atRisk else .onTrack := by
  cases st with
  | remediated | closed | falsePositive => cases h
  | _ => rfl

/-- **A finding without due date is on track**, however long it stays open. -/
theorem computeSlaState_of_noDueDate (h : st.terminal = false) (today : Date) :
    computeSlaState st none today = .onTrack := computeSlaState_of_not_terminal h none today

end SlaState

end CveManagement
