import CveManagement.Governance.Requests
import CveManagement.Governance.Sla
import Mathlib

/-!
# The pipeline of findings in the browser

`FindingsPipeline.jsx` works out the SLA state of a finding, and the days it is overdue, from the
columns that the backend sends. It looks at the due date first and at the status after that, where
`compute_sla_state` goes the other way round; the days are counted in milliseconds. The browser is
taken to be in UTC.
-/

namespace CveManagement

namespace FindingsPipeline

/-! ### Dates of JavaScript -/

/-- A day, in milliseconds. -/
def dayMillis : ℤ := 86400000

/-- `new Date()`, with `setHours(0, 0, 0, 0)`. -/
def midnight (now : Instant) : ℤ :=
  let millis : ℤ := now / 1000
  millis / dayMillis * dayMillis

/-- `new Date(due_date)`; a text with nothing but a date means midnight in UTC. -/
def dateOf (dueDate : Date) : ℤ := dueDate * dayMillis

/-- `Math.round`. -/
def mathRound (x : ℚ) : ℤ := ⌊x + 1 / 2⌋

/-! ### The functions -/

/-- **`dueDateState`**. -/
def dueDateState (now : Instant) (f : Finding) : SlaState :=
  match f.dueDate with
  | none => .onTrack
  | some dueDate =>
    let today := midnight now
    let due := dateOf dueDate
    if [FindingStatus.remediated, .closed, .falsePositive].contains f.status then .met
    else if due < today then .breached
    else
      let daysToDue := mathRound (((due - today : ℤ) : ℚ) / 86400000)
      if daysToDue ≤ 7 then .atRisk else .onTrack

/-- **`daysOverdue`**. -/
def daysOverdue (now : Instant) (f : Finding) : ℤ :=
  match f.dueDate with
  | none => 0
  | some dueDate =>
    let today := midnight now
    let due := dateOf dueDate
    if today ≤ due then 0 else mathRound (((today - due : ℤ) : ℚ) / 86400000)

/-- **The browser and the backend say the same** of a finding. -/
structure Agrees (now : Instant) (f : Finding) : Prop where
  state : dueDateState now f = computeSlaState f.status f.dueDate now.date
  overdue : daysOverdue now f = CveManagement.daysOverdue f.dueDate now.date

/-! ### Days in milliseconds -/

/-- The browser's midnight is that of the day of the backend. -/
theorem midnight_eq (now : Instant) : midnight now = dateOf now.date := by
  have hdiv : (now : ℤ) / 1000 / 86400000 = now / (1000 * 86400000) :=
    Int.ediv_ediv_of_nonneg (by decide)
  unfold midnight dateOf Instant.date dayMillis
  dsimp only
  rw [hdiv]
  rfl

theorem dateOf_lt_iff {a b : Date} : dateOf a < dateOf b ↔ a < b :=
  mul_lt_mul_iff_of_pos_right (by decide)

theorem dateOf_le_iff {a b : Date} : dateOf a ≤ dateOf b ↔ a ≤ b :=
  mul_le_mul_iff_of_pos_right (by decide)

/-- The days between two midnights are a whole number, and rounding leaves it alone. -/
theorem mathRound_days (a b : Date) :
    mathRound (((dateOf a - dateOf b : ℤ) : ℚ) / 86400000) = a - b := by
  have hdays : (((dateOf a - dateOf b : ℤ) : ℚ) / 86400000) = ((a - b : ℤ) : ℚ) := by
    unfold dateOf dayMillis
    push_cast
    ring
  rw [mathRound, hdays, Int.floor_eq_iff]
  constructor <;> linarith

/-! ### The comparison -/

section Agreement

variable {now : Instant} {f : Finding}

/-- The days overdue are the same. -/
theorem daysOverdue_eq (now : Instant) (f : Finding) :
    daysOverdue now f = CveManagement.daysOverdue f.dueDate now.date := by
  unfold daysOverdue CveManagement.daysOverdue
  cases f.dueDate with
  | none => rfl
  | some due =>
    dsimp only
    rw [midnight_eq, mathRound_days]
    exact if_congr dateOf_le_iff rfl rfl

/-- With a due date, so is the state. -/
theorem dueDateState_of_due {due : Date} (h : f.dueDate = some due) :
    dueDateState now f = computeSlaState f.status f.dueDate now.date := by
  unfold dueDateState computeSlaState
  rw [h]
  dsimp only
  rw [midnight_eq, mathRound_days]
  exact if_congr Iff.rfl rfl (if_congr dateOf_lt_iff rfl rfl)

/-- Without one, the browser takes every finding to be on track. -/
theorem dueDateState_of_noDueDate (h : f.dueDate = none) : dueDateState now f = .onTrack := by
  unfold dueDateState
  rw [h]

end Agreement

/-- **The browser and the backend agree on a finding unless it is done with and has no due
date.** -/
theorem agrees_iff (now : Instant) (f : Finding) :
    Agrees now f ↔ ¬(f.dueDate = none ∧ f.status.terminal = true) := by
  constructor
  · rintro h ⟨hdue, hterminal⟩
    have hstate := h.state
    rw [dueDateState_of_noDueDate hdue, computeSlaState_of_terminal hterminal] at hstate
    cases hstate
  · intro h
    refine ⟨?_, daysOverdue_eq now f⟩
    cases hdue : f.dueDate with
    | some due => rw [← hdue, dueDateState_of_due hdue]
    | none =>
      have hopen : f.status.terminal = false := by
        by_contra hterminal
        exact h ⟨hdue, Bool.eq_true_of_not_eq_false hterminal⟩
      rw [dueDateState_of_noDueDate hdue, computeSlaState_of_noDueDate hopen]

/-- A finding that was remediated, and never had a due date. -/
def remediated : Finding :=
  { newFinding 0 1 "CVE-2024-0001" .certain "" none 1 with status := .remediated }

/-- **The browser shows it as on track, the backend as met.** -/
theorem not_agrees_remediated :
    dueDateState 0 remediated = .onTrack ∧
      computeSlaState remediated.status remediated.dueDate (Instant.date 0) = .met ∧
      ¬Agrees 0 remediated := by
  have hui : dueDateState 0 remediated = .onTrack := rfl
  have hbackend : computeSlaState remediated.status remediated.dueDate (Instant.date 0) = .met :=
    rfl
  refine ⟨hui, hbackend, fun h => ?_⟩
  have hstate := h.state
  rw [hui, hbackend] at hstate
  cases hstate

end FindingsPipeline

end CveManagement
