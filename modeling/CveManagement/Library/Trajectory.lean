import Mathlib.Data.List.Induction

/-!
# Runs of a deterministic step, and the two things said about them

A system is a step function `step : σ → α → σ` and a run is the list of the
labels it was fed. Two shapes of statement are made about a run:

* `Trajectory.Throughout`: a predicate holds in **every state reached**, the
  first one included;
* `Trajectory.AllSteps`: a condition holds at **every step taken**, of the state
  before the step and the label.

The rules connect the two. `Trajectory.throughout_of_step` is the plain invariant
rule; `Trajectory.throughout_of_allSteps` is the rule for an invariant that only
the steps meeting a condition preserve; and `Trajectory.throughout_iff_allSteps`
says that the condition is exact when no step violating it keeps the invariant.
`Trajectory.exists_last_switch` finds, in a run that ends where a predicate holds
and starts where it does not, the last step that made it true.
-/

namespace Trajectory

variable {σ α : Type*} (step : σ → α → σ)

/-! ### Runs -/

/-- The state a run ends in. -/
def run (s : σ) (l : List α) : σ := l.foldl step s

@[simp] theorem run_nil (s : σ) : run step s [] = s := rfl

@[simp] theorem run_cons (s : σ) (a : α) (l : List α) :
    run step s (a :: l) = run step (step s a) l := rfl

@[simp] theorem run_append (s : σ) (l l' : List α) :
    run step s (l ++ l') = run step (run step s l) l' := by
  simp [run]

/-- Steps that change nothing leave the state as it is. -/
theorem run_eq_self {step : σ → α → σ} {s : σ} {l : List α} (h : ∀ a ∈ l, step s a = s) :
    run step s l = s := by
  induction l with
  | nil => rfl
  | cons a l ih =>
    obtain ⟨ha, hl⟩ := List.forall_mem_cons.mp h
    rw [run_cons, ha, ih hl]

/-- `I` holds in every state of the run, the first one included. -/
def Throughout (I : σ → Prop) : σ → List α → Prop
  | s, [] => I s
  | s, a :: l => I s ∧ Throughout I (step s a) l

/-- `P` holds at every step of the run, of the state before it and its label. -/
def AllSteps (P : σ → α → Prop) : σ → List α → Prop
  | _, [] => True
  | s, a :: l => P s a ∧ AllSteps P (step s a) l

variable {step} {I J K : σ → Prop} {P Q : σ → α → Prop}

@[simp] theorem throughout_nil {s : σ} : Throughout step I s ([] : List α) ↔ I s := Iff.rfl

@[simp] theorem throughout_cons {s : σ} {a : α} {l : List α} :
    Throughout step I s (a :: l) ↔ I s ∧ Throughout step I (step s a) l := Iff.rfl

@[simp] theorem allSteps_nil {s : σ} : AllSteps step P s ([] : List α) ↔ True := Iff.rfl

@[simp] theorem allSteps_cons {s : σ} {a : α} {l : List α} :
    AllSteps step P s (a :: l) ↔ P s a ∧ AllSteps step P (step s a) l := Iff.rfl

/-! ### Reading the two predicates position by position -/

/-- A predicate holds throughout a run when it holds after every prefix. -/
theorem throughout_iff_prefix {s : σ} {l : List α} :
    Throughout step I s l ↔ ∀ l₁ l₂, l = l₁ ++ l₂ → I (run step s l₁) := by
  induction l generalizing s with
  | nil =>
    refine ⟨fun h l₁ l₂ he => ?_, fun h => h [] [] rfl⟩
    obtain ⟨rfl, -⟩ := List.append_eq_nil_iff.mp he.symm
    exact h
  | cons a l ih =>
    rw [throughout_cons, ih]
    constructor
    · rintro ⟨hs, hl⟩ l₁ l₂ he
      cases l₁ with
      | nil => exact hs
      | cons b l₁ =>
        obtain ⟨rfl, rfl⟩ := List.cons.inj he
        exact hl l₁ l₂ rfl
    · intro h
      exact ⟨h [] (a :: l) rfl, fun l₁ l₂ he => h (a :: l₁) l₂ (by rw [he]; rfl)⟩

/-- A condition holds at all steps of a run when it holds at the step that
follows any prefix. -/
theorem allSteps_iff_split {s : σ} {l : List α} :
    AllSteps step P s l ↔ ∀ l₁ a l₂, l = l₁ ++ a :: l₂ → P (run step s l₁) a := by
  induction l generalizing s with
  | nil =>
    refine ⟨fun _ l₁ a l₂ he => ?_, fun _ => trivial⟩
    exact absurd he (by simp)
  | cons b l ih =>
    rw [allSteps_cons, ih]
    constructor
    · rintro ⟨hb, hl⟩ l₁ a l₂ he
      cases l₁ with
      | nil =>
        obtain ⟨rfl, rfl⟩ := List.cons.inj he
        exact hb
      | cons c l₁ =>
        obtain ⟨rfl, rfl⟩ := List.cons.inj he
        exact hl l₁ a l₂ rfl
    · intro h
      exact ⟨h [] b l rfl, fun l₁ a l₂ he => h (b :: l₁) a l₂ (by rw [he]; rfl)⟩

/-- What holds throughout a run holds at its end. -/
theorem Throughout.last {s : σ} {l : List α} (h : Throughout step I s l) : I (run step s l) :=
  throughout_iff_prefix.mp h l [] (List.append_nil l).symm

/-- What holds throughout a run holds at its start. -/
theorem Throughout.first {s : σ} {l : List α} (h : Throughout step I s l) : I s :=
  throughout_iff_prefix.mp h [] l rfl

theorem throughout_append {s : σ} {l l' : List α} :
    Throughout step I s (l ++ l') ↔
      Throughout step I s l ∧ Throughout step I (run step s l) l' := by
  induction l generalizing s with
  | nil => exact ⟨fun h => ⟨h.first, h⟩, fun h => h.2⟩
  | cons a l ih => rw [List.cons_append, throughout_cons, throughout_cons, ih, and_assoc]; rfl

theorem allSteps_append {s : σ} {l l' : List α} :
    AllSteps step P s (l ++ l') ↔ AllSteps step P s l ∧ AllSteps step P (run step s l) l' := by
  induction l generalizing s with
  | nil => exact (and_iff_right trivial).symm
  | cons a l ih => rw [List.cons_append, allSteps_cons, allSteps_cons, ih, and_assoc]; rfl

theorem Throughout.mono {s : σ} {l : List α} (h : Throughout step I s l)
    (hIJ : ∀ s, I s → J s) : Throughout step J s l := by
  induction l generalizing s with
  | nil => exact hIJ s h
  | cons a l ih => exact ⟨hIJ s h.1, ih h.2⟩

/-- Predicates that are equivalent in all states of a run hold throughout it both or neither. -/
theorem Throughout.congr {s : σ} {l : List α} (h : Throughout step K s l)
    (hIJ : ∀ s, K s → (I s ↔ J s)) : Throughout step I s l ↔ Throughout step J s l := by
  induction l generalizing s with
  | nil => exact hIJ s h
  | cons a l ih => rw [throughout_cons, throughout_cons, hIJ s h.1, ih h.2]

/-- What holds in every state bears on every step. -/
theorem Throughout.allSteps {s : σ} {l : List α} (h : Throughout step I s l)
    (hIP : ∀ s a, I s → P s a) : AllSteps step P s l := by
  induction l generalizing s with
  | nil => trivial
  | cons a l ih => exact ⟨hIP s a h.1, ih h.2⟩

theorem AllSteps.mono {s : σ} {l : List α} (h : AllSteps step P s l)
    (hPQ : ∀ s a, P s a → Q s a) : AllSteps step Q s l := by
  induction l generalizing s with
  | nil => trivial
  | cons a l ih => exact ⟨hPQ s a h.1, ih h.2⟩

/-! ### Invariants -/

/-- **The invariant rule**: what every step preserves holds throughout. -/
theorem throughout_of_step (hstep : ∀ s a, I s → I (step s a)) {s : σ} (hs : I s) (l : List α) :
    Throughout step I s l := by
  induction l generalizing s with
  | nil => exact hs
  | cons a l ih => exact ⟨hs, ih (hstep s a hs)⟩

/-- **The guarded invariant rule**: what the steps meeting a condition preserve
holds throughout a run all of whose steps meet it. -/
theorem throughout_of_allSteps (hstep : ∀ s a, I s → P s a → I (step s a)) {s : σ} (hs : I s)
    {l : List α} (hl : AllSteps step P s l) : Throughout step I s l := by
  induction l generalizing s with
  | nil => exact hs
  | cons a l ih => exact ⟨hs, ih (hstep s a hs hl.1) hl.2⟩

/-- Conditions that are equivalent in all states of a run hold at the same of its steps. -/
theorem Throughout.allSteps_congr {s : σ} {l : List α} (h : Throughout step I s l)
    (hPQ : ∀ s a, I s → (P s a ↔ Q s a)) : AllSteps step P s l ↔ AllSteps step Q s l := by
  induction l generalizing s with
  | nil => exact Iff.rfl
  | cons a l ih => rw [allSteps_cons, allSteps_cons, hPQ s a h.1, ih h.2]

/-- **Conditions that an invariant makes equivalent** hold at all steps of the same runs. -/
theorem allSteps_congr (hJ : ∀ s a, J s → J (step s a)) (hPQ : ∀ s a, J s → (P s a ↔ Q s a))
    {s : σ} (hj : J s) {l : List α} : AllSteps step P s l ↔ AllSteps step Q s l :=
  (throughout_of_step hJ hj l).allSteps_congr hPQ

/-- **The exact guarded rule**: under an unconditional invariant `J`, a condition
that is necessary and sufficient for one step to keep `I` is necessary and
sufficient for a run to keep it. -/
theorem throughout_iff_allSteps (hJ : ∀ s a, J s → J (step s a))
    (hstep : ∀ s a, J s → I s → (I (step s a) ↔ P s a)) {s : σ} (hj : J s) (hs : I s)
    {l : List α} : Throughout step I s l ↔ AllSteps step P s l := by
  induction l generalizing s with
  | nil => exact ⟨fun _ => trivial, fun _ => hs⟩
  | cons a l ih =>
    rw [throughout_cons, allSteps_cons]
    constructor
    · -- the run goes on in a state where the predicate holds, so the step met the condition
      rintro ⟨-, hl⟩
      exact ⟨(hstep s a hj hs).mp hl.first, (ih (hJ s a hj) hl.first).mp hl⟩
    · rintro ⟨hp, hl⟩
      have hnext : I (step s a) := (hstep s a hj hs).mpr hp
      exact ⟨hs, (ih (hJ s a hj) hnext).mpr hl⟩

/-! ### Switches -/

/-- **The last switch**: a run from a state where `I` fails to one where it holds
has a step that makes `I` true for the rest of the run. -/
theorem exists_last_switch {s : σ} {l : List α} (hs : ¬I s) (hl : I (run step s l)) :
    ∃ l₁ a l₂, l = l₁ ++ a :: l₂ ∧ ¬I (run step s l₁) ∧
      Throughout step I (step (run step s l₁) a) l₂ := by
  -- from the end: the last step made the predicate true, or an earlier one did
  induction l using List.reverseRecOn with
  | nil => exact absurd hl hs
  | append_singleton l b ih =>
    rw [run_append] at hl
    by_cases hb : I (run step s l)
    · -- the predicate already held before the last step: extend the earlier switch
      obtain ⟨l₁, a, l₂, rfl, hl₁, hl₂⟩ := ih hb
      refine ⟨l₁, a, l₂ ++ [b], by simp, hl₁, throughout_append.mpr ⟨hl₂, hl₂.last, ?_⟩⟩
      simpa using hl
    · exact ⟨l, b, [], rfl, hb, hl⟩

end Trajectory
