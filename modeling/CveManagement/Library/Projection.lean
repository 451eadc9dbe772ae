import CveManagement.Library.Trajectory

/-!
# A system that is part of another one

A large system steps a part of itself, under some of its labels, and leaves the part alone under the
others (`Trajectory.Projects`). Then a run of the large system is a run of the part, by the labels
that are for it (`Trajectory.Projects.run`), and what is known of the steps of the one is known of
the steps of the other (`Trajectory.Projects.allSteps`).

A system that changes its labels, and lets some of them through only, has no runs but those of the
system that takes any (`Trajectory.exists_run_of_guard`).
-/

namespace Trajectory

variable {σ σ' α α' : Type*} {step : σ → α → σ} {step' : σ' → α' → σ'} {part : σ → σ'}
  {label : α → Option α'}

/-- **A step of the whole is a step of the part**, or none. -/
def Projects (step : σ → α → σ) (step' : σ' → α' → σ') (part : σ → σ') (label : α → Option α') :
    Prop :=
  ∀ s a, part (step s a) = (label a).elim (part s) (step' (part s))

namespace Projects

theorem of_some (h : Projects step step' part label) {s : σ} {a : α} {b : α'}
    (ha : label a = some b) : part (step s a) = step' (part s) b := by
  rw [h, ha, Option.elim_some]

theorem of_none (h : Projects step step' part label) {s : σ} {a : α} (ha : label a = none) :
    part (step s a) = part s := by
  rw [h, ha, Option.elim_none]

/-- **A run of the whole is a run of the part.** -/
theorem run (h : Projects step step' part label) (s : σ) (l : List α) :
    part (run step s l) = Trajectory.run step' (part s) (l.filterMap label) := by
  induction l generalizing s with
  | nil => rfl
  | cons a l ih =>
    rw [run_cons, ih]
    cases ha : label a with
    | none => rw [h.of_none ha, List.filterMap_cons_none ha]
    | some b => rw [h.of_some ha, List.filterMap_cons_some ha, run_cons]

/-- A condition on the steps of the part is one on the steps of the whole. -/
theorem allSteps (h : Projects step step' part label) {P : σ' → α' → Prop} {s : σ} {l : List α} :
    AllSteps step (fun s a => ∀ b, label a = some b → P (part s) b) s l ↔
      AllSteps step' P (part s) (l.filterMap label) := by
  induction l generalizing s with
  | nil => exact Iff.rfl
  | cons a l ih =>
    rw [allSteps_cons, ih]
    cases ha : label a with
    | none =>
      rw [h.of_none ha, List.filterMap_cons_none ha]
      exact and_iff_right fun b hb => absurd hb (by simp)
    | some b =>
      rw [h.of_some ha, List.filterMap_cons_some ha, allSteps_cons]
      refine and_congr_left fun _ => ⟨fun hP => hP b rfl, ?_⟩
      rintro hP _ ⟨⟩
      exact hP

end Projects

/-- **A step under conditions**: a label has the step that its guard makes of it, or none. So a run
is one of the plain steps, by the labels that the guard has let through. -/
theorem exists_run_of_guard {step : σ → α → σ} {step' : σ → α' → σ} {guard : σ → α' → Option α}
    (h : ∀ s a, step' s a = (guard s a).elim s (step s)) (s : σ) (l : List α') :
    ∃ l', run step' s l = run step s l' ∧ ∀ P : σ → α → Prop,
      AllSteps step' (fun s a => ∀ b, guard s a = some b → P s b) s l → AllSteps step P s l' := by
  induction l generalizing s with
  | nil => exact ⟨[], rfl, fun _ _ => trivial⟩
  | cons a l ih =>
    obtain ⟨l', hrun, hsteps⟩ := ih (step' s a)
    cases hguard : guard s a with
    | none =>
      have hstep : step' s a = s := by rw [h, hguard, Option.elim_none]
      refine ⟨l', hrun.trans (by rw [hstep]), fun P hP => ?_⟩
      have hrest := hsteps P hP.2
      rwa [hstep] at hrest
    | some b =>
      have hstep : step' s a = step s b := by rw [h, hguard, Option.elim_some]
      refine ⟨b :: l', by rw [run_cons, hrun, hstep, run_cons], fun P hP => ⟨hP.1 b hguard, ?_⟩⟩
      have hrest := hsteps P hP.2
      rwa [hstep] at hrest

end Trajectory
