import CveManagement.Library.Trajectory

/-!
# Values that are overwritten

A system has a value that some of its labels overwrite – each with a value of its own, whatever was
there – and the others leave alone. Then the value after a run is what the last label has written
that writes it (`Trajectory.run_eq_lastWrite`): nothing before it is left.
-/

namespace Trajectory

variable {σ α β γ : Type*} {step : σ → α → σ} {part : σ → β} {write : α → Option β}

/-- **What was written last**, if anything was. -/
def lastWrite (write : α → Option β) (l : List α) : Option β := (l.filterMap write).getLast?

theorem lastWrite_concat (l : List α) (a : α) :
    lastWrite write (l ++ [a]) = (write a).or (lastWrite write l) := by
  rw [lastWrite, lastWrite, List.filterMap_append]
  cases hwrite : write a with
  | none =>
    rw [List.filterMap_cons_none hwrite, List.filterMap_nil, List.append_nil, Option.none_or]
  | some b =>
    rw [List.filterMap_cons_some hwrite, List.filterMap_nil, List.getLast?_concat, Option.some_or]

/-- What is written is made of something else. -/
theorem lastWrite_map (write : α → Option β) (f : β → γ) (l : List α) :
    lastWrite (fun a => (write a).map f) l = (lastWrite write l).map f := by
  induction l using List.reverseRecOn with
  | nil => rfl
  | append_singleton l a ih =>
    rw [lastWrite_concat, lastWrite_concat, ih]
    cases write a <;> rfl

variable (part) in
/-- **The value after a run** is what was written last. -/
theorem run_eq_lastWrite (h : ∀ s a, part (step s a) = (write a).getD (part s)) (s : σ)
    (l : List α) : part (run step s l) = (lastWrite write l).getD (part s) := by
  induction l using List.reverseRecOn with
  | nil => rfl
  | append_singleton l a ih =>
    rw [run_append, run_cons, run_nil, h, ih, lastWrite_concat]
    cases write a <;> rfl

end Trajectory
