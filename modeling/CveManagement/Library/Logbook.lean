import Mathlib.Data.List.Induction

/-!
# Logs of the changes of one value

A value that changes over time is often stored next to a log of its changes, one
entry `(old, new)` each. The log tells the truth when its entries chain: the first
one starts at the value the record was created with, each next one starts where
the one before it ended, no entry records a change to the value it starts from,
and the last one ends at the current value. `Logbook.Chained s l t` says so of a
log `l` from `s` to `t`.

Two facts decide what may be appended. A log determines the value it ends at
(`Logbook.Chained.last_eq`), so an entry keeps the chain only if its first
component is the current value (`Logbook.chained_snoc`); and hence the same change
cannot be logged twice in a row (`Logbook.Chained.append_replicate_iff`).
-/

namespace Logbook

variable {σ : Type*}

/-- **The log `l` chains from `s` to `t`.** -/
def Chained : σ → List (σ × σ) → σ → Prop
  | s, [], t => s = t
  | s, e :: l, t => e.1 = s ∧ e.1 ≠ e.2 ∧ Chained e.2 l t

variable {s t : σ} {l : List (σ × σ)}

@[simp] theorem chained_nil : Chained s [] t ↔ s = t := Iff.rfl

@[simp] theorem chained_cons {e : σ × σ} :
    Chained s (e :: l) t ↔ e.1 = s ∧ e.1 ≠ e.2 ∧ Chained e.2 l t := Iff.rfl

instance instDecidableChained [DecidableEq σ] :
    (s : σ) → (l : List (σ × σ)) → (t : σ) → Decidable (Chained s l t)
  | s, [], t => inferInstanceAs (Decidable (s = t))
  | s, e :: l, t =>
    have : Decidable (Chained e.2 l t) := instDecidableChained e.2 l t
    inferInstanceAs (Decidable (e.1 = s ∧ e.1 ≠ e.2 ∧ Chained e.2 l t))

/-- A log determines the value it ends at. -/
theorem Chained.last_eq {t' : σ} (h : Chained s l t) (h' : Chained s l t') : t = t' := by
  induction l generalizing s with
  | nil => exact h.symm.trans h'
  | cons e l ih => exact ih h.2.2 h'.2.2

/-- Two logs, one after the other. -/
theorem chained_append {l' : List (σ × σ)} :
    Chained s (l ++ l') t ↔ ∃ u, Chained s l u ∧ Chained u l' t := by
  induction l generalizing s with
  | nil => simp
  | cons e l ih => simp only [List.cons_append, chained_cons, ih]; tauto

/-- **One more entry** keeps the chain when it starts at the value the log ended
at and is a change. -/
theorem chained_snoc {e : σ × σ} :
    Chained s (l ++ [e]) t ↔ Chained s l e.1 ∧ e.1 ≠ e.2 ∧ e.2 = t := by
  rw [chained_append]
  constructor
  · rintro ⟨u, hu, rfl, hne, he⟩
    exact ⟨hu, hne, he⟩
  · rintro ⟨hl, hne, he⟩
    exact ⟨e.1, hl, rfl, hne, he⟩

/-- After a log that ends at `u`, an entry keeps the chain exactly when it starts
at `u` and is a change. -/
theorem Chained.snoc_iff {u : σ} {e : σ × σ} (h : Chained s l u) :
    Chained s (l ++ [e]) e.2 ↔ e.1 = u ∧ e.1 ≠ e.2 := by
  rw [chained_snoc]
  constructor
  · rintro ⟨hl, hne, -⟩
    exact ⟨hl.last_eq h, hne⟩
  · rintro ⟨rfl, hne⟩
    exact ⟨h, hne, rfl⟩

/-- **A change logged `k > 0` times keeps the chain exactly when `k = 1`**: the
second copy starts at the old value, which the first one left. -/
theorem Chained.append_replicate_iff {u v : σ} (h : Chained s l u) (huv : u ≠ v) {k : ℕ}
    (hk : 0 < k) : Chained s (l ++ List.replicate k (u, v)) v ↔ k = 1 := by
  constructor
  · intro hc
    obtain ⟨w, -, hw⟩ := chained_append.mp hc
    rcases k with _ | _ | k
    · exact absurd hk (Nat.lt_irrefl 0)
    · rfl
    · -- two copies in a row would start at `u` and at `v`
      rw [List.replicate_succ, List.replicate_succ] at hw
      exact absurd hw.2.2.1 huv
  · rintro rfl
    exact h.snoc_iff.mpr ⟨rfl, huv⟩

end Logbook
