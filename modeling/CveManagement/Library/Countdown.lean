import Mathlib.Order.Basic
import Mathlib.Tactic.Common

/-!
# Loops that count down

A loop `while True` whose rounds are numbered: a round either breaks off or leaves another state.
`Countdown.loop` runs it with fuel and says how many rounds were made. If every round lowers a
measure, no more rounds are made than the measure of the first state, and so much fuel is enough
(`Countdown.loop_of_measure`).
-/

namespace Countdown

variable {σ : Type} (round : ℕ → σ → Option σ)

/-- The loop from the round with a number on: the number of the round that broke off, and the
state that it found. -/
def loop : ℕ → ℕ → σ → Option (ℕ × σ)
  | 0, _, _ => none
  | fuel + 1, k, s =>
    match round k s with
    | none => some (k, s)
    | some s' => loop fuel (k + 1) s'

variable {round} {s s' : σ} {k fuel : ℕ}

theorem loop_of_break (h : round k s = none) : loop round (fuel + 1) k s = some (k, s) := by
  rw [loop, h]

theorem loop_of_round (h : round k s = some s') :
    loop round (fuel + 1) k s = loop round fuel (k + 1) s' := by
  rw [loop, h]

variable (round) in
/-- **A measure that every round lowers bounds the rounds**: there is one round after which the
loop stops, with any fuel that lets it get there. -/
theorem loop_of_measure (Inv : σ → Prop) (measure : σ → ℕ)
    (hround : ∀ k s s', Inv s → round k s = some s' → Inv s' ∧ measure s' < measure s)
    (hinv : Inv s) (k : ℕ) :
    ∃ n, n ≤ measure s ∧ ∃ s', round (k + n) s' = none ∧ Inv s' ∧
      ∀ fuel, n < fuel → loop round fuel k s = some (k + n, s') := by
  -- the induction is on a bound of the measure, so that a round may lower it by more than one
  obtain ⟨m, hm⟩ : ∃ m, measure s ≤ m := ⟨measure s, Nat.le_refl _⟩
  induction m generalizing s k with
  | zero =>
    have hbreak : round k s = none := by
      refine Option.eq_none_iff_forall_ne_some.mpr fun s' hs' => ?_
      have hlower := (hround k s s' hinv hs').2
      omega
    refine ⟨0, Nat.zero_le _, s, hbreak, hinv, fun fuel hfuel => ?_⟩
    obtain ⟨fuel, rfl⟩ := Nat.exists_eq_add_one.mpr hfuel
    exact loop_of_break hbreak
  | succ m ih =>
    cases hs : round k s with
    | none =>
      refine ⟨0, Nat.zero_le _, s, hs, hinv, fun fuel hfuel => ?_⟩
      obtain ⟨fuel, rfl⟩ := Nat.exists_eq_add_one.mpr hfuel
      exact loop_of_break hs
    | some s' =>
      obtain ⟨hinv', hlower⟩ := hround k s s' hinv hs
      obtain ⟨n, hn, t, ht, htinv, hloop⟩ := ih hinv' (k + 1) (by omega)
      refine ⟨n + 1, by omega, t, ?_, htinv, fun fuel hfuel => ?_⟩
      · rwa [Nat.add_comm n 1, ← Nat.add_assoc]
      · obtain ⟨fuel, rfl⟩ := Nat.exists_eq_add_one.mpr (Nat.zero_lt_of_lt hfuel)
        rw [loop_of_round hs, hloop fuel (by omega), Nat.add_comm n 1, ← Nat.add_assoc]

end Countdown
