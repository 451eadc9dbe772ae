import Mathlib.Data.Nat.Count

/-!
# Loops that ask

A loop asks, and what it is answered says whether it is left or goes on, in which state. Against an
infinite sequence of answers such a loop may ask for ever: `Asking.Loop.Asks` says which of its
questions it comes to ask.

A loop with a cap counts some of the answers and is left when their number reaches the cap. It asks
no more often than the cap exactly if one of the first answers ends it, or all of them count
(`Asking.Capped.asks_lt_iff`).
-/

namespace Asking

variable {σ α : Type}

/-- **A loop**: its condition, and what an answer makes of its state, if it is not left. -/
structure Loop (σ α : Type) where
  goesOn : σ → Bool
  turn : σ → α → Option σ

/-- A turn that keeps the state or goes on to another one is none if it does neither. -/
theorem eq_none_iff_of_eq_some_iff {turn : Option σ} {keeps moves : Prop} {s s' : σ}
    (h : ∀ t, turn = some t ↔ keeps ∧ t = s ∨ moves ∧ t = s') :
    turn = none ↔ ¬keeps ∧ ¬moves := by
  rw [Option.eq_none_iff_forall_ne_some]
  constructor
  · intro hnone
    exact ⟨fun hkeeps => hnone s ((h s).mpr (.inl ⟨hkeeps, rfl⟩)),
      fun hmoves => hnone s' ((h s').mpr (.inr ⟨hmoves, rfl⟩))⟩
  · rintro ⟨hkeeps, hmoves⟩ t ht
    rcases (h t).mp ht with ⟨hyes, -⟩ | ⟨hyes, -⟩
    · exact hkeeps hyes
    · exact hmoves hyes

namespace Loop

/-- The state after so many questions, from the question with a number on. -/
def after (loop : Loop σ α) (answers : ℕ → α) : ℕ → ℕ → σ → Option σ
  | 0, _, s => some s
  | n + 1, k, s =>
    if loop.goesOn s then (loop.turn s (answers k)).bind (loop.after answers n (k + 1)) else none

/-- **A question is asked**: the loop is in some state before it, and goes on. -/
def Asks (loop : Loop σ α) (answers : ℕ → α) (start : σ) (k : ℕ) : Prop :=
  ∃ s, loop.after answers k 0 start = some s ∧ loop.goesOn s = true

end Loop

/-- **A loop with a cap**: `track` are the states that it comes through as long as it is not left,
and it goes on while fewer answers than the cap have been counted. -/
structure Capped (loop : Loop σ α) (answers : ℕ → α) (track : ℕ → σ) (counts : ℕ → Prop)
    [DecidablePred counts] (cap : ℕ) : Prop where
  turn : ∀ k s, loop.turn (track k) (answers k) = some s → s = track (k + 1)
  goesOn_iff : ∀ k, loop.goesOn (track k) = true ↔ Nat.count counts k < cap

namespace Capped

variable {loop : Loop σ α} {answers : ℕ → α} {track : ℕ → σ} {counts : ℕ → Prop}
  [DecidablePred counts] {cap n k : ℕ} {s : σ}

/-- Where the loop is after so many questions. -/
theorem after_eq_some_iff (h : Capped loop answers track counts cap) :
    loop.after answers n k (track k) = some s ↔
      s = track (k + n) ∧ ∀ i, k ≤ i → i < k + n →
        loop.goesOn (track i) = true ∧ (loop.turn (track i) (answers i)).isSome = true := by
  induction n generalizing k with
  | zero =>
    rw [Loop.after, Option.some.injEq]
    exact ⟨fun heq => ⟨heq.symm, fun i hi hlt => absurd hi (by omega)⟩, fun hboth => hboth.1.symm⟩
  | succ n ih =>
    rw [Loop.after]
    constructor
    · intro hafter
      split_ifs at hafter with hgoes
      obtain ⟨s', hturn, hrest⟩ := Option.bind_eq_some_iff.mp hafter
      obtain rfl := h.turn k s' hturn
      obtain ⟨hs, hlater⟩ := ih.mp hrest
      refine ⟨hs.trans (congrArg track (by omega)), fun i hi hlt => ?_⟩
      rcases Nat.eq_or_lt_of_le hi with rfl | hi
      · exact ⟨hgoes, Option.isSome_of_eq_some hturn⟩
      · exact hlater i hi (by omega)
    · rintro ⟨rfl, hall⟩
      obtain ⟨hgoes, hsome⟩ := hall k (le_refl k) (by omega)
      obtain ⟨s', hturn⟩ := Option.isSome_iff_exists.mp hsome
      obtain rfl := h.turn k s' hturn
      rw [if_pos hgoes, hturn]
      exact ih.mpr ⟨congrArg track (by omega), fun i hi hlt => hall i (by omega) (by omega)⟩

/-- **A question is asked** if no answer before it ends the loop, and fewer than the cap have been
counted. -/
theorem asks_iff (h : Capped loop answers track counts cap) :
    loop.Asks answers (track 0) k ↔
      (∀ i < k, (loop.turn (track i) (answers i)).isSome = true) ∧ Nat.count counts k < cap := by
  constructor
  · rintro ⟨s, hafter, hgoes⟩
    obtain ⟨rfl, hall⟩ := h.after_eq_some_iff.mp hafter
    rw [Nat.zero_add] at hgoes
    exact ⟨fun i hi => (hall i (Nat.zero_le i) (by omega)).2, (h.goesOn_iff k).mp hgoes⟩
  · rintro ⟨hall, hcount⟩
    refine ⟨track (0 + k), h.after_eq_some_iff.mpr ⟨rfl, fun i _ hi => ⟨?_, hall i (by omega)⟩⟩, ?_⟩
    · exact (h.goesOn_iff i).mpr (lt_of_le_of_lt (Nat.count_monotone counts (by omega)) hcount)
    · rw [Nat.zero_add]
      exact (h.goesOn_iff k).mpr hcount

/-- **The loop asks no more often than its cap** exactly if one of so many answers ends it, or all
of them count. -/
theorem asks_lt_iff (h : Capped loop answers track counts cap) :
    (∀ k, loop.Asks answers (track 0) k → k < cap) ↔
      (∃ i < cap, loop.turn (track i) (answers i) = none) ∨ ∀ i < cap, counts i := by
  constructor
  · intro hbound
    by_contra hboth
    obtain ⟨hno_end, hno_count⟩ := not_or.mp hboth
    have hcount : Nat.count counts cap < cap :=
      lt_of_le_of_ne (Nat.count_le counts) fun heq => hno_count (Nat.count_iff_forall.mp heq)
    refine lt_irrefl cap (hbound cap (h.asks_iff.mpr ⟨fun i hi => ?_, hcount⟩))
    exact Option.isSome_iff_ne_none.mpr fun hnone => hno_end ⟨i, hi, hnone⟩
  · rintro (⟨i, hi, hnone⟩ | hall) k hasks
    · obtain ⟨hgone, -⟩ := h.asks_iff.mp hasks
      by_contra hge
      have hsome := hgone i (by omega)
      rw [hnone] at hsome
      cases hsome
    · obtain ⟨-, hcount⟩ := h.asks_iff.mp hasks
      by_contra hge
      have hle := Nat.count_monotone counts (not_lt.mp hge)
      rw [Nat.count_iff_forall.mpr hall] at hle
      omega

end Capped

end Asking
