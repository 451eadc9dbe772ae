import CveManagement.Library.Meter
import CveManagement.Library.Trajectory
import Mathlib

/-!
# The rate governor

`app/ingestion/rate_governor.py`. `acquire` is a loop: a pass takes the lock, refills the bucket,
and takes the cost out of it, or finds that it has to wait; nothing else happens under the lock.
So the calls that wait on one bucket interleave by their passes, and a sleep ends whenever it
ends.

A bucket is a meter in balance (`CveManagement.RateGovernor.balanced_step`), which bounds what it
grants in any window.
-/

namespace CveManagement

/-- `TokenBucket`; times are seconds of the monotonic clock. -/
structure TokenBucket where
  name : String
  capacity : ℚ
  refillRate : ℚ
  tokens : ℚ
  lastRefill : ℚ

/-- What a pass of `acquire` does: it returns, has some seconds to sleep, or divides by a rate
of zero. -/
inductive AcquirePass
  | granted
  | wait (seconds : ℚ)
  | zeroDivisionError
  deriving DecidableEq

namespace TokenBucket

/-- `__post_init__`. -/
def new (name : String) (capacity refillRate now : ℚ) : TokenBucket :=
  ⟨name, capacity, refillRate, capacity, now⟩

variable (b : TokenBucket)

/-- `_refill`. -/
def refill (now : ℚ) : TokenBucket :=
  { b with
    tokens := min b.capacity (b.tokens + (now - b.lastRefill) * b.refillRate)
    lastRefill := now }

/-- **A pass of the loop of `acquire`**, under the lock. -/
def acquire (now cost : ℚ) : TokenBucket × AcquirePass :=
  let b := b.refill now
  if cost ≤ b.tokens then ({ b with tokens := b.tokens - cost }, .granted)
  else if b.refillRate = 0 then (b, .zeroDivisionError)
  else (b, .wait ((cost - b.tokens) / b.refillRate))

end TokenBucket

/-- A call of `acquire`, which has ended or is still in its loop. -/
structure AcquireCall where
  cost : ℚ
  cost_pos : 0 < cost
  ended : Bool

/-- **A bucket and its callers**, with the grants made so far: when, and how much. -/
structure RateGovernor where
  bucket : TokenBucket
  now : ℚ
  calls : List AcquireCall
  grants : List (ℚ × ℚ)

namespace RateGovernor

/-- What happens to a governor. -/
inductive Event
  /-- Time passes. -/
  | tick (elapsed : ℚ) (nonneg : 0 ≤ elapsed)
  /-- A call of `acquire` begins. -/
  | call (cost : ℚ) (pos : 0 < cost)
  /-- A call makes a pass of its loop. -/
  | pass (i : ℕ)

/-- A bucket that has just been made. -/
def start (name : String) (capacity refillRate now : ℚ) : RateGovernor :=
  ⟨TokenBucket.new name capacity refillRate now, now, [], []⟩

/-- A call makes a pass, unless it has ended. -/
def passCall (g : RateGovernor) (i : ℕ) (c : AcquireCall) : RateGovernor :=
  if c.ended then g
  else
    match g.bucket.acquire g.now c.cost with
    | (bucket, .granted) =>
      { g with
        bucket := bucket
        calls := g.calls.set i { c with ended := true }
        grants := g.grants ++ [(g.now, c.cost)] }
    | (bucket, .wait _) => { g with bucket := bucket }
    | (bucket, .zeroDivisionError) =>
      { g with
        bucket := bucket
        calls := g.calls.set i { c with ended := true } }

/-- **One step.** -/
def step (g : RateGovernor) : Event → RateGovernor
  | .tick elapsed _ => { g with now := g.now + elapsed }
  | .call cost pos => { g with calls := g.calls ++ [⟨cost, pos, false⟩] }
  | .pass i => (g.calls[i]?).elim g fun c => g.passCall i c

variable {g : RateGovernor}

/-- The pass of a call that is still in its loop, with the tokens there. -/
def Grants (g : RateGovernor) (e : Event) (cost : ℚ) : Prop :=
  ∃ i c, e = .pass i ∧ g.calls[i]? = some c ∧ c.ended = false ∧ c.cost = cost ∧
    cost ≤ (g.bucket.refill g.now).tokens

/-- **What a step does**: it leaves the bucket and the grants alone, refills the bucket, or makes
a grant out of the refilled one. -/
theorem step_cases (g : RateGovernor) (e : Event) :
    ((step g e).bucket = g.bucket ∧ (step g e).grants = g.grants ∧ g.now ≤ (step g e).now ∧
      ∀ cost, ¬g.Grants e cost) ∨
    ((step g e).bucket = g.bucket.refill g.now ∧ (step g e).grants = g.grants ∧
      (step g e).now = g.now ∧ ∀ cost, ¬g.Grants e cost) ∨
    ∃ cost, 0 < cost ∧ g.Grants e cost ∧
      (step g e).bucket = { g.bucket.refill g.now with
        tokens := (g.bucket.refill g.now).tokens - cost } ∧
      (step g e).grants = g.grants ++ [(g.now, cost)] ∧ (step g e).now = g.now := by
  cases e with
  | tick elapsed nonneg =>
    refine Or.inl ⟨rfl, rfl, le_add_of_nonneg_right nonneg, ?_⟩
    rintro cost ⟨i, c, he, -⟩
    exact absurd he (by simp)
  | call cost pos =>
    refine Or.inl ⟨rfl, rfl, le_rfl, ?_⟩
    rintro cost ⟨i, c, he, -⟩
    exact absurd he (by simp)
  | pass i =>
    rcases hc : g.calls[i]? with _ | c
    · refine Or.inl ⟨by simp [step, hc], by simp [step, hc], by simp [step, hc], ?_⟩
      rintro cost ⟨j, c, he, hj, -⟩
      obtain rfl := Event.pass.inj he
      exact absurd (hj.symm.trans hc) (by simp)
    have hstep : step g (.pass i) = g.passCall i c := by simp [step, hc]
    -- the only call that the step can be a grant of
    have hgrants : ∀ cost, g.Grants (.pass i) cost ↔
        c.ended = false ∧ c.cost = cost ∧ cost ≤ (g.bucket.refill g.now).tokens := fun cost => by
      constructor
      · rintro ⟨j, c', he, hj, hrest⟩
        obtain rfl := Event.pass.inj he
        obtain rfl := Option.some.inj (hc.symm.trans hj)
        exact hrest
      · exact fun h => ⟨i, c, rfl, hc, h⟩
    rw [hstep, passCall]
    by_cases hended : c.ended = true
    · rw [if_pos hended]
      refine Or.inl ⟨rfl, rfl, le_rfl, fun cost h => ?_⟩
      rw [((hgrants cost).mp h).1] at hended
      exact absurd hended (by simp)
    rw [if_neg hended, TokenBucket.acquire]
    dsimp only
    split_ifs with hle hzero
    · refine Or.inr (Or.inr ⟨c.cost, c.cost_pos, (hgrants _).mpr ⟨by simpa using hended, rfl, hle⟩,
        rfl, rfl, rfl⟩)
    · refine Or.inr (Or.inl ⟨rfl, rfl, rfl, fun cost h => ?_⟩)
      obtain ⟨-, rfl, h⟩ := (hgrants cost).mp h
      exact hle h
    · refine Or.inr (Or.inl ⟨rfl, rfl, rfl, fun cost h => ?_⟩)
      obtain ⟨-, rfl, h⟩ := (hgrants cost).mp h
      exact hle h

/-! ### A bucket is a meter -/

/-- **The bucket is in balance** with its grants, and its clock has not run ahead. -/
structure Balanced (capacity refillRate : ℚ) (g : RateGovernor) : Prop where
  capacity_eq : g.bucket.capacity = capacity
  refillRate_eq : g.bucket.refillRate = refillRate
  lastRefill_le : g.bucket.lastRefill ≤ g.now
  meter : Meter.Balanced capacity refillRate g.grants g.bucket.tokens g.bucket.lastRefill

variable {capacity refillRate : ℚ}

theorem balanced_start (name : String) (hcapacity : 0 < capacity) (hrate : 0 < refillRate)
    (now : ℚ) : (start name capacity refillRate now).Balanced capacity refillRate :=
  ⟨rfl, rfl, le_rfl, Meter.balanced_nil hcapacity.le hrate.le⟩

/-- **Every step keeps the balance.** -/
theorem balanced_step (hrate : 0 < refillRate) (h : g.Balanced capacity refillRate) (e : Event) :
    (step g e).Balanced capacity refillRate := by
  have hrefill : Meter.Balanced capacity refillRate g.grants (g.bucket.refill g.now).tokens
      g.now := by
    rw [TokenBucket.refill, h.capacity_eq, h.refillRate_eq]
    exact h.meter.refill hrate.le h.lastRefill_le
  rcases step_cases g e with ⟨hb, hg, hnow, -⟩ | ⟨hb, hg, hnow, -⟩ |
    ⟨cost, hpos, ⟨i, c, -, -, -, -, hle⟩, hb, hg, hnow⟩
  · refine ⟨?_, ?_, ?_, ?_⟩ <;> rw [hb]
    · exact h.capacity_eq
    · exact h.refillRate_eq
    · exact h.lastRefill_le.trans hnow
    · rw [hg]
      exact h.meter
  · refine ⟨?_, ?_, ?_, ?_⟩ <;> rw [hb]
    · exact h.capacity_eq
    · exact h.refillRate_eq
    · exact hnow.ge
    · rw [hg]
      exact hrefill
  · refine ⟨?_, ?_, ?_, ?_⟩ <;> rw [hb]
    · exact h.capacity_eq
    · exact h.refillRate_eq
    · exact hnow.ge
    · rw [hg]
      exact hrefill.grant hrate.le hpos.le hle

/-- What has been granted within a window. -/
def granted (g : RateGovernor) (s t : ℚ) : ℚ := Meter.spent g.grants s t

open Trajectory in
/-- **A token bucket conforms**: throughout a run its tokens stay between zero and the capacity,
and in no window more is granted than the capacity and the inflow of the window. -/
theorem conforms (name : String) (hcapacity : 0 < capacity) (hrate : 0 < refillRate) (now : ℚ)
    (l : List Event) :
    Throughout step (fun g => 0 ≤ g.bucket.tokens ∧ g.bucket.tokens ≤ capacity ∧
      ∀ s t, s ≤ t → g.granted s t ≤ capacity + refillRate * (t - s))
      (start name capacity refillRate now) l := by
  have hrun : Throughout step (Balanced capacity refillRate)
      (start name capacity refillRate now) l :=
    throughout_of_step (I := Balanced capacity refillRate)
      (fun _ e h => balanced_step hrate h e) (balanced_start name hcapacity hrate now) l
  exact hrun.mono fun g h => ⟨h.meter.level_nonneg, h.meter.level_le, h.meter.window⟩

open Trajectory in
theorem conforms_example :
    Throughout step (fun g => 0 ≤ g.bucket.tokens ∧ g.bucket.tokens ≤ 2 ∧
      ∀ s t, s ≤ t → g.granted s t ≤ 2 + 10 * (t - s))
      (start "test" 2 10 0)
      [.call 2 two_pos, .pass 0, .tick (1 / 10) (by positivity), .call 1 one_pos, .pass 1] :=
  conforms "test" two_pos (by positivity) 0 _

end RateGovernor

end CveManagement
