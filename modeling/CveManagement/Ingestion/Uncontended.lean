import CveManagement.Ingestion.RateGovernor
import Mathlib

/-!
# A call of `acquire` on its own

The loop of `TokenBucket.acquire` in `app/ingestion/rate_governor.py`, when no other call takes
tokens in between: a pass that does not find its tokens computes what to sleep, and the next pass
comes when that time is over, or later. The wait is what the inflow takes for the missing tokens, so
the next pass finds them unless the capacity cuts them off; a call therefore returns after at most
one sleep (`CveManagement.Acquisition.sleeps_at_most_once`), and never if it costs more than the
capacity (`CveManagement.Acquisition.returns_iff`).

A run of the loop is one of the governor in which only this call makes passes
(`CveManagement.Acquisition.exists_run`).
-/

namespace CveManagement

/-- Where a call of `acquire` is: in its loop, or at its end. -/
inductive AcquirePhase
  | looping
  | returned
  | zeroDivisionError
  deriving DecidableEq

/-- **A call of `acquire` that has its bucket to itself**, with what it has asked
`asyncio.sleep` for. -/
structure Acquisition where
  bucket : TokenBucket
  now : ℚ
  sleeps : List ℚ
  phase : AcquirePhase

namespace Acquisition

open Trajectory

/-- A call begins. -/
def start (b : TokenBucket) (now : ℚ) : Acquisition := ⟨b, now, [], .looping⟩

/-- **A round of the loop**: a pass, and a sleep of what it says and `late` seconds more; there is
no sleep of less than no time. -/
def round (cost : ℚ) (a : Acquisition) (late : ℚ≥0) : Acquisition :=
  match a.phase with
  | .looping =>
    match a.bucket.acquire a.now cost with
    | (bucket, .granted) => { a with bucket := bucket, phase := .returned }
    | (bucket, .zeroDivisionError) => { a with bucket := bucket, phase := .zeroDivisionError }
    | (bucket, .wait seconds) =>
      { a with
        bucket := bucket
        now := a.now + (max 0 seconds + late)
        sleeps := a.sleeps ++ [seconds] }
  | _ => a

variable {b : TokenBucket} {cost now : ℚ} {a : Acquisition}

/-! ### One round -/

/-- The tokens are there. -/
theorem round_of_le (hphase : a.phase = .looping) (h : cost ≤ (a.bucket.refill a.now).tokens)
    (late : ℚ≥0) :
    round cost a late = { a with
      bucket := { a.bucket.refill a.now with tokens := (a.bucket.refill a.now).tokens - cost }
      phase := .returned } := by
  have hacquire : a.bucket.acquire a.now cost = ({ a.bucket.refill a.now with
      tokens := (a.bucket.refill a.now).tokens - cost }, .granted) := if_pos h
  rw [round, hphase]
  dsimp only
  rw [hacquire]

/-- They are not. -/
theorem round_of_lt (hphase : a.phase = .looping) (hrate : 0 < a.bucket.refillRate)
    (h : (a.bucket.refill a.now).tokens < cost) (late : ℚ≥0) :
    round cost a late = { a with
      bucket := a.bucket.refill a.now
      now := a.now + ((cost - (a.bucket.refill a.now).tokens) / a.bucket.refillRate + late)
      sleeps := a.sleeps ++
        [(cost - (a.bucket.refill a.now).tokens) / a.bucket.refillRate] } := by
  have hacquire : a.bucket.acquire a.now cost = (a.bucket.refill a.now,
      .wait ((cost - (a.bucket.refill a.now).tokens) / a.bucket.refillRate)) :=
    (if_neg (not_le.mpr h)).trans (if_neg hrate.ne')
  have hpos := Meter.wait_pos hrate h
  rw [round, hphase]
  dsimp only
  rw [hacquire]
  dsimp only
  rw [max_eq_right hpos.le]

/-- A call that has ended makes no more rounds. -/
theorem run_ended (h : a.phase ≠ .looping) (lates : List ℚ≥0) :
    run (round cost) a lates = a := by
  refine run_eq_self fun late _ => ?_
  rw [round]
  split
  next hlooping => exact absurd hlooping h
  next => rfl

/-- **The wait is long enough**: a pass after a sleep finds its tokens, if the bucket can hold
them. -/
theorem le_refill_round (hphase : a.phase = .looping) (hrate : 0 < a.bucket.refillRate)
    (hcost : cost ≤ a.bucket.capacity) (h : (a.bucket.refill a.now).tokens < cost)
    (late : ℚ≥0) :
    cost ≤ ((round cost a late).bucket.refill (round cost a late).now).tokens := by
  rw [round_of_lt hphase hrate h]
  refine (Meter.le_refill_iff hrate).mpr ⟨hcost, ?_⟩
  dsimp only [TokenBucket.refill]
  rw [add_sub_cancel_left]
  exact le_add_of_nonneg_right late.2

/-! ### Every run -/

/-- **A call sleeps at most once**: whatever the level of the bucket is, and however late the sleeps
end, a call that the bucket can hold the tokens of has returned after its second pass. -/
theorem sleeps_at_most_once (hrate : 0 < b.refillRate) (hcost : cost ≤ b.capacity) (now : ℚ)
    (lates : List ℚ≥0) :
    (run (round cost) (start b now) lates).sleeps.length ≤ 1 ∧
      (2 ≤ lates.length → (run (round cost) (start b now) lates).phase = .returned) := by
  have hended : AcquirePhase.returned ≠ .looping := fun h => by cases h
  cases lates with
  | nil => exact ⟨Nat.zero_le 1, fun h => absurd h (by decide)⟩
  | cons late lates =>
    rw [run_cons]
    rcases le_or_gt cost ((start b now).bucket.refill (start b now).now).tokens with hle | hlt
    · rw [round_of_le rfl hle, run_ended hended]
      exact ⟨Nat.zero_le 1, fun _ => rfl⟩
    · have hnext := le_refill_round rfl hrate hcost hlt late
      rw [round_of_lt rfl hrate hlt] at hnext ⊢
      cases lates with
      | nil => exact ⟨le_rfl, fun h => absurd h (by simp)⟩
      | cons late' lates =>
        rw [run_cons, round_of_le rfl hnext, run_ended hended]
        exact ⟨le_rfl, fun _ => rfl⟩

/-- An empty bucket, and two passes. -/
theorem sleeps_at_most_once_empty :
    (run (round 1) (start ⟨"test", 1, 1, 0, 0⟩ 0) [0, 0]).sleeps.length ≤ 1 ∧
      (2 ≤ [(0 : ℚ≥0), 0].length →
        (run (round 1) (start ⟨"test", 1, 1, 0, 0⟩ 0) [0, 0]).phase = .returned) :=
  sleeps_at_most_once one_pos le_rfl 0 [0, 0]

/-- **A call that costs more than the capacity sleeps after each of its passes.** -/
theorem sleeps_forever (hrate : 0 < a.bucket.refillRate) (hcost : a.bucket.capacity < cost)
    (hphase : a.phase = .looping) (lates : List ℚ≥0) :
    (run (round cost) a lates).phase = .looping ∧
      (run (round cost) a lates).sleeps.length = a.sleeps.length + lates.length := by
  induction lates generalizing a with
  | nil => exact ⟨hphase, rfl⟩
  | cons late lates ih =>
    have hlt : (a.bucket.refill a.now).tokens < cost := (min_le_left _ _).trans_lt hcost
    rw [run_cons, round_of_lt hphase hrate hlt]
    obtain ⟨hlooping, hlength⟩ := ih (a := { a with
      bucket := a.bucket.refill a.now
      now := a.now + ((cost - (a.bucket.refill a.now).tokens) / a.bucket.refillRate + late)
      sleeps := a.sleeps ++
        [(cost - (a.bucket.refill a.now).tokens) / a.bucket.refillRate] }) hrate hcost hphase
    refine ⟨hlooping, hlength.trans ?_⟩
    dsimp only
    rw [List.length_append, List.length_singleton, List.length_cons]
    omega

/-- **When a call returns**: if the bucket can hold its tokens. -/
theorem returns_iff (hrate : 0 < b.refillRate) (now : ℚ) :
    (∃ lates, (run (round cost) (start b now) lates).phase = .returned) ↔ cost ≤ b.capacity := by
  constructor
  · rintro ⟨lates, hreturned⟩
    by_contra hcost
    have hlooping := (sleeps_forever (a := start b now) hrate (not_le.mp hcost) rfl lates).1
    rw [hlooping] at hreturned
    cases hreturned
  · exact fun hcost => ⟨[0, 0], (sleeps_at_most_once hrate hcost now [0, 0]).2 le_rfl⟩

/-! ### A run of the governor -/

section Governor

variable {g : RateGovernor} {i : ℕ}

/-- What happens when no other call makes a pass. -/
def Alone (i : ℕ) (e : RateGovernor.Event) : Prop :=
  e = .pass i ∨ ∃ elapsed nonneg, e = .tick elapsed nonneg

/-- **The call is the governor's** `i`-th one. -/
structure IsCall (i : ℕ) (cost : ℚ) (a : Acquisition) (g : RateGovernor) : Prop where
  bucket_eq : g.bucket = a.bucket
  now_eq : g.now = a.now
  call : ∃ pos, g.calls[i]? = some ⟨cost, pos, decide (a.phase ≠ .looping)⟩

/-- **A round is a pass**, and a sleep if it does not end the call. -/
theorem IsCall.round (h : IsCall i cost a g) (late : ℚ≥0) :
    ∃ l, (∀ e ∈ l, Alone i e) ∧
      IsCall i cost (Acquisition.round cost a late) (run RateGovernor.step g l) := by
  obtain ⟨pos, hcall⟩ := h.call
  rw [Acquisition.round]
  split
  next hphase =>
    rw [hphase] at hcall
    have hlt : i < g.calls.length := (List.getElem?_eq_some_iff.mp hcall).1
    have hpass : RateGovernor.step g (.pass i) = g.passCall i ⟨cost, pos, false⟩ := by
      rw [RateGovernor.step, hcall]
      rfl
    have halone : ∀ e ∈ [RateGovernor.Event.pass i], Alone i e := fun e he =>
      .inl (List.mem_singleton.mp he)
    rw [← h.bucket_eq, ← h.now_eq]
    rcases hacquire : g.bucket.acquire g.now cost with ⟨bucket, _ | seconds | _⟩
    · refine ⟨[.pass i], halone, ?_⟩
      rw [run_cons, run_nil, hpass, RateGovernor.passCall, hacquire]
      exact ⟨rfl, rfl, pos, List.getElem?_set_self hlt⟩
    · -- the call is still in its loop, and time passes
      have hslept : 0 ≤ max 0 seconds + (late : ℚ) := add_nonneg (le_max_left _ _) late.2
      refine ⟨[.pass i, .tick (max 0 seconds + late) hslept], fun e he => ?_, ?_⟩
      · rcases List.mem_cons.mp he with rfl | he
        · exact .inl rfl
        · exact .inr ⟨_, hslept, List.mem_singleton.mp he⟩
      · rw [run_cons, run_cons, run_nil, hpass, RateGovernor.passCall, hacquire]
        refine ⟨rfl, rfl, pos, ?_⟩
        rw [hphase]
        exact hcall
    · refine ⟨[.pass i], halone, ?_⟩
      rw [run_cons, run_nil, hpass, RateGovernor.passCall, hacquire]
      exact ⟨rfl, rfl, pos, List.getElem?_set_self hlt⟩
  next => exact ⟨[], fun e he => absurd he List.not_mem_nil, h⟩

/-- **The loop is a run of the governor** in which no other call makes a pass. -/
theorem exists_run (g : RateGovernor) (pos : 0 < cost) (lates : List ℚ≥0) :
    ∃ l, (∀ e ∈ l, Alone g.calls.length e) ∧
      IsCall g.calls.length cost (run (Acquisition.round cost) (start g.bucket g.now) lates)
        (run RateGovernor.step (RateGovernor.step g (.call cost pos)) l) := by
  have hbegun : IsCall g.calls.length cost (start g.bucket g.now)
      (RateGovernor.step g (.call cost pos)) := ⟨rfl, rfl, pos, List.getElem?_concat_length⟩
  induction lates using List.reverseRecOn with
  | nil => exact ⟨[], fun e he => absurd he List.not_mem_nil, hbegun⟩
  | append_singleton lates late ih =>
    obtain ⟨l, hl, hcall⟩ := ih
    obtain ⟨l', hl', hround⟩ := hcall.round late
    refine ⟨l ++ l', fun e he => ?_, ?_⟩
    · rcases List.mem_append.mp he with he | he
      · exact hl e he
      · exact hl' e he
    · rw [run_append, run_append]
      exact hround

end Governor

end Acquisition

end CveManagement
