import CveManagement.Exploitability.Batches
import CveManagement.Exploitability.Refresh
import CveManagement.Library.Trajectory

/-!
# An outage of vulnx

The circuit of vulnx counts the calls of `fetch_intel` that raise. But `fetch_intel` catches the
errors of its batches one by one, and a call all of whose batches have failed returns with an empty
mapping. For the circuit that is a success: it takes the count back to zero, and closes a circuit
that was probing. So in an outage a circuit is open at the end if it was open at the start, and no
call has come after its timeout (`CveManagement.opened_outage_iff`).
-/

namespace CveManagement

open Trajectory

/-- **The request fails**: no response, one of 401, 403, 429 or 5xx, or one without JSON. -/
def Exchange.Fails : Exchange → Prop
  | .unsent | .unanswered => True
  | .opsecViolation _ => False
  | .response statusCode body =>
    statusCode = 401 ∨ statusCode = 403 ∨ statusCode = 429 ∨
      (500 ≤ statusCode ∧ statusCode < 600) ∨ body = none

/-- A call of `fetch_intel` through the circuit. -/
structure VulnxCall where
  cveIds : List String
  env : FetchEnv

/-- What the calls leave behind. -/
structure VulnxState where
  circuit : CircuitBreaker
  daily : DailyCounter

namespace VulnxState

/-- One call. -/
def step (py : PyCase) (settings : VulnxSettings) (s : VulnxState) (c : VulnxCall) : VulnxState :=
  let fetched := guardedFetch py settings c.env (some s.circuit) s.daily c.cveIds
  ⟨fetched.circuit.getD s.circuit, fetched.daily⟩

/-- **An outage**: calls enough to trip the circuit, one after the other, that ask about something
and have the budget for it, and all of whose requests fail. -/
structure Outage (py : PyCase) (settings : VulnxSettings) (s : VulnxState)
    (calls : List VulnxCall) : Prop where
  enough : s.circuit.failureThreshold ≤ calls.length
  asks : ∀ c ∈ calls, c.cveIds ≠ []
  affords : AllSteps (step py settings)
    (fun s c => LetsThrough c.env.batches 0 (py.batches settings.vulnxBatchSize c.cveIds) s.daily)
    s calls
  fails : ∀ c ∈ calls, ∀ i < (py.batches settings.vulnxBatchSize c.cveIds).length,
    (c.env.batches i).exchange.Fails

end VulnxState

/-- **The refreshes make such calls**, the job as the lazy one: what a refresh does to the circuit
and to the counter is a step. -/
theorem VulnxState.step_doRefresh (py : PyCase) (settings : VulnxSettings) (s : VulnxState)
    (c : VulnxCall) (now : Instant) (store : IntelStore) :
    let refresh := doRefresh py settings c.env (some s.circuit) s.daily now c.cveIds store
    refresh.circuit = some (step py settings s c).circuit ∧
      refresh.daily = (step py settings s c).daily := by
  have hcircuit : ∃ b, (guardedFetch py settings c.env (some s.circuit) s.daily c.cveIds).circuit =
      some b := by
    simp only [guardedFetch]
    split_ifs
    · exact ⟨_, rfl⟩
    · exact ⟨_, rfl⟩
  obtain ⟨b, hb⟩ := hcircuit
  simp only [doRefresh, step]
  cases hresult : (guardedFetch py settings c.env (some s.circuit) s.daily c.cveIds).result with
  | error e => exact ⟨by rw [hb, Option.getD_some], rfl⟩
  | ok intel => exact ⟨by rw [hb, Option.getD_some], rfl⟩

section Fails

variable {py : PyCase}

/-- **A request that fails raises what is caught.** -/
theorem fetchBatch_of_fails (py : PyCase) {env : BatchEnv} (h : env.exchange.Fails) :
    ∃ e, fetchBatch py env = .error e ∧ e.caught = true := by
  unfold fetchBatch
  split
  · exact ⟨_, rfl, rfl⟩
  · exact ⟨_, rfl, rfl⟩
  · next heq =>
    rw [heq] at h
    exact h.elim
  · next statusCode body heq =>
    rw [heq] at h
    split_ifs with h429 hauth hstatus
    · exact ⟨_, rfl, rfl⟩
    · exact ⟨_, rfl, rfl⟩
    · exact ⟨_, rfl, rfl⟩
    · -- the status is a success, so there is no JSON
      have hnone : body = none := by
        rcases h with h | h | h | h | h
        · exact absurd (.inl h) hauth
        · exact absurd (.inr h) hauth
        · exact absurd h h429
        · omega
        · exact h
      rw [hnone]
      exact ⟨_, rfl, rfl⟩

/-- Batches that fail leave the mapping as it is, and the call returns. -/
theorem result_fetchBatches_of_fails {env : ℕ → BatchEnv} {batches : List (List String)} :
    ∀ {i : ℕ} {daily : DailyCounter} {results : Intel},
      (∀ j < batches.length, (env (i + j)).exchange.Fails) →
      (fetchBatches py env i batches daily results).result = .ok results := by
  induction batches with
  | nil =>
    intro i daily results _
    rfl
  | cons batch batches ih =>
    intro i daily results h
    obtain ⟨e, hfetch, hcaught⟩ := fetchBatch_of_fails py (h 0 (Nat.succ_pos _))
    rw [fetchBatches]
    split
    · rfl
    · simp only [Nat.add_zero] at hfetch
      simp only [hfetch, hcaught, if_true]
      refine ih fun j hj => ?_
      rw [Nat.add_right_comm]
      exact h (j + 1) (Nat.succ_lt_succ hj)

/-- **A call whose batches all fail returns an empty mapping.** -/
theorem result_fetchIntel_of_fails {env : ℕ → BatchEnv} {batchSize : ℤ} {cveIds : List String}
    (daily : DailyCounter)
    (h : ∀ i < (py.batches batchSize cveIds).length, (env i).exchange.Fails) :
    (fetchIntel py batchSize env daily cveIds).result = .ok fun _ => none := by
  rw [fetchIntel]
  split_ifs
  · rfl
  · exact result_fetchBatches_of_fails fun j hj => by
      rw [Nat.zero_add]
      exact h j hj

end Fails

namespace VulnxState

variable {py : PyCase} {settings : VulnxSettings}

/-- A refused call leaves the state as it is. -/
theorem step_of_refuses {s : VulnxState} {c : VulnxCall}
    (h : s.circuit.Refuses c.env.clock.admittedAt) : step py settings s c = s := by
  simp only [step, guardedFetch, CircuitBreaker.call_of_refuses h]
  rfl

/-- **A call in the outage closes the circuit**, unless it is refused. -/
theorem state_step_of_fails {s : VulnxState} {c : VulnxCall}
    (h : ¬s.circuit.Refuses c.env.clock.admittedAt)
    (hfails : ∀ i < (py.batches settings.vulnxBatchSize c.cveIds).length,
      (c.env.batches i).exchange.Fails) :
    (step py settings s c).circuit.state = .closed := by
  have hclosed := CircuitBreaker.state_call_ok h (fun _ => none : Intel)
  have hinvoked : (s.circuit.call c.env.clock (.ok fun _ => none : Except String Intel)).invoked =
      true := (CircuitBreaker.call_of_not_refuses h).1
  simp only [step, guardedFetch, result_fetchIntel_of_fails s.daily hfails]
  rw [show Except.mapError FetchError.text (.ok (fun _ => none) : Except FetchError Intel) =
    .ok fun _ => none from rfl, if_pos hinvoked]
  exact hclosed

/-- The calls of an outage, from any circuit and counter. -/
theorem opened_run_iff {calls : List VulnxCall}
    (h : ∀ c ∈ calls, ∀ i < (py.batches settings.vulnxBatchSize c.cveIds).length,
      (c.env.batches i).exchange.Fails) (s : VulnxState) :
    (run (step py settings) s calls).circuit.state = .opened ↔
      s.circuit.state = .opened ∧
        ∀ c ∈ calls, c.env.clock.admittedAt < s.circuit.openUntil := by
  induction calls generalizing s with
  | nil => simp
  | cons c calls ih =>
    have hrest := ih fun c' hc' => h c' (List.mem_cons_of_mem c hc')
    rw [run_cons, List.forall_mem_cons]
    by_cases hrefuses : s.circuit.Refuses c.env.clock.admittedAt
    · rw [step_of_refuses hrefuses, hrest]
      simp only [hrefuses.2, true_and]
    · have hclosed := state_step_of_fails hrefuses (h c List.mem_cons_self)
      rw [hrest, hclosed]
      constructor
      · rintro ⟨hopened, -⟩
        exact absurd hopened (by decide)
      · rintro ⟨hopened, hlt, -⟩
        exact absurd ⟨hopened, hlt⟩ hrefuses

/-- **Outages**: the circuit of vulnx is open at the end if and only if it was open at the start,
and every call came before the end of its timeout. -/
theorem opened_outage_iff {s : VulnxState} {calls : List VulnxCall}
    (h : Outage py settings s calls) :
    (run (step py settings) s calls).circuit.state = .opened ↔
      s.circuit.state = .opened ∧
        ∀ c ∈ calls, c.env.clock.admittedAt < s.circuit.openUntil :=
  opened_run_iff h.fails s

/-- A call at a second, about one CVE, that vulnx answers with 503. -/
def unavailable (second : ℚ) : VulnxCall :=
  ⟨["CVE-2024-3094"], fun _ => ⟨[], 0, .response 503 none, fun _ => 0⟩, ⟨second, second, second⟩⟩

/-- Five such calls. -/
def fiveCalls : List VulnxCall := [0, 1, 2, 3, 4].map unavailable

/-- The state before them: the circuit of the registry, new or tripped, and a fresh counter. -/
def before (tripped : Bool) : VulnxState :=
  let b := CircuitBreaker.new "vulnx" 5 180
  ⟨if tripped then { b with failures := 5, state := .opened, openUntil := 180 } else b,
    ⟨10000, 0, 0⟩⟩

theorem outage_fiveCalls (tripped : Bool) : Outage .ascii ⟨50, 7⟩ (before tripped) fiveCalls := by
  refine ⟨?_, ?_, ?_, ?_⟩
  · cases tripped <;> decide
  · decide
  · cases tripped <;>
      exact ⟨by decide +kernel, by decide +kernel, by decide +kernel, by decide +kernel,
        by decide +kernel, trivial⟩
  · intro c hc i _
    simp only [fiveCalls, List.map, List.mem_cons, List.not_mem_nil, or_false] at hc
    rcases hc with rfl | rfl | rfl | rfl | rfl <;> exact .inr (.inr (.inr (.inl (by decide))))

/-- A tripped circuit is still open after five calls within its timeout. -/
theorem opened_fiveCalls :
    (run (step .ascii ⟨50, 7⟩) (before true) fiveCalls).circuit.state = .opened :=
  (opened_outage_iff (outage_fiveCalls true)).mpr ⟨rfl, by decide +kernel⟩

/-- Five failed calls, as many as trip a circuit, leave a new one closed. -/
theorem not_opened_fiveCalls : Outage .ascii ⟨50, 7⟩ (before false) fiveCalls ∧
    (run (step .ascii ⟨50, 7⟩) (before false) fiveCalls).circuit.state = .closed := by
  refine ⟨outage_fiveCalls false, ?_⟩
  decide +kernel

end VulnxState

end CveManagement
