import CveManagement.Ingestion.Probes

/-!
# The failure count and the state of a circuit

The state of a circuit and its count of failures are written apart, by locked sections of
calls that were started in any earlier state. They stay in step all the same: the circuit is
closed exactly while the count is below the threshold (`CveManagement.Probes.Counted`), for a
threshold of at least one. What the breaker promises of an outcome that comes in late follows
from that; it is collected in `CveManagement.Probes.Governed`.
-/

namespace CveManagement

namespace Probes

open CircuitBreaker Trajectory

variable {τ : Type} [DecidableEq τ]

/-- **The count decides the state**, of a circuit that tolerates some failure. -/
structure Counted (failureThreshold : ℕ) (recoveryTimeout : ℚ) (b : CircuitBreaker) : Prop where
  closed_iff : b.state = .closed ↔ b.failures < failureThreshold
  threshold_eq : b.failureThreshold = failureThreshold
  timeout_eq : b.recoveryTimeout = recoveryTimeout

/-- **What a circuit promises** the calls that come to it in a state, or come back to it. -/
structure Governed (failureThreshold : ℕ) (recoveryTimeout : ℚ) (s : Calls τ) : Prop where
  /-- The count decides the state. -/
  closed_iff : s.circuit.state = .closed ↔ s.circuit.failures < failureThreshold
  /-- A failure in `HALF_OPEN` opens the circuit again. -/
  reopens : s.circuit.state = .halfOpen → ∀ t ∈ s.inFlight, ∀ now,
    (step s (.raised t now)).circuit.state = .opened ∧
      (step s (.raised t now)).circuit.openUntil = now + recoveryTimeout
  /-- A success in `OPEN` changes nothing. -/
  ignores : s.circuit.state = .opened → ∀ t ∈ s.inFlight,
    (step s (.returned t)).circuit = s.circuit
  /-- Nothing is started in `OPEN` before the timeout. -/
  refuses : s.circuit.state = .opened → ∀ t clock, clock.admittedAt < s.circuit.openUntil →
    ¬Starts s (.call t clock) ∧ step s (.call t clock) = s

section Count

variable {failureThreshold : ℕ} {recoveryTimeout : ℚ} {b : CircuitBreaker} {s : Calls τ}

theorem counted_onSuccess (hpos : 1 ≤ failureThreshold)
    (h : Counted failureThreshold recoveryTimeout b) :
    Counted failureThreshold recoveryTimeout b.onSuccess := by
  unfold onSuccess
  split_ifs
  · exact ⟨iff_of_true rfl hpos, h.threshold_eq, h.timeout_eq⟩
  · exact h

theorem counted_onFailure (h : Counted failureThreshold recoveryTimeout b) (now : ℚ) :
    Counted failureThreshold recoveryTimeout (b.onFailure now) := by
  have hthreshold := h.threshold_eq
  unfold onFailure
  split_ifs with hpast
  · refine ⟨iff_of_false ?_ ?_, h.threshold_eq, h.timeout_eq⟩
    · exact fun hstate : CircuitState.opened = .closed => absurd hstate (by decide)
    · show ¬b.failures + 1 < failureThreshold
      omega
  · -- below the threshold the failure is counted, and the circuit is and stays closed
    have hclosed : b.state = .closed := h.closed_iff.mpr (by omega)
    refine ⟨iff_of_true hclosed ?_, h.threshold_eq, h.timeout_eq⟩
    show b.failures + 1 < failureThreshold
    omega

theorem counted_halfOpen (h : Counted failureThreshold recoveryTimeout b)
    (hopen : b.state = .opened) :
    Counted failureThreshold recoveryTimeout { b with state := .halfOpen } := by
  have hcount : ¬b.failures < failureThreshold := by
    rw [← h.closed_iff, hopen]
    decide
  exact ⟨iff_of_false (show CircuitState.halfOpen ≠ .closed by decide) hcount, h.threshold_eq,
    h.timeout_eq⟩

/-- What a call that ends leaves is the circuit, or what it was given. -/
theorem counted_finish (h : Counted failureThreshold recoveryTimeout s.circuit)
    (hb : Counted failureThreshold recoveryTimeout b) (t : τ) :
    Counted failureThreshold recoveryTimeout (s.finish t b).circuit := by
  rw [circuit_finish]
  split_ifs
  · exact hb
  · exact h

/-- **Every locked section keeps the count and the state in step.** -/
theorem counted_step (hpos : 1 ≤ failureThreshold) (s : Calls τ) (e : Event τ)
    (h : Counted failureThreshold recoveryTimeout s.circuit) :
    Counted failureThreshold recoveryTimeout (step s e).circuit := by
  cases e with
  | call t clock =>
    rcases call_cases s clock with hr | hd | hn
    · rwa [step_call_of_refuses hr]
    · rw [step_call_of_due hd]
      exact counted_halfOpen h hd.1
    · rwa [step_call_of_not_opened hn]
  | returned t => exact counted_finish h (counted_onSuccess hpos h) t
  | raised t now => exact counted_finish h (counted_onFailure h now) t
  | raisedCircuitOpen t => exact counted_finish h h t
  | cancelled t => exact counted_finish h h t

/-- **The count carries the promises.** -/
theorem governed_of_counted (h : Counted failureThreshold recoveryTimeout s.circuit) :
    Governed failureThreshold recoveryTimeout s where
  closed_iff := h.closed_iff
  reopens := by
    intro hhalf t ht now
    -- the count is at the threshold already, and the failure goes on top
    have hcount : ¬s.circuit.failures < failureThreshold := by
      rw [← h.closed_iff, hhalf]
      decide
    have hpast : s.circuit.failureThreshold ≤ s.circuit.failures + 1 := by
      rw [h.threshold_eq]
      omega
    rw [step, circuit_finish, if_pos ht, onFailure, if_pos hpast, ← h.timeout_eq]
    exact ⟨rfl, rfl⟩
  ignores := by
    intro hopen t ht
    rw [step, circuit_finish, if_pos ht, onSuccess, hopen]
    exact if_neg (by decide)
  refuses := by
    intro hopen t clock hlt
    exact ⟨fun hstarts => hstarts ⟨hopen, hlt⟩, step_call_of_refuses ⟨hopen, hlt⟩⟩

end Count

/-- **A circuit keeps its promises** in every state of every run: however the sections of its
calls are interleaved, it is closed exactly while it has counted fewer failures than its
threshold. -/
theorem governed_throughout (name : String) {failureThreshold : ℕ} (hpos : 1 ≤ failureThreshold)
    (recoveryTimeout : ℚ) (l : List (Event τ)) :
    Throughout step (Governed failureThreshold recoveryTimeout)
      (.idle (.new name failureThreshold recoveryTimeout)) l := by
  have hstart : Counted failureThreshold recoveryTimeout
      (Calls.idle (τ := τ) (.new name failureThreshold recoveryTimeout)).circuit :=
    ⟨iff_of_true rfl hpos, rfl, rfl⟩
  exact (throughout_of_step (fun s e => counted_step hpos s e) hstart l).mono
    fun _ => governed_of_counted

/-- Through the outage of a circuit with a threshold of three. -/
theorem governed_outage :
    Throughout step (Governed 3 300) (.idle (.new "circl" 3 300)) outage :=
  governed_throughout "circl" (by decide) 300 outage

end Probes

end CveManagement
