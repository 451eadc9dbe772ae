import CveManagement.Ingestion.CircuitBreaker
import CveManagement.Library.Trajectory

/-!
# Concurrent calls through one circuit

`CircuitBreaker.call` holds its lock while it looks at the state and while it books the
outcome, and not while the protected function runs. Any number of calls are therefore in
flight at once, and their locked sections come in any order: a run here is a list of such
sections, each atomic because nothing is awaited inside the lock.

The docstring of the module promises one probe in `HALF_OPEN`. Nothing keeps that promise:
a call that finds the circuit half open goes through like any other
(`CveManagement.Probes.starts_of_halfOpen`). Whether the promise holds of a run is
decided by its schedule alone, in `CveManagement.Probes.oneProbe_iff`: it does exactly
when no call comes between a probe and the next outcome. A cancellation is no outcome.
-/

namespace CveManagement

namespace Probes

open CircuitBreaker Trajectory

variable {τ : Type} [DecidableEq τ]

/-- A circuit and the calls whose protected function is running. -/
structure Calls (τ : Type) where
  circuit : CircuitBreaker
  inFlight : List τ

/-- What a call does between two points where it can be suspended. -/
inductive Event (τ : Type)
  /-- `call` is entered: the first locked section, and the protected function is started
  unless the call is refused. -/
  | call (t : τ) (clock : CallClock)
  /-- The protected function returns, and `_on_success` runs. -/
  | returned (t : τ)
  /-- The protected function raises an `Exception`, and `_on_failure` runs. -/
  | raised (t : τ) (now : ℚ)
  /-- The protected function raises a `CircuitOpenError` of a circuit of its own. -/
  | raisedCircuitOpen (t : τ)
  /-- The call is cancelled: `CancelledError` is no `Exception`, and no handler runs. -/
  | cancelled (t : τ)

namespace Calls

/-- No call yet. -/
def idle (b : CircuitBreaker) : Calls τ := ⟨b, []⟩

/-- A call in flight ends, and leaves a circuit behind. -/
def finish (s : Calls τ) (t : τ) (b : CircuitBreaker) : Calls τ :=
  if t ∈ s.inFlight then ⟨b, s.inFlight.erase t⟩ else s

end Calls

/-- One locked section. -/
def step (s : Calls τ) : Event τ → Calls τ
  | .call t clock =>
    match s.circuit.enter clock with
    | .error _ => s
    | .ok b => ⟨b, t :: s.inFlight⟩
  | .returned t => s.finish t s.circuit.onSuccess
  | .raised t now => s.finish t (s.circuit.onFailure now)
  | .raisedCircuitOpen t => s.finish t s.circuit
  | .cancelled t => s.finish t s.circuit

/-- A protected function is started here. -/
def Starts (s : Calls τ) : Event τ → Prop
  | .call _ clock => ¬s.circuit.Refuses clock.admittedAt
  | _ => False

/-- The outcome of a call in flight is booked here. -/
def Settles (s : Calls τ) : Event τ → Prop
  | .returned t => t ∈ s.inFlight
  | .raised t _ => t ∈ s.inFlight
  | _ => False

instance (s : Calls τ) (e : Event τ) : Decidable (Starts s e) := by
  cases e <;> unfold Starts <;> infer_instance

/-- How many protected functions a run starts. -/
def starts : Calls τ → List (Event τ) → ℕ
  | _, [] => 0
  | s, e :: l => (if Starts s e then 1 else 0) + starts (step s e) l

/-- The circuit is half open. -/
def HalfOpen (s : Calls τ) : Prop := s.circuit.state = .halfOpen

/-- `OPEN → HALF_OPEN`. -/
def HalfOpens (s : Calls τ) (e : Event τ) : Prop :=
  s.circuit.state = .opened ∧ HalfOpen (step s e)

/-- **One probe**: from any transition `OPEN → HALF_OPEN` of the run on, and for as long as
the circuit stays half open, at most one protected function is started, the one of the
transition included. -/
def OneProbe (s : Calls τ) (l : List (Event τ)) : Prop :=
  ∀ l₁ e l₂ l₃, l = l₁ ++ e :: (l₂ ++ l₃) → HalfOpens (run step s l₁) e →
    Throughout step HalfOpen (step (run step s l₁) e) l₂ →
    starts (run step s l₁) (e :: l₂) ≤ 1

/-- **A probe is let be**: between a call that finds a probe due and any later call, the
outcome of some call in flight is booked. -/
def ProbesLetBe (s : Calls τ) (l : List (Event τ)) : Prop :=
  ∀ l₁ t clock l₂ t' clock' l₃, l = l₁ ++ .call t clock :: (l₂ ++ .call t' clock' :: l₃) →
    (run step s l₁).circuit.ProbeDue clock.admittedAt →
    ¬AllSteps step (fun s e => ¬Settles s e) (step (run step s l₁) (.call t clock)) l₂

/-! ### One step -/

section Step

variable {s : Calls τ} {t : τ} {clock : CallClock} {e : Event τ}

/-- A circuit that is not closed has had its fill of failures. -/
def Tripped (s : Calls τ) : Prop :=
  s.circuit.state ≠ .closed → s.circuit.failureThreshold ≤ s.circuit.failures

theorem step_call_of_refuses (h : s.circuit.Refuses clock.admittedAt) :
    step s (.call t clock) = s := by
  simp only [step, enter_of_refuses h]

theorem step_call_of_due (h : s.circuit.ProbeDue clock.admittedAt) :
    step s (.call t clock) = ⟨{ s.circuit with state := .halfOpen }, t :: s.inFlight⟩ := by
  have hlt : ¬clock.admittedAt < s.circuit.openUntil := not_lt.mpr h.2
  simp only [step, enter, if_pos h.1, if_neg hlt]

theorem step_call_of_not_opened (h : s.circuit.state ≠ .opened) :
    step s (.call t clock) = ⟨s.circuit, t :: s.inFlight⟩ := by
  simp only [step, enter, if_neg h]

omit [DecidableEq τ] in
/-- A call is refused, finds a probe due, or finds the circuit not open. -/
theorem call_cases (s : Calls τ) (clock : CallClock) :
    s.circuit.Refuses clock.admittedAt ∨ s.circuit.ProbeDue clock.admittedAt ∨
      s.circuit.state ≠ .opened := by
  by_cases hopen : s.circuit.state = .opened
  · rcases lt_or_ge clock.admittedAt s.circuit.openUntil with hlt | hge
    · exact .inl ⟨hopen, hlt⟩
    · exact .inr (.inl ⟨hopen, hge⟩)
  · exact .inr (.inr hopen)

/-- A call that ends keeps the circuit, or leaves the one it was given. -/
theorem circuit_finish (b : CircuitBreaker) :
    (s.finish t b).circuit = if t ∈ s.inFlight then b else s.circuit := by
  unfold Calls.finish
  split_ifs <;> rfl

theorem circuit_finish_self : (s.finish t s.circuit).circuit = s.circuit := by
  rw [circuit_finish, ite_self]

/-- What does not settle a call keeps a half-open circuit half open. -/
theorem halfOpen_step (hs : HalfOpen s) (he : ¬Settles s e) : HalfOpen (step s e) := by
  have hne : s.circuit.state ≠ .opened := by
    intro h
    rw [HalfOpen, h] at hs
    exact absurd hs (by decide)
  -- a call goes through, an end without an outcome leaves the circuit as it is
  cases e with
  | call t clock => rwa [step_call_of_not_opened hne]
  | returned t => rwa [HalfOpen, step, circuit_finish, if_neg (show t ∉ s.inFlight from he)]
  | raised t now => rwa [HalfOpen, step, circuit_finish, if_neg (show t ∉ s.inFlight from he)]
  | raisedCircuitOpen t => rwa [HalfOpen, step, circuit_finish_self]
  | cancelled t => rwa [HalfOpen, step, circuit_finish_self]

/-- What settles a call does not leave the circuit half open: a success closes it, and a
failure opens it, the count being past the threshold already. -/
theorem not_halfOpen_step (hs : HalfOpen s) (ht : Tripped s) (he : Settles s e) :
    ¬HalfOpen (step s e) := by
  have hne : s.circuit.state ≠ .closed := by
    intro h
    rw [HalfOpen, h] at hs
    exact absurd hs (by decide)
  have hcount := ht hne
  cases e with
  | call t clock => exact he.elim
  | returned t =>
    have hmem : t ∈ s.inFlight := he
    rw [HalfOpen, step, circuit_finish, if_pos hmem, onSuccess, if_pos (.inl hs)]
    simp
  | raised t now =>
    have hmem : t ∈ s.inFlight := he
    have hpast : s.circuit.failureThreshold ≤ s.circuit.failures + 1 := by omega
    rw [HalfOpen, step, circuit_finish, if_pos hmem, onFailure, if_pos hpast]
    simp
  | raisedCircuitOpen t => exact he.elim
  | cancelled t => exact he.elim

theorem tripped_step (s : Calls τ) (e : Event τ) (h : Tripped s) : Tripped (step s e) := by
  cases e with
  | call t clock =>
    rcases call_cases s clock with hr | hd | hn
    · rwa [step_call_of_refuses hr]
    · rw [step_call_of_due hd]
      intro _
      exact h (by rw [hd.1]; decide)
    · rwa [step_call_of_not_opened hn]
  | returned t =>
    rw [Tripped, step, circuit_finish]
    split_ifs with hmem
    · unfold onSuccess
      split_ifs with hst
      · exact fun hne => absurd rfl hne
      · exact h
    · exact h
  | raised t now =>
    rw [Tripped, step, circuit_finish]
    split_ifs with hmem
    · unfold onFailure
      split_ifs with hpast
      · exact fun _ => hpast
      · -- a failure below the threshold changes no state, and counts one more
        intro hne
        have hcount := h hne
        show s.circuit.failureThreshold ≤ s.circuit.failures + 1
        omega
    · exact h
  | raisedCircuitOpen t => rwa [Tripped, step, circuit_finish_self]
  | cancelled t => rwa [Tripped, step, circuit_finish_self]

/-- Only a call that finds a probe due half-opens an open circuit. -/
theorem halfOpens_iff : HalfOpens s e ↔
    ∃ t clock, e = .call t clock ∧ s.circuit.ProbeDue clock.admittedAt := by
  constructor
  · rintro ⟨hopen, hhalf⟩
    cases e with
    | call t clock =>
      rcases call_cases s clock with hr | hd | hn
      · rw [step_call_of_refuses hr, HalfOpen, hopen] at hhalf
        exact absurd hhalf (by decide)
      · exact ⟨t, clock, rfl, hd⟩
      · exact absurd hopen hn
    | returned t =>
      -- a success books nothing on an open circuit
      have hbook : s.circuit.onSuccess = s.circuit := by
        rw [onSuccess, hopen]
        exact if_neg (by decide)
      rw [HalfOpen, step, hbook, circuit_finish_self, hopen] at hhalf
      exact absurd hhalf (by decide)
    | raised t now =>
      have hstate : (s.circuit.onFailure now).state = .opened := by
        unfold onFailure
        split_ifs
        · rfl
        · exact hopen
      rw [HalfOpen, step, circuit_finish] at hhalf
      split_ifs at hhalf
      · exact absurd (hstate.symm.trans hhalf) (by decide)
      · exact absurd (hopen.symm.trans hhalf) (by decide)
    | raisedCircuitOpen t =>
      rw [HalfOpen, step, circuit_finish_self, hopen] at hhalf
      exact absurd hhalf (by decide)
    | cancelled t =>
      rw [HalfOpen, step, circuit_finish_self, hopen] at hhalf
      exact absurd hhalf (by decide)
  · rintro ⟨t, clock, rfl, hd⟩
    refine ⟨hd.1, ?_⟩
    rw [step_call_of_due hd]
    rfl

omit [DecidableEq τ] in
/-- **A call that finds the circuit half open goes through**, whoever else is probing. -/
theorem starts_of_halfOpen (hs : HalfOpen s) (t : τ) (clock : CallClock) :
    Starts s (.call t clock) := by
  rintro ⟨hopen, -⟩
  rw [HalfOpen, hopen] at hs
  exact absurd hs (by decide)

omit [DecidableEq τ] in
theorem starts_of_due (h : s.circuit.ProbeDue clock.admittedAt) : Starts s (.call t clock) :=
  fun hr => absurd hr.2 (not_lt.mpr h.2)

end Step

/-! ### Runs -/

theorem starts_append (s : Calls τ) (l l' : List (Event τ)) :
    starts s (l ++ l') = starts s l + starts (run step s l) l' := by
  induction l generalizing s with
  | nil => simp [starts]
  | cons e l ih => simp only [List.cons_append, starts, ih, run_cons, Nat.add_assoc]

/-- A half-open circuit stays so until a call settles. -/
theorem throughout_halfOpen {s : Calls τ} (hs : HalfOpen s) {l : List (Event τ)}
    (hl : AllSteps step (fun s e => ¬Settles s e) s l) : Throughout step HalfOpen s l :=
  throughout_of_allSteps (fun _ _ => halfOpen_step) hs hl

/-- And as long as it stays so, no call has settled. -/
theorem allSteps_not_settles {s : Calls τ} (ht : Tripped s) {l : List (Event τ)}
    (hl : Throughout step HalfOpen s l) : AllSteps step (fun s e => ¬Settles s e) s l := by
  induction l generalizing s with
  | nil => trivial
  | cons e l ih =>
    have hnext : HalfOpen (step s e) := hl.2.first
    exact ⟨fun he => not_halfOpen_step hl.1 ht he hnext, ih (tripped_step s e ht) hl.2⟩

/-- A run that starts something contains a call. -/
theorem exists_call_of_starts {s : Calls τ} {l : List (Event τ)} (h : 0 < starts s l) :
    ∃ l₁ t clock l₂, l = l₁ ++ .call t clock :: l₂ := by
  induction l generalizing s with
  | nil => exact absurd h (by simp [starts])
  | cons e l ih =>
    cases e with
    | call t clock => exact ⟨[], t, clock, l, rfl⟩
    | _ =>
      obtain ⟨l₁, t, clock, l₂, rfl⟩ := ih (by simpa [starts, Starts] using h)
      exact ⟨_ :: l₁, t, clock, l₂, rfl⟩

/-- **One probe exactly when probes are let be**: over every run of a circuit that starts
closed, at most one protected function is started in `HALF_OPEN` if and only if no call
comes between a probe and the next outcome. -/
theorem oneProbe_iff (name : String) (failureThreshold : ℕ) (recoveryTimeout : ℚ)
    (l : List (Event τ)) :
    OneProbe (.idle (.new name failureThreshold recoveryTimeout)) l ↔
      ProbesLetBe (.idle (.new name failureThreshold recoveryTimeout)) l := by
  generalize hs : Calls.idle (.new name failureThreshold recoveryTimeout) = s
  have hstart : Tripped s := by
    rw [← hs]
    exact fun hne => absurd rfl hne
  have htripped : ∀ l₁, Tripped (run step s l₁) := fun l₁ =>
    (throughout_of_step tripped_step hstart l₁).last
  constructor
  · rintro hone l₁ t clock l₂ t' clock' l₃ rfl hdue hquiet
    -- the circuit is half open from the probe up to the second call, and past it
    have hopens : HalfOpens (run step s l₁) (.call t clock) :=
      halfOpens_iff.mpr ⟨t, clock, rfl, hdue⟩
    have hhalf := throughout_halfOpen hopens.2 hquiet
    have hlast : HalfOpen (step (run step (step (run step s l₁) (.call t clock)) l₂)
        (.call t' clock')) := halfOpen_step hhalf.last (fun h => h.elim)
    have hcount := hone l₁ (.call t clock) (l₂ ++ [.call t' clock']) l₃ (by simp) hopens
      (throughout_append.mpr ⟨hhalf, throughout_cons.mpr ⟨hhalf.last, throughout_nil.mpr hlast⟩⟩)
    rw [starts, if_pos (starts_of_due hdue), starts_append, starts,
      if_pos (starts_of_halfOpen hhalf.last t' clock')] at hcount
    omega
  · intro hbe l₁ e l₂ l₃ hl hopens hhalf
    obtain ⟨t, clock, rfl, hdue⟩ := halfOpens_iff.mp hopens
    -- no call follows while the circuit is half open
    have hnone : starts (step (run step s l₁) (.call t clock)) l₂ = 0 := by
      by_contra hne
      obtain ⟨l₄, t', clock', l₅, rfl⟩ := exists_call_of_starts (Nat.pos_of_ne_zero hne)
      refine hbe l₁ t clock l₄ t' clock' (l₅ ++ l₃) (by simp [hl]) hdue ?_
      exact allSteps_not_settles (tripped_step _ _ (htripped l₁)) (throughout_append.mp hhalf).1
    rw [starts, hnone]
    split_ifs <;> omega

/-- Three calls fail, and the circuit opens for 300 s. -/
def outage : List (Event ℕ) :=
  [.call 0 ⟨0, 0, 0⟩, .call 1 ⟨0, 0, 0⟩, .call 2 ⟨0, 0, 0⟩, .raised 0 1, .raised 1 1, .raised 2 2]

/-- **Two probes in one half-open phase**: after an outage two callers come back, one second
apart. -/
theorem not_oneProbe :
    ¬OneProbe (.idle buildCircuitBreakers.circl)
      (outage ++ [.call 3 ⟨302, 302, 302⟩, .call 4 ⟨303, 303, 303⟩]) := by
  intro hone
  have hopens : HalfOpens (run step (.idle buildCircuitBreakers.circl) outage)
      (.call 3 ⟨302, 302, 302⟩) :=
    halfOpens_iff.mpr ⟨3, _, rfl, by decide +kernel⟩
  have hcount := hone outage (.call 3 ⟨302, 302, 302⟩) [.call 4 ⟨303, 303, 303⟩] [] rfl hopens
    (throughout_cons.mpr ⟨hopens.2, halfOpen_step hopens.2 fun h => h.elim⟩)
  exact absurd hcount (by decide +kernel)

end Probes

end CveManagement
