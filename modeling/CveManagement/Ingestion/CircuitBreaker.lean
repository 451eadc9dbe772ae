import Mathlib.Algebra.Order.Ring.Rat
import Mathlib.Data.Rat.Floor

/-!
# The circuit breaker

`CircuitBreaker` of `app/ingestion/circuit_breaker.py`: closed it counts failures, open it
refuses calls for `recovery_timeout` seconds, and after that one call is let through as a
probe. `CircuitBreaker.call` is made of three steps that each hold the lock –
`CircuitBreaker.enter` before the protected call, `CircuitBreaker.onSuccess` or
`CircuitBreaker.onFailure` after it – and each reads the monotonic clock for itself.

Taken alone the breaker does recover: `CircuitBreaker.invoked_call_of_due` says that the
first call after the timeout goes through.
-/

namespace CveManagement

/-- `CircuitState`. -/
inductive CircuitState
  | closed
  | opened
  | halfOpen
  deriving DecidableEq, Repr

/-- `CircuitBreaker`; times are seconds of the monotonic clock. -/
structure CircuitBreaker where
  name : String
  failureThreshold : ℕ
  recoveryTimeout : ℚ
  failures : ℕ
  state : CircuitState
  openUntil : ℚ

/-- How a call through a circuit fails: it is refused, or the protected call raises. -/
inductive CallError
  | circuitOpen (name : String) (retryIn : ℚ)
  | raised (error : String)

/-- The text of a number of seconds as `:.0f` prints it: rounded, ties to even. -/
def formatSeconds (q : ℚ) : String :=
  let n := ⌊q⌋
  let r := q - n
  toString (if r < 1 / 2 then n else if 1 / 2 < r then n + 1 else if n % 2 = 0 then n else n + 1)

/-- `str(exc)`. -/
def CallError.text : CallError → String
  | .circuitOpen name retryIn =>
    "Circuit '" ++ name ++ "' is OPEN (retry in " ++ formatSeconds retryIn ++ "s)"
  | .raised error => error

/-- The clock readings of a call: when it is admitted, a second one if it is refused, for
the message, and when it fails. -/
structure CallClock where
  admittedAt : ℚ
  refusedAt : ℚ
  failedAt : ℚ

/-- What a call leaves behind: the circuit, whether the protected call was invoked, and
the result. -/
structure CallResult (α : Type) where
  circuit : CircuitBreaker
  invoked : Bool
  result : Except CallError α

namespace CircuitBreaker

/-- A new circuit. -/
def new (name : String) (failureThreshold : ℕ) (recoveryTimeout : ℚ) : CircuitBreaker :=
  ⟨name, failureThreshold, recoveryTimeout, 0, .closed, 0⟩

/-- The first locked section of `call`. -/
def enter (b : CircuitBreaker) (clock : CallClock) : Except CallError CircuitBreaker :=
  if b.state = .opened then
    if clock.admittedAt < b.openUntil then
      .error (.circuitOpen b.name (b.openUntil - clock.refusedAt))
    else .ok { b with state := .halfOpen }
  else .ok b

/-- `_on_success`. -/
def onSuccess (b : CircuitBreaker) : CircuitBreaker :=
  if b.state = .halfOpen ∨ b.state = .closed then { b with failures := 0, state := .closed } else b

/-- `_on_failure`. -/
def onFailure (b : CircuitBreaker) (now : ℚ) : CircuitBreaker :=
  if b.failureThreshold ≤ b.failures + 1 then
    { b with failures := b.failures + 1, state := .opened, openUntil := now + b.recoveryTimeout }
  else { b with failures := b.failures + 1 }

/-- **`call`**, of a protected call with a known outcome and no other call in between. -/
def call {α : Type} (b : CircuitBreaker) (clock : CallClock) (fn : Except String α) :
    CallResult α :=
  match b.enter clock with
  | .error e => ⟨b, false, .error e⟩
  | .ok b' =>
    match fn with
    | .ok a => ⟨b'.onSuccess, true, .ok a⟩
    | .error e => ⟨b'.onFailure clock.failedAt, true, .error (.raised e)⟩

/-- The circuit refuses calls at this time. -/
def Refuses (b : CircuitBreaker) (now : ℚ) : Prop := b.state = .opened ∧ now < b.openUntil

instance (b : CircuitBreaker) (now : ℚ) : Decidable (b.Refuses now) :=
  inferInstanceAs (Decidable (_ ∧ _))

section Call

variable {α : Type} {b : CircuitBreaker} {clock : CallClock} {fn : Except String α}

theorem enter_of_refuses (h : b.Refuses clock.admittedAt) :
    b.enter clock = .error (.circuitOpen b.name (b.openUntil - clock.refusedAt)) := by
  rw [enter, if_pos h.1, if_pos h.2]

theorem enter_of_not_refuses (h : ¬b.Refuses clock.admittedAt) :
    ∃ b', b.enter clock = .ok b' := by
  rw [enter]
  by_cases hopen : b.state = .opened
  · rw [if_pos hopen, if_neg fun hlt => h ⟨hopen, hlt⟩]
    exact ⟨_, rfl⟩
  · rw [if_neg hopen]
    exact ⟨_, rfl⟩

/-- A refused call leaves everything as it is. -/
theorem call_of_refuses (h : b.Refuses clock.admittedAt) :
    b.call clock fn =
      ⟨b, false, .error (.circuitOpen b.name (b.openUntil - clock.refusedAt))⟩ := by
  rw [call, enter_of_refuses h]

/-- **What is not refused is invoked**, and comes back with the outcome of the protected
call. -/
theorem call_of_not_refuses (h : ¬b.Refuses clock.admittedAt) :
    (b.call clock fn).invoked = true ∧ (b.call clock fn).result = fn.mapError .raised := by
  obtain ⟨b', hb'⟩ := enter_of_not_refuses h
  rw [call, hb']
  cases fn <;> exact ⟨rfl, rfl⟩

/-- **A call that succeeds closes the circuit.** -/
theorem state_call_ok (h : ¬b.Refuses clock.admittedAt) (a : α) :
    (b.call clock (.ok a)).circuit.state = .closed := by
  have hentered : ∀ b', b.enter clock = .ok b' →
      b'.state = .halfOpen ∨ b'.state = .closed := by
    intro b' hb'
    rw [enter] at hb'
    by_cases hopen : b.state = .opened
    · rw [if_pos hopen, if_neg fun hlt => h ⟨hopen, hlt⟩] at hb'
      cases hb'
      exact .inl rfl
    · rw [if_neg hopen] at hb'
      cases hb'
      cases hst : b.state with
      | closed => exact .inr rfl
      | opened => exact absurd hst hopen
      | halfOpen => exact .inl rfl
  obtain ⟨b', hb'⟩ := enter_of_not_refuses h
  rw [call, hb']
  dsimp only
  rw [onSuccess, if_pos (hentered b' hb')]

/-- A probe is due: the circuit is open, and its timeout has passed. -/
def ProbeDue (b : CircuitBreaker) (now : ℚ) : Prop := b.state = .opened ∧ b.openUntil ≤ now

instance (b : CircuitBreaker) (now : ℚ) : Decidable (b.ProbeDue now) :=
  inferInstanceAs (Decidable (_ ∧ _))

/-- **A circuit that is called when a probe is due lets the call through.** -/
theorem invoked_call_of_due (h : b.ProbeDue clock.admittedAt) :
    (b.call clock fn).invoked = true :=
  (call_of_not_refuses fun hr => absurd hr.2 (not_lt.mpr h.2)).1

end Call

end CircuitBreaker

/-- `build_circuit_breakers`, by the names of the registry. -/
structure CircuitBreakers where
  vulncheck : CircuitBreaker
  nvd : CircuitBreaker
  circl : CircuitBreaker
  epss : CircuitBreaker
  kev : CircuitBreaker
  vulnx : CircuitBreaker

/-- The registry at startup. -/
def buildCircuitBreakers : CircuitBreakers where
  vulncheck := .new "vulncheck" 5 60
  nvd := .new "nvd" 5 120
  circl := .new "circl" 3 300
  epss := .new "epss" 3 60
  kev := .new "kev" 3 3600
  vulnx := .new "vulnx" 5 180

end CveManagement
