import CveManagement.Ingestion.Probes
import CveManagement.Ingestion.Worker

/-!
# The smart delta among other jobs

`run_smart_delta` looks at the VulnCheck circuit, and if it is not open tries the VulnCheck delta;
an exception of that one leads to the NVD delta. Between the look and `CircuitBreaker.call` the
checkpoint is read, and other jobs go on: their calls may open the circuit in that time. Then
`call` raises a `CircuitOpenError`, of which `run_delta_ingest` makes an ordinary result, and
`run_smart_delta` returns it.

An invocation is a list of steps here (`CveManagement.SmartDelta.step`), with the steps of the
other jobs between them. It falls back whenever its attempt does not succeed exactly if it does not
come to `call` when the circuit refuses it (`CveManagement.SmartDelta.fallsBack_iff`).
-/

namespace CveManagement

/-- What became of the VulnCheck attempt of an invocation. -/
inductive Attempt
  /-- There was none. -/
  | skipped
  | completed
  /-- An exception. -/
  | failed (error : String)
  /-- A `CircuitOpenError`. -/
  | refused

/-- Where an invocation is. -/
inductive SmartPhase
  | deciding
  /-- Before `_get_last_mod_date`. -/
  | reading
  /-- Before `circuit.call`. -/
  | calling (lastMod : Option Instant)
  /-- The protected function is running. -/
  | fetching (lastMod : Option Instant)
  /-- Before `_checkpoint`. -/
  | finishing (counts : ℕ × ℕ)
  /-- Before `run_nvd_delta_ingest`. -/
  | fallingBack (attempt : Attempt)
  /-- The result of the VulnCheck delta is returned. -/
  | returned (attempt : Attempt) (result : IngestResult)
  /-- The NVD delta has been run. -/
  | nvdDelta (attempt : Attempt) (outcome : Except String IngestResult)

/-- The steps that an invocation has before it at most. -/
def SmartPhase.left : SmartPhase → ℕ
  | .deciding => 6
  | .reading => 5
  | .calling _ => 4
  | .fetching _ => 3
  | .finishing _ => 2
  | .fallingBack _ => 1
  | .returned .. => 0
  | .nvdDelta .. => 0

/-- The result or the exception of an invocation that is at its end. -/
def SmartPhase.outcome : SmartPhase → Option (Except String IngestResult)
  | .returned _ result => some (.ok result)
  | .nvdDelta _ outcome => some outcome
  | _ => none

/-- What an invocation meets with: a VulnCheck client or none, and the outside world of the two
deltas. -/
structure SmartEnv where
  vulncheck : Option IngestEnv
  nvd : IngestEnv

/-- **An invocation among other jobs**: the two circuits with the calls of the others, the store,
and where the invocation is. -/
structure SmartDelta (τ : Type) where
  vulncheck : Probes.Calls τ
  nvd : Probes.Calls τ
  store : IngestStore
  phase : SmartPhase

namespace SmartDelta

open Trajectory

variable {τ : Type} [DecidableEq τ] (env : SmartEnv)

/-- Whose step it is. -/
inductive Event (τ : Type)
  /-- The invocation goes on. -/
  | go
  /-- A call of another job through the VulnCheck circuit goes on. -/
  | vulncheck (e : Probes.Event τ)
  /-- A call of another job through the NVD circuit goes on. -/
  | nvd (e : Probes.Event τ)
  /-- Another job writes to the database. -/
  | write (store : IngestStore)

/-- The source of the VulnCheck delta. -/
def source : String := "vulncheck_nvd"

/-- **The next step of `run_delta_ingest`**, within the invocation. -/
def deltaStep (vulncheck : IngestEnv) (s : SmartDelta τ) : SmartDelta τ :=
  match s.phase with
  | .reading =>
    match vulncheck.readFails with
    | some e => { s with phase := .fallingBack (.failed e) }
    | none => { s with phase := .calling (getLastModDate s.store.syncState source) }
  | .calling lastMod =>
    match s.vulncheck.circuit.enter vulncheck.call with
    -- `except CircuitOpenError` returns
    | .error _ => { s with phase := .returned .refused ⟨source, 0, 1, 0⟩ }
    | .ok b => { s with vulncheck := { s.vulncheck with circuit := b }, phase := .fetching lastMod }
  | .fetching lastMod =>
    let written := upsertBatched source vulncheck.clock vulncheck.fails (vulncheck.stream lastMod)
      s.store.cves
    let store := { s.store with cves := written.1 }
    match written.2 with
    | .error e =>
      { s with
        vulncheck := { s.vulncheck with
          circuit := s.vulncheck.circuit.onFailure vulncheck.call.failedAt }
        store := store.recordError source vulncheck e
        phase := .fallingBack (.failed e) }
    | .ok counts =>
      { s with
        vulncheck := { s.vulncheck with circuit := s.vulncheck.circuit.onSuccess }
        store := store
        phase := .finishing counts }
  | .finishing counts =>
    match vulncheck.checkpointFails with
    | some e => { s with phase := .fallingBack (.failed e) }
    | none =>
      { s with
        store := { s.store with
          syncState := checkpoint vulncheck.clock source vulncheck.clock counts.1
            s.store.syncState }
        phase := .returned .completed ⟨source, counts.1, counts.2,
          ⌊(vulncheck.finishedAt - vulncheck.startedAt) * 1000⌋⟩ }
  | _ => s

/-- **The next step of `run_smart_delta`.** -/
def goOn (s : SmartDelta τ) : SmartDelta τ :=
  match s.phase with
  | .deciding =>
    if env.vulncheck.isSome ∧ s.vulncheck.circuit.state ≠ .opened then { s with phase := .reading }
    else { s with phase := .fallingBack .skipped }
  | .fallingBack attempt =>
    let run := runNvdDeltaIngest env.nvd s.nvd.circuit s.store
    { s with
      nvd := { s.nvd with circuit := run.circuit }
      store := run.store
      phase := .nvdDelta attempt run.outcome }
  | _ => env.vulncheck.elim s fun vulncheck => s.deltaStep vulncheck

/-- **One step.** -/
def step (s : SmartDelta τ) : Event τ → SmartDelta τ
  | .go => s.goOn env
  | .vulncheck e => { s with vulncheck := Probes.step s.vulncheck e }
  | .nvd e => { s with nvd := Probes.step s.nvd e }
  | .write store => { s with store := store }

/-- **The fallback**: an invocation that returns without the NVD delta has completed the VulnCheck
delta. -/
def FallsBack (s : SmartDelta τ) : Prop :=
  ∀ attempt result, s.phase = .returned attempt result → attempt = .completed

/-- **The invocation is not refused**: if it comes to `circuit.call`, the circuit lets it
through. -/
def LetThrough (s : SmartDelta τ) : Event τ → Prop
  | .go => ∀ lastMod vulncheck, s.phase = .calling lastMod → env.vulncheck = some vulncheck →
      ¬s.vulncheck.circuit.Refuses vulncheck.call.admittedAt
  | _ => True

/-- The invocation begins. -/
def start (vulncheck nvd : Probes.Calls τ) (store : IngestStore) : SmartDelta τ :=
  ⟨vulncheck, nvd, store, .deciding⟩

/-! ### One step -/

section Step

variable {env} {s : SmartDelta τ} {vulncheck : IngestEnv}

omit [DecidableEq τ] in
/-- **A step of the VulnCheck delta** that is not a refused call leads to a completed delta, or does
not return. -/
theorem fallsBack_deltaStep_iff (h : FallsBack s) :
    FallsBack (s.deltaStep vulncheck) ↔ ∀ lastMod, s.phase = .calling lastMod →
      ¬s.vulncheck.circuit.Refuses vulncheck.call.admittedAt := by
  unfold deltaStep
  split
  next hphase =>
    -- the checkpoint is read
    refine iff_of_true ?_ fun lastMod hcalling => by rw [hphase] at hcalling; cases hcalling
    split
    · exact fun _ _ hreturned => by cases hreturned
    · exact fun _ _ hreturned => by cases hreturned
  next lastMod hphase =>
    by_cases hrefuses : s.vulncheck.circuit.Refuses vulncheck.call.admittedAt
    · rw [CircuitBreaker.enter_of_refuses hrefuses]
      refine iff_of_false (fun hfalls => ?_) fun hlet => hlet lastMod hphase hrefuses
      cases hfalls .refused _ rfl
    · obtain ⟨b, hb⟩ := CircuitBreaker.enter_of_not_refuses hrefuses
      rw [hb]
      exact iff_of_true (fun _ _ hreturned => by cases hreturned) fun _ _ => hrefuses
  next lastMod hphase =>
    refine iff_of_true ?_ fun lastMod hcalling => by rw [hphase] at hcalling; cases hcalling
    dsimp only
    split
    · exact fun _ _ hreturned => by cases hreturned
    · exact fun _ _ hreturned => by cases hreturned
  next counts hphase =>
    refine iff_of_true ?_ fun lastMod hcalling => by rw [hphase] at hcalling; cases hcalling
    split
    · exact fun _ _ hreturned => by cases hreturned
    · intro attempt result hreturned
      cases hreturned
      rfl
  next hread hcalling hfetching hfinishing =>
    exact iff_of_true h fun lastMod hphase => absurd hphase (hcalling lastMod)

/-- **One step** keeps the promise of the fallback exactly if it is not a refused call. -/
theorem fallsBack_step_iff (s : SmartDelta τ) (e : Event τ) (h : FallsBack s) :
    FallsBack (step env s e) ↔ LetThrough env s e := by
  cases e with
  | vulncheck e => exact iff_of_true h trivial
  | nvd e => exact iff_of_true h trivial
  | write store => exact iff_of_true h trivial
  | go =>
    rw [step, goOn, LetThrough]
    split
    next hphase =>
      refine iff_of_true ?_ fun lastMod _ hcalling => by rw [hphase] at hcalling; cases hcalling
      split_ifs
      · exact fun _ _ hreturned => by cases hreturned
      · exact fun _ _ hreturned => by cases hreturned
    next attempt hphase =>
      refine iff_of_true ?_ fun lastMod _ hcalling => by rw [hphase] at hcalling; cases hcalling
      exact fun _ _ hreturned => by cases hreturned
    next =>
      cases henv : env.vulncheck with
      | none => exact iff_of_true h fun _ _ _ hsome => by cases hsome
      | some vulncheck =>
        rw [Option.elim_some, fallsBack_deltaStep_iff h]
        constructor
        · rintro hlet lastMod _ hphase ⟨⟩
          exact hlet lastMod hphase
        · exact fun hlet lastMod hphase => hlet lastMod vulncheck hphase rfl

end Step

/-! ### Runs -/

/-- **When the smart delta falls back**: in every interleaving, from any state of the two circuits,
it does not return without the NVD delta unless it has completed its VulnCheck attempt, exactly if
the circuit does not refuse the call that the invocation comes to. -/
theorem fallsBack_iff (vulncheck nvd : Probes.Calls τ) (store : IngestStore) (l : List (Event τ)) :
    Throughout (step env) FallsBack (start vulncheck nvd store) l ↔
      AllSteps (step env) (LetThrough env) (start vulncheck nvd store) l :=
  throughout_iff_allSteps (J := fun _ => True) (fun _ _ _ => trivial)
    (fun s e _ h => fallsBack_step_iff s e h) trivial fun _ _ hreturned => by cases hreturned

/-- The invocation is on its way to `circuit.call`. -/
def OnTheWay (s : SmartDelta τ) : Prop :=
  s.phase = .reading ∨ ∃ lastMod, s.phase = .calling lastMod

/-- **No other job opens the circuit** while the invocation is on its way. -/
def Undisturbed (s : SmartDelta τ) : Event τ → Prop
  | .vulncheck e => s.OnTheWay → (Probes.step s.vulncheck e).circuit.state ≠ .opened
  | _ => True

/-- The circuit is not open when an invocation is on its way. -/
def Admitted (s : SmartDelta τ) : Prop := s.OnTheWay → s.vulncheck.circuit.state ≠ .opened

omit [DecidableEq τ] in
theorem left_of_onTheWay {s : SmartDelta τ} (h : s.OnTheWay) :
    s.phase.left = 5 ∨ s.phase.left = 4 := by
  rcases h with hreading | ⟨_, hcalling⟩
  · exact .inl (by rw [hreading]; rfl)
  · exact .inr (by rw [hcalling]; rfl)

theorem admitted_step (s : SmartDelta τ) (e : Event τ) (h : Admitted s) (he : Undisturbed s e) :
    Admitted (step env s e) := by
  cases e with
  | vulncheck e => exact he
  | nvd e => exact h
  | write store => exact h
  | go =>
    rw [step, goOn]
    split
    next hphase =>
      split_ifs with hlook
      · exact fun _ => hlook.2
      · exact fun hway => absurd (left_of_onTheWay hway) (by simp [SmartPhase.left])
    next => exact fun hway => absurd (left_of_onTheWay hway) (by simp [SmartPhase.left])
    next =>
      cases env.vulncheck with
      | none => exact h
      | some vulncheck =>
        rw [Option.elim_some, deltaStep]
        split
        next hphase =>
          -- the circuit is as it was at the look
          split
          · exact fun hway => absurd (left_of_onTheWay hway) (by simp [SmartPhase.left])
          · exact fun _ => h (.inl hphase)
        next => split <;>
            exact fun hway => absurd (left_of_onTheWay hway) (by simp [SmartPhase.left])
        next =>
          dsimp only
          split <;>
            exact fun hway => absurd (left_of_onTheWay hway) (by simp [SmartPhase.left])
        next => split <;>
            exact fun hway => absurd (left_of_onTheWay hway) (by simp [SmartPhase.left])
        next => exact h

/-- **It takes another job to keep the invocation from falling back**: one that opens the circuit
after the invocation has looked at it. -/
theorem letThrough_of_undisturbed (vulncheck nvd : Probes.Calls τ) (store : IngestStore)
    (l : List (Event τ)) (h : AllSteps (step env) Undisturbed (start vulncheck nvd store) l) :
    AllSteps (step env) (LetThrough env) (start vulncheck nvd store) l := by
  have hstart : Admitted (start vulncheck nvd store) :=
    fun hway => absurd (left_of_onTheWay hway) (by simp [start, SmartPhase.left])
  refine (throughout_of_allSteps (admitted_step env) hstart h).allSteps fun s e hadmitted => ?_
  cases e with
  | go => exact fun lastMod _ hphase _ hrefuses => hadmitted (.inr ⟨lastMod, hphase⟩) hrefuses.1
  | _ => trivial

/-! ### The end of an invocation -/

/-- An invocation that has looked at its client has one. -/
def HasClient (s : SmartDelta τ) : Prop :=
  2 ≤ s.phase.left → s.phase.left ≤ 5 → env.vulncheck.isSome = true

section Left

variable {env} {s : SmartDelta τ} {vulncheck : IngestEnv}

omit [DecidableEq τ] in
theorem left_deltaStep (hlow : 2 ≤ s.phase.left) (hhigh : s.phase.left ≤ 5) :
    (s.deltaStep vulncheck).phase.left < s.phase.left := by
  unfold deltaStep
  split
  next hphase =>
    rw [hphase]
    split <;> simp [SmartPhase.left]
  next hphase =>
    rw [hphase]
    split <;> simp [SmartPhase.left]
  next hphase =>
    rw [hphase]
    dsimp only
    split <;> simp [SmartPhase.left]
  next hphase =>
    rw [hphase]
    split <;> simp [SmartPhase.left]
  next hreading hcalling hfetching hfinishing =>
    -- no other phase is between the look and the end
    exfalso
    cases hphase : s.phase with
    | deciding => simp [hphase, SmartPhase.left] at hhigh
    | reading => exact hreading hphase
    | calling lastMod => exact hcalling lastMod hphase
    | fetching lastMod => exact hfetching lastMod hphase
    | finishing counts => exact hfinishing counts hphase
    | fallingBack attempt => simp [hphase, SmartPhase.left] at hlow
    | returned attempt result => simp [hphase, SmartPhase.left] at hlow
    | nvdDelta attempt outcome => simp [hphase, SmartPhase.left] at hlow

omit [DecidableEq τ] in
/-- **Each step of the invocation brings it nearer to its end.** -/
theorem left_goOn (h : HasClient env s) (hleft : 0 < s.phase.left) :
    (s.goOn env).phase.left < s.phase.left := by
  unfold goOn
  split
  next hphase =>
    rw [hphase]
    split_ifs <;> simp [SmartPhase.left]
  next hphase =>
    rw [hphase]
    simp [SmartPhase.left]
  next hdeciding hfalling =>
    have hlow : 2 ≤ s.phase.left ∧ s.phase.left ≤ 5 := by
      cases hphase : s.phase with
      | deciding => exact absurd hphase hdeciding
      | fallingBack attempt => exact absurd hphase (hfalling attempt)
      | returned attempt result => simp [hphase, SmartPhase.left] at hleft
      | nvdDelta attempt outcome => simp [hphase, SmartPhase.left] at hleft
      | _ => simp [SmartPhase.left]
    obtain ⟨vulncheck, henv⟩ := Option.isSome_iff_exists.mp (h hlow.1 hlow.2)
    rw [henv, Option.elim_some]
    exact left_deltaStep hlow.1 hlow.2

omit [DecidableEq τ] in
/-- Without a client the invocation goes to the NVD delta, and nowhere else. -/
theorem goOn_of_none (henv : env.vulncheck = none) :
    (s.goOn env).phase.left ≤ 1 ∨ s.goOn env = s := by
  unfold goOn
  rw [henv]
  split
  · exact .inl (by simp [SmartPhase.left])
  · exact .inl (by simp [SmartPhase.left])
  · exact .inr rfl

omit [DecidableEq τ] in
/-- An invocation that is at its end stays there. -/
theorem goOn_of_ended (h : s.phase.left = 0) : s.goOn env = s := by
  have hdelta : ∀ vulncheck, s.deltaStep vulncheck = s := by
    intro vulncheck
    unfold deltaStep
    split
    next hphase => simp [hphase, SmartPhase.left] at h
    next hphase => simp [hphase, SmartPhase.left] at h
    next hphase => simp [hphase, SmartPhase.left] at h
    next hphase => simp [hphase, SmartPhase.left] at h
    next => rfl
  unfold goOn
  split
  next hphase => simp [hphase, SmartPhase.left] at h
  next hphase => simp [hphase, SmartPhase.left] at h
  next =>
    cases env.vulncheck with
    | none => rfl
    | some vulncheck => exact hdelta vulncheck

theorem hasClient_step (s : SmartDelta τ) (e : Event τ) (h : HasClient env s) :
    HasClient env (step env s e) := by
  cases e with
  | vulncheck e => exact h
  | nvd e => exact h
  | write store => exact h
  | go =>
    intro hlow hhigh
    by_contra hnone
    have hstep : step env s .go = s.goOn env := rfl
    rw [hstep] at hlow hhigh
    rcases goOn_of_none (s := s) (Option.not_isSome_iff_eq_none.mp hnone) with hleft | hsame
    · omega
    · rw [hsame] at hlow hhigh
      exact hnone (h hlow hhigh)

/-- A step of the invocation. -/
def isGo : Event τ → Bool
  | .go => true
  | _ => false

theorem left_step_le (s : SmartDelta τ) (e : Event τ) (h : HasClient env s) :
    (step env s e).phase.left ≤ s.phase.left - if isGo e then 1 else 0 := by
  cases e with
  | go =>
    have hstep : step env s .go = s.goOn env := rfl
    rw [hstep, isGo, if_pos rfl]
    rcases Nat.eq_zero_or_pos s.phase.left with hzero | hpos
    · rw [goOn_of_ended hzero, hzero]
    · have hlower := left_goOn h hpos
      omega
  | _ => exact le_refl _

theorem left_run_le (s : SmartDelta τ) (l : List (Event τ)) (h : HasClient env s) :
    (run (step env) s l).phase.left ≤ s.phase.left - l.countP isGo := by
  induction l generalizing s with
  | nil => exact le_refl _
  | cons e l ih =>
    have hstep := left_step_le s e h
    have hrest := ih (step env s e) (hasClient_step s e h)
    rw [run_cons, List.countP_cons]
    split_ifs at hstep ⊢ <;> omega

/-- **After six steps of its own an invocation is at its end**, whatever the others do. -/
theorem left_run_eq_zero (vulncheck nvd : Probes.Calls τ) (store : IngestStore)
    (l : List (Event τ)) (hsix : 6 ≤ l.countP isGo) :
    (run (step env) (start vulncheck nvd store) l).phase.left = 0 := by
  have hclient : HasClient env (start vulncheck nvd store) := fun _ hhigh =>
    absurd hhigh (by simp [start, SmartPhase.left])
  have hrun := left_run_le (start vulncheck nvd store) l hclient
  have hleft : (start vulncheck nvd store).phase.left = 6 := rfl
  omega

end Left

/-! ### An invocation alone -/

section Alone

variable {env} {s : SmartDelta τ} {vulncheck : IngestEnv} {attempt : Attempt}

theorem run_ended (h : s.phase.left = 0) (n : ℕ) :
    run (step env) s (List.replicate n .go) = s := by
  refine run_eq_self fun e he => ?_
  rw [List.eq_of_mem_replicate he]
  exact goOn_of_ended h

/-- Before the NVD delta the invocation ends with what that one leaves. -/
theorem run_fallingBack (h : s.phase = .fallingBack attempt) (n : ℕ) :
    run (step env) s (List.replicate (n + 1) .go) =
      { s with
        nvd := { s.nvd with circuit := (runNvdDeltaIngest env.nvd s.nvd.circuit s.store).circuit }
        store := (runNvdDeltaIngest env.nvd s.nvd.circuit s.store).store
        phase := .nvdDelta attempt
          (runNvdDeltaIngest env.nvd s.nvd.circuit s.store).outcome } := by
  rw [List.replicate_succ, run_cons, step, goOn, h]
  exact run_ended rfl n

/-- **What an invocation leaves behind** is what `run_smart_delta` leaves behind. -/
def Leaves (s : SmartDelta τ) (smart : SmartRun) : Prop :=
  s.phase.outcome = some smart.outcome ∧ s.store = smart.store ∧
    s.vulncheck.circuit = smart.circuits.vulncheck ∧ s.nvd.circuit = smart.circuits.nvd

theorem leaves_usingNvd (h : s.phase = .fallingBack attempt) (n : ℕ) {circuits : CircuitBreakers}
    {run' : Option IngestRun} (hvulncheck : s.vulncheck.circuit = circuits.vulncheck)
    (hnvd : s.nvd.circuit = circuits.nvd) :
    Leaves (run (step env) s (List.replicate (n + 1) .go))
      (usingNvd env.nvd circuits s.store run') := by
  rw [run_fallingBack h, usingNvd, ← hnvd]
  exact ⟨rfl, rfl, hvulncheck, rfl⟩

end Alone

/-- A step of the VulnCheck delta, as one of the invocation. -/
theorem run_delta {s : SmartDelta τ} {vulncheck : IngestEnv} (henv : env.vulncheck = some vulncheck)
    (hlow : 2 ≤ s.phase.left) (hhigh : s.phase.left ≤ 5) (n : ℕ) :
    run (step env) s (List.replicate (n + 1) .go) =
      run (step env) (s.deltaStep vulncheck) (List.replicate n .go) := by
  have hstep : step env s .go = s.deltaStep vulncheck := by
    rw [step, goOn]
    split
    next hphase => simp [hphase, SmartPhase.left] at hhigh
    next hphase => simp [hphase, SmartPhase.left] at hlow
    next => rw [henv, Option.elim_some]
  rw [List.replicate_succ, run_cons, hstep]

omit [DecidableEq τ] in
/-- With a client and a circuit that is not open the VulnCheck delta is tried. -/
theorem goOn_deciding {s : SmartDelta τ} (hphase : s.phase = .deciding) : s.goOn env =
    if env.vulncheck.isSome ∧ s.vulncheck.circuit.state ≠ .opened then { s with phase := .reading }
    else { s with phase := .fallingBack .skipped } := by
  rw [goOn, hphase]

/-- Five steps are what is left of `run_smart_delta` when the VulnCheck delta is tried. -/
theorem leaves_reading {vulncheck : IngestEnv} (henv : env.vulncheck = some vulncheck)
    {circuits : CircuitBreakers} (hopen : circuits.vulncheck.state ≠ .opened)
    (store : IngestStore) :
    Leaves (run (step env)
        { start (.idle circuits.vulncheck) (.idle circuits.nvd) store with phase := .reading }
        (List.replicate 5 (.go : Event τ)))
      (runSmartDelta (some vulncheck) env.nvd circuits store) := by
  rw [runSmartDelta]
  dsimp only
  rw [if_pos hopen, run_delta env henv (by simp [SmartPhase.left]) (by simp [SmartPhase.left]),
    deltaStep, runDeltaIngest, runSince]
  cases hread : vulncheck.readFails with
  | some e => exact leaves_usingNvd rfl 3 rfl rfl
  | none =>
    dsimp only
    rw [run_delta env henv (by simp [SmartPhase.left]) (by simp [SmartPhase.left]), deltaStep,
      runProtected, CircuitBreaker.call]
    dsimp only [start, Probes.Calls.idle]
    by_cases hrefuses : circuits.vulncheck.Refuses vulncheck.call.admittedAt
    · rw [CircuitBreaker.enter_of_refuses hrefuses, run_ended rfl]
      exact ⟨rfl, rfl, rfl, rfl⟩
    · obtain ⟨b, hb⟩ := CircuitBreaker.enter_of_not_refuses hrefuses
      rw [hb]
      dsimp only
      rw [run_delta env henv (by simp [SmartPhase.left]) (by simp [SmartPhase.left]), deltaStep]
      dsimp only [source]
      cases hwritten : (upsertBatched "vulncheck_nvd" vulncheck.clock vulncheck.fails
          (vulncheck.stream (getLastModDate store.syncState "vulncheck_nvd")) store.cves).2 with
      | error e => exact leaves_usingNvd rfl 1 rfl rfl
      | ok counts =>
        dsimp only
        rw [run_delta env henv (by simp [SmartPhase.left]) (by simp [SmartPhase.left]), deltaStep]
        dsimp only
        rw [finishRun]
        cases hcheckpoint : vulncheck.checkpointFails with
        | some e => exact leaves_usingNvd rfl 0 rfl rfl
        | none =>
          rw [run_ended rfl]
          exact ⟨rfl, rfl, rfl, rfl⟩

/-- **Six steps without another job are `run_smart_delta`** as a whole. -/
theorem leaves_runSmartDelta (circuits : CircuitBreakers) (store : IngestStore) :
    Leaves (run (step env) (start (.idle circuits.vulncheck) (.idle circuits.nvd) store)
      (List.replicate 6 (.go : Event τ))) (runSmartDelta env.vulncheck env.nvd circuits store) := by
  rw [List.replicate_succ, run_cons, step, goOn_deciding env rfl]
  cases henv : env.vulncheck with
  | none =>
    rw [if_neg fun hboth => Bool.false_ne_true hboth.1]
    exact leaves_usingNvd rfl 4 rfl rfl
  | some vulncheck =>
    by_cases hopen : circuits.vulncheck.state = .opened
    · have hlook : ¬circuits.vulncheck.state ≠ .opened := not_not.mpr hopen
      rw [if_neg fun hboth => hlook hboth.2, runSmartDelta]
      dsimp only
      rw [if_neg hlook]
      exact leaves_usingNvd rfl 4 rfl rfl
    · rw [if_pos ⟨rfl, hopen⟩]
      exact leaves_reading env henv hopen store

/-! ### A circuit that opens in between -/

/-- A VulnCheck client, and a store without rows. -/
def quietEnv : IngestEnv where
  startedAt := 0
  call := ⟨1, 1, 2⟩
  finishedAt := 2
  clock := 0
  stream _ := .empty
  fails _ := false
  readFails := none
  checkpointFails := none
  recordErrorFails := false

/-- The circuit has counted four failures, and a call of another job is in flight. -/
def nearlyOpen : Probes.Calls ℕ :=
  ⟨{ buildCircuitBreakers.vulncheck with failures := 4 }, [0]⟩

/-- The other call fails after the invocation has looked at the circuit. -/
def overtaken : List (Event ℕ) := [.go, .go, .vulncheck (.raised 0 0)]

/-- **A circuit that opens while the checkpoint is read** keeps the invocation from falling
back. -/
theorem not_fallsBack : ¬∀ (env : SmartEnv) (vulncheck nvd : Probes.Calls ℕ) (store : IngestStore)
    (l : List (Event ℕ)), Throughout (step env) FallsBack (start vulncheck nvd store) l := by
  intro h
  have hall := h ⟨some quietEnv, quietEnv⟩ nearlyOpen (.idle buildCircuitBreakers.nvd)
    ⟨fun _ => none, Table.empty⟩
  have hbefore := (hall overtaken).last
  have hafter := (hall (overtaken ++ [.go])).last
  rw [run_append, run_cons, run_nil] at hafter
  have hrefuses : (Probes.step nearlyOpen (.raised 0 0)).circuit.Refuses 1 := by decide +kernel
  exact (fallsBack_step_iff _ .go hbefore).mp hafter none quietEnv rfl rfl hrefuses

end SmartDelta

end CveManagement
