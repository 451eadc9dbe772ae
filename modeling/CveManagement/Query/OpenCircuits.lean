import CveManagement.Ingestion.Worker
import CveManagement.Library.Trajectory
import CveManagement.Query.Engine

/-!
# Open circuits and their callers

A circuit that is open turns half-open inside `call`, when a caller comes after the
timeout; there is no other way out (`CveManagement.CircuitBreaker.invoked_call_of_due`).
But the two callers that run regularly look at the *state* of the circuit first, and do not
call it while it says `open` – whatever the clock says. So nobody ever makes the probe:
`CveManagement.open_never_left`.
-/

namespace CveManagement

open Trajectory

/-! ### `run_smart_delta` -/

/-- What smart deltas work on. -/
structure SmartState where
  circuits : CircuitBreakers
  store : IngestStore

/-- A run of `run_smart_delta`: what VulnCheck does to it, if there is a client, and what
the NVD does. -/
structure SmartTurn where
  vulncheck : Option IngestEnv
  nvd : IngestEnv

/-- The run. -/
def SmartState.run (s : SmartState) (turn : SmartTurn) : SmartRun :=
  runSmartDelta turn.vulncheck turn.nvd s.circuits s.store

/-- The state after a run. -/
def SmartState.step (s : SmartState) (turn : SmartTurn) : SmartState :=
  ⟨(s.run turn).circuits, (s.run turn).store⟩

/-- The run invokes the call that the circuit of VulnCheck protects. -/
def SmartState.Invokes (s : SmartState) (turn : SmartTurn) : Prop :=
  (s.run turn).vulncheck.any (fun run => run.consumed.isSome) = true

/-- **A smart delta that finds the circuit open** neither calls it nor changes it. -/
theorem smartDelta_of_open {s : SmartState} (h : s.circuits.vulncheck.state = .opened)
    (turn : SmartTurn) :
    ¬s.Invokes turn ∧ (s.step turn).circuits.vulncheck = s.circuits.vulncheck := by
  have hrun : s.run turn = usingNvd turn.nvd s.circuits s.store none := by
    rw [SmartState.run]
    cases turn.vulncheck with
    | none => rfl
    | some env => exact if_neg (not_not_intro h)
  rw [SmartState.Invokes, SmartState.step, hrun]
  exact ⟨by simp [usingNvd], rfl⟩

/-! ### `query_cves_for_product` -/

/-- What queries work on. -/
structure QueryState (σ : Type) where
  circl : Option CircuitBreaker
  store : σ

section Query

variable {σ ρ : Type} (tiers : Tiers σ ρ)

/-- The state after a query. -/
def QueryState.step (s : QueryState σ) (q : Query) : QueryState σ :=
  ⟨(queryCvesForProduct tiers q s.circl s.store).circl,
    (queryCvesForProduct tiers q s.circl s.store).store⟩

/-- The query invokes the call that the circuit of CIRCL protects. -/
def QueryState.Invokes (s : QueryState σ) (q : Query) : Prop :=
  (queryCvesForProduct tiers q s.circl s.store).invoked = true

/-- The circuit of CIRCL is there, and open. -/
def QueryState.Open (s : QueryState σ) : Prop := ∃ b, s.circl = some b ∧ b.state = .opened

/-- **A query that finds the circuit open** neither calls it nor changes it. -/
theorem query_of_open {s : QueryState σ} (h : s.Open) (q : Query) :
    ¬s.Invokes tiers q ∧ (s.step tiers q).circl = s.circl := by
  obtain ⟨b, hb, hopen⟩ := h
  have hany : (s.circl.any fun b => b.state == .opened) = true := by rw [hb]; simp [hopen]
  rw [QueryState.Invokes, QueryState.step, queryCvesForProduct]
  dsimp only
  -- the first tier raises or finds something; otherwise the open circuit ends the query
  cases tiers.queryFindings s.store q.productId (q.filters.getD .default) with
  | error e => exact ⟨by simp, rfl⟩
  | ok result =>
    dsimp only
    by_cases htotal : 0 < result.total
    · rw [if_pos htotal]
      exact ⟨by simp, rfl⟩
    · rw [if_neg htotal, if_pos hany]
      exact ⟨by simp, rfl⟩

end Query

/-! ### Runs of callers -/

/-- **An open circuit is never left**: from a state in which the circuit of VulnCheck
(respectively CIRCL) is open – however long its timeout has passed – no run of smart deltas
(respectively queries) invokes the protected call, and the circuit stays open. -/
theorem open_never_left {σ ρ : Type} (tiers : Tiers σ ρ) (turns : List SmartTurn)
    (queries : List Query) :
    (∀ s : SmartState, s.circuits.vulncheck.state = .opened →
      AllSteps SmartState.step (fun s turn => ¬s.Invokes turn) s turns ∧
        Throughout SmartState.step (fun s => s.circuits.vulncheck.state = .opened) s turns) ∧
    ∀ s : QueryState σ, s.Open →
      AllSteps (QueryState.step tiers) (fun s q => ¬s.Invokes tiers q) s queries ∧
        Throughout (QueryState.step tiers) QueryState.Open s queries := by
  constructor
  · intro s h
    have hstep : ∀ (s : SmartState) turn, s.circuits.vulncheck.state = .opened →
        (s.step turn).circuits.vulncheck.state = .opened := fun s turn h => by
      rw [(smartDelta_of_open h turn).2, h]
    have hopen := throughout_of_step hstep h turns
    exact ⟨hopen.allSteps fun s turn h => (smartDelta_of_open h turn).1, hopen⟩
  · intro s h
    have hstep : ∀ (s : QueryState σ) q, s.Open → (s.step tiers q).Open := fun s q h => by
      rw [QueryState.Open, (query_of_open tiers h q).2]
      exact h
    have hopen := throughout_of_step hstep h queries
    exact ⟨hopen.allSteps fun s q h => (query_of_open tiers h q).1, hopen⟩

/-! ### From startup -/

/-- The state of the callers at startup. -/
def SmartState.startup : SmartState := ⟨buildCircuitBreakers, ⟨fun _ => none, .seeded 0⟩⟩

/-- A run at a time, with a VulnCheck that does not answer and an idle NVD. -/
def unansweredTurn (now : ℚ) : SmartTurn where
  vulncheck := some (env (some "ConnectTimeout"))
  nvd := env none
where
  env (failure : Option String) : IngestEnv := {
    startedAt := now
    call := ⟨now, now, now⟩
    finishedAt := now
    clock := 0
    stream := fun _ => ⟨[], [], failure⟩
    fails := fun _ => false
    readFails := none
    checkpointFails := none
    recordErrorFails := false }

/-- Five runs on which VulnCheck does not answer. -/
def outage : SmartState :=
  run SmartState.step .startup [unansweredTurn 0, unansweredTurn 1, unansweredTurn 2,
    unansweredTurn 3, unansweredTurn 4]

/-- A database that knows no findings, of products with a CPE, and a CIRCL that answers. -/
def emptyTiers : Tiers Unit Unit where
  queryFindings _ _ filters := .ok ⟨[], 0, filters.page, filters.pageSize, .localDb⟩
  getProductCpe _ _ := .ok (some "cpe:2.3:a:f5:nginx:1.25.1:*:*:*:*:*:*:*")
  fetchAndStore _ _ _ := (.ok 1, ())

/-- The state of a query when the circuit of CIRCL has opened at the time 0. -/
def circlOpened : QueryState Unit :=
  ⟨some { buildCircuitBreakers.circl with failures := 3, state := .opened, openUntil := 300 }, ()⟩

/-- After the outage nothing is asked of VulnCheck in the next two hours, nor of CIRCL in
an hour. -/
theorem outage_not_probed :
    AllSteps SmartState.step (fun s turn => ¬s.Invokes turn) outage
        [unansweredTurn 3600, unansweredTurn 7200] ∧
      AllSteps (QueryState.step emptyTiers) (fun s q => ¬s.Invokes emptyTiers q) circlOpened
        [⟨1, none, true, ⟨3600, 3600, 3600⟩⟩] := by
  have hnever := open_never_left emptyTiers [unansweredTurn 3600, unansweredTurn 7200]
    [⟨1, none, true, ⟨3600, 3600, 3600⟩⟩]
  exact ⟨(hnever.1 outage (by decide)).1, (hnever.2 circlOpened ⟨_, rfl, rfl⟩).1⟩

/-- **An open circuit need not be probed**: an hour after the outage, with a client at
hand and the probe long due, `run_smart_delta` goes straight to the NVD. -/
theorem exists_not_probed :
    ∃ (l : List SmartTurn) (turn : SmartTurn) (vc : IngestEnv), turn.vulncheck = some vc ∧
      (run SmartState.step .startup l).circuits.vulncheck.ProbeDue vc.call.admittedAt ∧
        ¬(run SmartState.step .startup l).Invokes turn :=
  ⟨[unansweredTurn 0, unansweredTurn 1, unansweredTurn 2, unansweredTurn 3, unansweredTurn 4],
    unansweredTurn 3600, unansweredTurn.env 3600 (some "ConnectTimeout"), rfl, by decide +kernel,
    (smartDelta_of_open (by decide) _).1⟩

end CveManagement
