import CveManagement.Governance.Effects
import CveManagement.Library.Trajectory
import Mathlib.Logic.Function.Basic

/-!
# Concurrent decisions on one acceptance

`decide_risk_acceptance` reads the acceptance and checks that it is pending, and later,
in a transaction of its own, writes the decision – without looking again. Here any number
of such requests on one acceptance run concurrently: `CveManagement.Race` is the database
with the progress of each request, and a schedule says whose turn it is. A turn is a
reading half or a writing half, whichever is next.

What is wanted (`CveManagement.DecidedOnce`) is that one request at most gets to write,
and that an approval which was written is what the acceptance says in the end. It holds
exactly when every write still finds the acceptance pending
(`CveManagement.decidedOnce_iff`), which is what the missing condition of the `UPDATE`
would see to.
-/

namespace CveManagement

open Trajectory

/-! ### The race -/

/-- A request to decide on an acceptance. -/
structure DecisionRequest where
  productId : ℕ
  cveId : String
  body : RiskAcceptanceDecision
  user : AuthUser

/-- How far a request has come. -/
inductive Progress
  /-- It has not read yet. -/
  | waiting
  /-- It has passed its checks. -/
  | checked (d : Decision)
  /-- It has been refused. -/
  | refused (e : ApiError)
  /-- Its decision is written. -/
  | committed (d : Decision)

/-- The database and the requests on it. -/
structure Race (ι : Type) where
  db : Db
  progress : ι → Progress

variable {ι : Type}

/-- All requests are still to come. -/
def Race.start (db : Db) : Race ι := ⟨db, fun _ => .waiting⟩

variable [DecidableEq ι]

/-- **One turn**: request `i` takes its next step at a point in time. -/
def advance (aid : ℕ) (requests : ι → DecisionRequest) (s : Race ι) (turn : ι × Instant) :
    Race ι :=
  match s.progress turn.1 with
  | .waiting =>
    let r := requests turn.1
    match decideRead r.productId r.cveId aid r.body r.user s.db with
    | .error e => { s with progress := Function.update s.progress turn.1 (.refused e) }
    | .ok d => { s with progress := Function.update s.progress turn.1 (.checked d) }
  | .checked d =>
    ⟨(decideWrite turn.2 d s.db).2, Function.update s.progress turn.1 (.committed d)⟩
  | .refused _ | .committed _ => s

/-- The acceptance is pending. -/
def IsPending (aid : ℕ) (db : Db) : Prop :=
  ∃ ra, db.riskAcceptances.get? aid = some ra ∧ ra.status = .pending

omit [DecidableEq ι] in
/-- **The acceptance is decided at most once**, and the finding is accepted by the
decision only if the acceptance ends up approved. -/
structure DecidedOnce (aid : ℕ) (s : Race ι) : Prop where
  single : ∀ i j d d', s.progress i = .committed d → s.progress j = .committed d' → i = j
  approved : ∀ i d, s.progress i = .committed d → d.action = .approve →
    ∃ ra, s.db.riskAcceptances.get? aid = some ra ∧ ra.status = .approved

/-- A turn that writes finds the acceptance pending. -/
def WritesPending (aid : ℕ) (s : Race ι) (turn : ι × Instant) : Prop :=
  ∀ d, s.progress turn.1 = .checked d → IsPending aid s.db

/-- An entry of an updated function that is not the new one was there before. -/
theorem eq_of_update {p : ι → Progress} {i j : ι} {q q' : Progress}
    (h : Function.update p i q j = q') (hne : q ≠ q') : j ≠ i ∧ p j = q' := by
  by_cases hj : j = i
  · subst hj
    rw [Function.update_self] at h
    exact absurd h hne
  · exact ⟨hj, by rwa [Function.update_of_ne hj] at h⟩

/-! ### What a turn does -/

section Turn

variable {aid : ℕ} {requests : ι → DecisionRequest} {s : Race ι} {turn : ι × Instant}

/-- **The turns**: one that writes, and those that leave the database alone and commit
nothing. -/
theorem advance_cases (aid : ℕ) (requests : ι → DecisionRequest) (s : Race ι)
    (turn : ι × Instant) :
    (∃ d, s.progress turn.1 = .checked d ∧ advance aid requests s turn =
      ⟨(decideWrite turn.2 d s.db).2, Function.update s.progress turn.1 (.committed d)⟩) ∨
    (∃ d ra, s.progress turn.1 = .waiting ∧ s.db.riskAcceptances.get? aid = some ra ∧
      ra.status = .pending ∧ d.acceptanceId = aid ∧ advance aid requests s turn =
        { s with progress := Function.update s.progress turn.1 (.checked d) }) ∨
    (∃ e, s.progress turn.1 = .waiting ∧ advance aid requests s turn =
      { s with progress := Function.update s.progress turn.1 (.refused e) }) ∨
    advance aid requests s turn = s := by
  rw [advance]
  cases hp : s.progress turn.1 with
  | waiting =>
    dsimp only
    cases hread : decideRead (requests turn.1).productId (requests turn.1).cveId aid
        (requests turn.1).body (requests turn.1).user s.db with
    | error e => exact .inr (.inr (.inl ⟨e, rfl, rfl⟩))
    | ok d =>
      obtain ⟨ra, hadm, hd⟩ := decideRead_eq_ok.mp hread
      exact .inr (.inl ⟨d, ra, rfl, (acceptanceAt_some hadm.acceptance).1, hadm.pending,
        by rw [hd], rfl⟩)
  | checked d => exact .inl ⟨d, rfl, rfl⟩
  | refused e => exact .inr (.inr (.inr rfl))
  | committed d => exact .inr (.inr (.inr rfl))

/-- What is committed stays committed. -/
theorem committed_advance {i : ι} {d : Decision} (h : s.progress i = .committed d) :
    (advance aid requests s turn).progress i = .committed d := by
  by_cases hi : i = turn.1
  · -- a committed request takes no further step
    rw [advance, ← hi, h]
    exact h
  · rcases advance_cases aid requests s turn with
      ⟨d', -, heq⟩ | ⟨d', ra, -, -, -, -, heq⟩ | ⟨e, -, heq⟩ | heq
    all_goals rw [heq]
    · exact (Function.update_of_ne hi _ _).trans h
    · exact (Function.update_of_ne hi _ _).trans h
    · exact (Function.update_of_ne hi _ _).trans h
    · exact h

theorem committed_run {i : ι} {d : Decision} (h : s.progress i = .committed d)
    (l : List (ι × Instant)) : (run (advance aid requests) s l).progress i = .committed d := by
  induction l generalizing s with
  | nil => exact h
  | cons turn l ih => exact ih (committed_advance h)

end Turn

/-! ### What a race keeps -/

/-- **The invariant of every race**: a decision that was checked or written is one on
this acceptance; until one is written a checked request is right in thinking the
acceptance pending, and afterwards it is wrong. -/
structure RaceInvariant (aid : ℕ) (s : Race ι) : Prop where
  target : ∀ i d, s.progress i = .checked d ∨ s.progress i = .committed d → d.acceptanceId = aid
  exists_ : ∀ i d, s.progress i = .checked d ∨ s.progress i = .committed d →
    ∃ ra, s.db.riskAcceptances.get? aid = some ra
  fresh : (∀ i d, s.progress i ≠ .committed d) → ∀ i d, s.progress i = .checked d →
    IsPending aid s.db
  decided : ∀ i d, s.progress i = .committed d → ¬IsPending aid s.db

section Invariant

variable {aid : ℕ} {requests : ι → DecisionRequest} {s : Race ι}

omit [DecidableEq ι] in
theorem raceInvariant_start (db : Db) : RaceInvariant aid (Race.start db : Race ι) where
  target _ _ h := by rcases h with h | h <;> cases h
  exists_ _ _ h := by rcases h with h | h <;> cases h
  fresh _ _ _ h := by cases h
  decided _ _ h := by cases h

omit [DecidableEq ι] in
/-- The acceptance after a decision on it. -/
theorem get?_committed {d : Decision} {db : Db} {now : Instant} {ra : RiskAcceptance}
    (hd : d.acceptanceId = aid) (hra : db.riskAcceptances.get? aid = some ra) :
    (decideWrite now d db).2.riskAcceptances.get? aid = some ((d.assignment now).set ra) := by
  rw [get?_decideWrite, if_pos hd.symm, hra, Option.map_some]

/-- A write keeps the invariant. -/
theorem RaceInvariant.write (h : RaceInvariant aid s) {i : ι} {d : Decision}
    (hp : s.progress i = .checked d) (now : Instant) :
    RaceInvariant aid
      ⟨(decideWrite now d s.db).2, Function.update s.progress i (.committed d)⟩ := by
  have hd := h.target i d (.inl hp)
  obtain ⟨ra, hra⟩ := h.exists_ i d (.inl hp)
  have hget : (decideWrite now d s.db).2.riskAcceptances.get? aid =
      some ((d.assignment now).set ra) := get?_committed hd hra
  -- from now on a decision is committed, and no decision leaves the acceptance pending
  refine ⟨fun j d' hj => ?_, fun _ _ _ => ⟨_, hget⟩, fun hno => ?_, fun _ _ _ hc => ?_⟩
  · by_cases he : Progress.committed d = .committed d'
    · rw [← Progress.committed.inj he]
      exact hd
    · rcases hj with hj | hj
      · exact h.target j d' (.inl (eq_of_update hj (by simp)).2)
      · exact h.target j d' (.inr (eq_of_update hj he).2)
  · exact absurd (Function.update_self i _ _) (hno i d)
  · obtain ⟨ra', hra', hp'⟩ := hc
    rw [← Option.some.inj (hget.symm.trans hra')] at hp'
    cases hact : d.action <;> simp [Decision.assignment, hact, DecisionAction.newStatus] at hp'

/-- A read that passes the checks keeps the invariant. -/
theorem RaceInvariant.read (h : RaceInvariant aid s) {i : ι} {d : Decision}
    (hd : d.acceptanceId = aid) (hpend : IsPending aid s.db) :
    RaceInvariant aid { s with progress := Function.update s.progress i (.checked d) } := by
  have hexists : ∃ ra, s.db.riskAcceptances.get? aid = some ra :=
    hpend.imp fun _ hra => hra.1
  refine ⟨fun j d' hj => ?_, fun _ _ _ => hexists, fun _ _ _ _ => hpend,
    fun j d' hj => h.decided j d' (eq_of_update hj (by simp)).2⟩
  by_cases he : Progress.checked d = .checked d'
  · rw [← Progress.checked.inj he]
    exact hd
  · rcases hj with hj | hj
    · exact h.target j d' (.inl (eq_of_update hj he).2)
    · exact h.target j d' (.inr (eq_of_update hj (by simp)).2)

/-- A read that is refused keeps the invariant. -/
theorem RaceInvariant.refuse (h : RaceInvariant aid s) {i : ι} (hp : s.progress i = .waiting)
    (e : ApiError) :
    RaceInvariant aid { s with progress := Function.update s.progress i (.refused e) } := by
  have hsame : ∀ {j d'}, Function.update s.progress i (.refused e) j = .checked d' ∨
      Function.update s.progress i (.refused e) j = .committed d' →
      s.progress j = .checked d' ∨ s.progress j = .committed d' := by
    rintro j d' (hj | hj)
    · exact .inl (eq_of_update hj (by simp)).2
    · exact .inr (eq_of_update hj (by simp)).2
  refine ⟨fun j d' hj => h.target j d' (hsame hj), fun j d' hj => h.exists_ j d' (hsame hj),
    fun hno j d' hj => h.fresh (fun k d'' hk => ?_) j d' (eq_of_update hj (by simp)).2,
    fun j d' hj => h.decided j d' (eq_of_update hj (by simp)).2⟩
  refine hno k d'' ((Function.update_of_ne ?_ _ _).trans hk)
  rintro rfl
  rw [hp] at hk
  cases hk

theorem RaceInvariant.advance (h : RaceInvariant aid s) (turn : ι × Instant) :
    RaceInvariant aid (advance aid requests s turn) := by
  rcases advance_cases aid requests s turn with
    ⟨d, hp, heq⟩ | ⟨d, ra, -, hra, hpend, hd, heq⟩ | ⟨e, hp, heq⟩ | heq
  · rw [heq]
    exact h.write hp turn.2
  · rw [heq]
    exact h.read hd ⟨ra, hra, hpend⟩
  · rw [heq]
    exact h.refuse hp e
  · rwa [heq]

/-- Until a write finds the acceptance decided, at most one request is committed, and the
acceptance says what it decided. -/
structure OneDecision (aid : ℕ) (s : Race ι) : Prop where
  single : ∀ i j d d', s.progress i = .committed d → s.progress j = .committed d' → i = j
  recorded : ∀ i d, s.progress i = .committed d →
    ∃ ra, s.db.riskAcceptances.get? aid = some ra ∧ ra.status = d.action.newStatus

/-- A read commits nothing. -/
theorem OneDecision.read (h : OneDecision aid s) {i : ι} {q : Progress}
    (hq : ∀ d, q ≠ .committed d) :
    OneDecision aid { s with progress := Function.update s.progress i q } :=
  ⟨fun j k d d' hj hk =>
      h.single j k d d' (eq_of_update hj (hq d)).2 (eq_of_update hk (hq d')).2,
    fun j d hj => h.recorded j d (eq_of_update hj (hq d)).2⟩

theorem OneDecision.advance (h : OneDecision aid s) (hJ : RaceInvariant aid s)
    {turn : ι × Instant} (hw : WritesPending aid s turn) :
    OneDecision aid (advance aid requests s turn) := by
  rcases advance_cases aid requests s turn with
    ⟨d, hp, heq⟩ | ⟨d, ra, -, -, -, -, heq⟩ | ⟨e, -, heq⟩ | heq
  · -- the first write: nothing was committed before
    have hfirst : ∀ i d', Function.update s.progress turn.1 (.committed d) i = .committed d' →
        i = turn.1 ∧ d' = d := by
      intro i d' hi
      by_cases he : i = turn.1
      · subst he
        rw [Function.update_self] at hi
        exact ⟨rfl, (Progress.committed.inj hi).symm⟩
      · rw [Function.update_of_ne he] at hi
        exact absurd (hw d hp) (hJ.decided i d' hi)
    rw [heq]
    refine ⟨fun i j d₁ d₂ hi hj => (hfirst i d₁ hi).1.trans (hfirst j d₂ hj).1.symm,
      fun i d' hi => ?_⟩
    obtain ⟨ra, hra⟩ := hJ.exists_ turn.1 d (.inl hp)
    rw [(hfirst i d' hi).2]
    exact ⟨_, get?_committed (hJ.target turn.1 d (.inl hp)) hra, rfl⟩
  · rw [heq]
    exact h.read (by simp)
  · rw [heq]
    exact h.read (by simp)
  · rwa [heq]

end Invariant

/-- **An acceptance is decided once in a race exactly when every write of the race finds
it pending.** -/
theorem decidedOnce_iff (aid : ℕ) (requests : ι → DecisionRequest) (db : Db)
    (l : List (ι × Instant)) :
    DecidedOnce aid (run (advance aid requests) (Race.start db) l) ↔
      AllSteps (advance aid requests) (WritesPending aid) (Race.start db) l := by
  have hJ : ∀ l, RaceInvariant aid (run (advance aid requests) (Race.start db) l) := fun l =>
    (throughout_of_step (I := RaceInvariant aid) (fun _ turn h => h.advance turn)
      (raceInvariant_start db) l).last
  constructor
  · rw [allSteps_iff_split]
    rintro hone l₁ turn l₂ rfl d hp
    by_contra hnot
    -- another request has committed since this one was checked
    have hother : ∃ j d', (run (advance aid requests) (Race.start db) l₁).progress j =
        .committed d' := by
      by_contra hno
      refine hnot ((hJ l₁).fresh (fun j d' hj => hno ⟨j, d', hj⟩) turn.1 d hp)
    obtain ⟨j, d', hj⟩ := hother
    have hi : (advance aid requests (run (advance aid requests) (Race.start db) l₁)
        turn).progress turn.1 = .committed d := by
      rw [advance, hp]
      exact Function.update_self _ _ _
    rw [run_append, run_cons] at hone
    have hsame := hone.single turn.1 j d d' (committed_run hi l₂)
      (committed_run (committed_advance hj) l₂)
    rw [← hsame, hp] at hj
    cases hj
  · -- the two invariants together: the second one is kept by the writes that find it pending
    intro hl
    have hstart : OneDecision aid (Race.start db : Race ι) :=
      ⟨fun i j d d' h _ => (by cases h), fun i d h => (by cases h)⟩
    have hone := (throughout_of_allSteps (I := fun s => RaceInvariant aid s ∧ OneDecision aid s)
      (fun s turn h hw => ⟨h.1.advance turn, h.2.advance h.1 hw⟩)
      ⟨raceInvariant_start db, hstart⟩ hl).last.2
    refine ⟨hone.single, fun i d hi hact => ?_⟩
    obtain ⟨ra, hra, hst⟩ := hone.recorded i d hi
    exact ⟨ra, hra, by rw [hst, hact]; rfl⟩

/-- A finding with a pending acceptance. -/
def requested : Db :=
  run step .sample
    [⟨0, .insertCirclFinding 1 "CVE-2024-0001"⟩,
      ⟨1, .createRiskAcceptance 1 "CVE-2024-0001" ⟨none, "mitigated by the WAF", 30⟩ .alice⟩]

/-- An approval and a rejection of it by one analyst, from two windows. -/
def twoWindows : Bool → DecisionRequest
  | true => ⟨1, "CVE-2024-0001", ⟨.approve, none, none⟩, .bob⟩
  | false => ⟨1, "CVE-2024-0001", ⟨.reject, none, none⟩, .bob⟩

/-- **An acceptance can be decided twice**: both requests read, then both write. The
finding is accepted, and the acceptance rejected. -/
theorem exists_not_decidedOnce :
    ∃ (db : Db) (aid : ℕ) (requests : Bool → DecisionRequest) (l : List (Bool × Instant)),
      ¬DecidedOnce aid (run (advance aid requests) (Race.start db) l) := by
  refine ⟨requested, 1, twoWindows, [(true, 2), (false, 3), (true, 4), (false, 5)], fun h => ?_⟩
  obtain ⟨ra, hra, hst⟩ := h.approved true ⟨1, 1, .approve, "bob@example.com"⟩ rfl rfl
  have hrejected : ((run (advance 1 twoWindows) (Race.start requested)
      [(true, 2), (false, 3), (true, 4), (false, 5)]).db.riskAcceptances.get? 1).any
        (fun ra => ra.status == .rejected) = true := by decide
  rw [hra, Option.any_some, hst] at hrejected
  cases hrejected

end CveManagement
