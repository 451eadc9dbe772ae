import CveManagement.Exploitability.Refresh
import CveManagement.Library.Expiring
import CveManagement.Library.Trajectory
import CveManagement.Sync.Jobs
import Mathlib

/-!
# The in-flight keys of the lazy refreshes

`schedule_lazy_refresh` and `_do_refresh` of `app/query/vulnx_enricher.py`. A refresh claims a key
of Redis for each of its CVEs, which expires after a minute, and deletes the keys of those it owns
on its way out. All keys have the value `"1"`: here the value says whose claim it is, which no
step of the code looks at (`CveManagement.InFlight.redis`).

The requests of all processes interleave between any two commands, and a command fails before it
reaches Redis or after it: `claim_inflight` then returns `True` all the same.
-/

namespace CveManagement

/-- What becomes of a command for Redis. -/
inductive RedisOutcome
  | executed
  /-- An error, and the command is not executed. -/
  | unreached
  /-- An error, after the command has been executed. -/
  | lostReply
  deriving DecidableEq

/-- **Where a refresh is**: in the loop of `schedule_lazy_refresh`, with the CVEs it owns so far,
before the answer of vulnx, in the steps of the database, or in `_release_many`. -/
inductive LazyPhase
  | claiming (cveIds owned : List String)
  | fetching (owned : List String)
  | storing (owned : List String)
  | releasing (cveIds : List String)
  /-- `_do_refresh` is over. -/
  | exited
  /-- There was no task to create. -/
  | unscheduled

/-- A `SET NX` that has written its key, and when. -/
structure InFlightClaim where
  refresh : ℕ
  cveId : String
  claimedAt : Instant

/-- `_INFLIGHT_TTL_SECONDS`. -/
def inFlightTtl : Instant := seconds 60

/-- The claim is less than a minute old. -/
def InFlightClaim.Fresh (now : Instant) (c : InFlightClaim) : Prop :=
  now < c.claimedAt + inFlightTtl

/-- **The refreshes and their keys**: the claims that their refresh has not deleted, and for each
key that was deleted while it was there, who has deleted it and whose it was. -/
structure InFlight where
  now : Instant
  redis : Expiring.Store String ℕ Instant
  refreshes : List LazyPhase
  claims : List InFlightClaim
  removed : List (ℕ × ℕ)

namespace InFlight

/-- What happens to the refreshes. -/
inductive Event
  /-- Time passes. -/
  | tick (elapsed : ℕ)
  /-- `schedule_lazy_refresh` is called, with vulnx configured or not and its circuit open or
  not. -/
  | schedule (cveIds : List String) (configured circuitOpen : Bool)
  /-- The next `claim_inflight` of a refresh. -/
  | claim (i : ℕ) (outcome : RedisOutcome)
  /-- What `fetch_intel` returns or raises, through the circuit. -/
  | fetched (i : ℕ) (result : Except CallError Intel)
  /-- The steps of the database are done, or one of them raises. -/
  | stored (i : ℕ) (ok : Bool)
  /-- The next `release_inflight` of a refresh. -/
  | release (i : ℕ) (outcome : RedisOutcome)
  /-- The task is cancelled. -/
  | cancel (i : ℕ)

/-- No refresh and no key. -/
def start (now : Instant) : InFlight := ⟨now, .empty, [], [], []⟩

variable (s : InFlight)

/-- A refresh goes on. -/
def setPhase (i : ℕ) (phase : LazyPhase) : InFlight :=
  { s with refreshes := s.refreshes.set i phase }

/-- `SET … NX EX`. -/
def setClaim (i : ℕ) (cid : String) : InFlight :=
  { s with
    redis := s.redis.setNx s.now cid i (s.now + inFlightTtl)
    claims := s.claims ++ if (s.redis.get? s.now cid).isNone then [⟨i, cid, s.now⟩] else [] }

/-- **`claim_inflight`.** -/
def claimInFlight (i : ℕ) (cid : String) : RedisOutcome → InFlight × Bool
  | .executed => (s.setClaim i cid, (s.redis.get? s.now cid).isNone)
  | .unreached => (s, true)
  | .lostReply => (s.setClaim i cid, true)

/-- `DEL`. -/
def delKey (i : ℕ) (cid : String) : InFlight :=
  { s with
    redis := s.redis.del cid
    claims := s.claims.filter fun c => !(c.refresh == i && c.cveId == cid)
    removed := s.removed ++ (s.redis.get? s.now cid).toList.map fun j => (i, j) }

/-- **`release_inflight`.** -/
def releaseInFlight (i : ℕ) (cid : String) : RedisOutcome → InFlight
  | .executed | .lostReply => s.delKey i cid
  | .unreached => s

/-- A refresh before the claims of the CVEs that are left. -/
def afterClaim (cveIds owned : List String) : LazyPhase :=
  if cveIds ≠ [] then .claiming cveIds owned
  else if owned = [] then .unscheduled else .fetching owned

/-- A refresh before the keys that are left. -/
def afterRelease (cveIds : List String) : LazyPhase :=
  if cveIds = [] then .exited else .releasing cveIds

/-- **One step.** -/
def step (s : InFlight) : Event → InFlight
  | .tick elapsed => { s with now := s.now + (elapsed : ℤ) }
  | .schedule cveIds configured circuitOpen =>
    if cveIds = [] ∨ configured = false ∨ circuitOpen = true then s
    else { s with refreshes := s.refreshes ++ [.claiming cveIds []] }
  | .claim i outcome =>
    match s.refreshes[i]? with
    | some (.claiming (cid :: cveIds) owned) =>
      let (s, ok) := s.claimInFlight i cid outcome
      s.setPhase i (afterClaim cveIds (if ok then owned ++ [cid] else owned))
    | _ => s
  | .fetched i result =>
    match s.refreshes[i]?, result with
    | some (.fetching owned), .error _ => s.setPhase i (.releasing owned)
    | some (.fetching owned), .ok _ => s.setPhase i (.storing owned)
    | _, _ => s
  | .stored i ok =>
    match s.refreshes[i]? with
    | some (.storing owned) => s.setPhase i (if ok then .releasing owned else .exited)
    | _ => s
  | .release i outcome =>
    match s.refreshes[i]? with
    | some (.releasing (cid :: cveIds)) =>
      (s.releaseInFlight i cid outcome).setPhase i (afterRelease cveIds)
    | _ => s
  | .cancel i =>
    match s.refreshes[i]? with
    | some (.claiming ..) => s.setPhase i .unscheduled
    | some (.fetching _) | some (.storing _) | some (.releasing _) => s.setPhase i .exited
    | _ => s

/-! ### The property -/

/-- **Keys have owners**: a refresh has deleted no key but its own, and none of those that are
over has a key left. -/
structure Owned : Prop where
  removed : ∀ r ∈ s.removed, r.1 = r.2
  exited : ∀ i, s.refreshes[i]? = some .exited → ∀ cid, s.redis.get? s.now cid ≠ some i

/-- **The refresh has a key**, as far as its claims go: one less than a minute old, which it has
not deleted. -/
def Holds (i : ℕ) (cid : String) : Prop :=
  ∃ c ∈ s.claims, c.refresh = i ∧ c.cveId = cid ∧ c.Fresh s.now

/-- The step deletes a key, for a refresh. -/
def Deletes (e : Event) (i : ℕ) (cid : String) : Prop :=
  match e with
  | .release j outcome => j = i ∧ outcome ≠ .unreached ∧
    ∃ rest, s.refreshes[i]? = some (.releasing (cid :: rest))
  | _ => False

/-- **The step is the last one of a refresh**: a step of the database raises, its last key is
done, or the task is cancelled. -/
def Leaves (e : Event) (i : ℕ) : Prop :=
  match e with
  | .stored j ok => j = i ∧ ok = false ∧ ∃ owned, s.refreshes[i]? = some (.storing owned)
  | .release j _ => j = i ∧ ∃ cid, s.refreshes[i]? = some (.releasing [cid])
  | .cancel j => j = i ∧ ∃ cveIds, s.refreshes[i]? = some (.fetching cveIds) ∨
    s.refreshes[i]? = some (.storing cveIds) ∨ s.refreshes[i]? = some (.releasing cveIds)
  | _ => False

/-- **The step is in time**: a key is deleted within a minute of the refresh's own claim, or when
no other refresh has a claim of that age; and a refresh leaves no claim of that age behind. -/
structure Timely (e : Event) : Prop where
  deletes : ∀ i cid, s.Deletes e i cid → s.Holds i cid ∨ ∀ j, j ≠ i → ¬s.Holds j cid
  leaves : ∀ i, s.Leaves e i → ∀ cid, s.Holds i cid → s.Deletes e i cid

/-! ### What a step does -/

variable {s}

/-- `claim_inflight` and `release_inflight` leave the phases alone. -/
theorem refreshes_claimInFlight (s : InFlight) (i : ℕ) (cid : String) (outcome : RedisOutcome) :
    (s.claimInFlight i cid outcome).1.refreshes = s.refreshes := by
  cases outcome <;> rfl

theorem refreshes_releaseInFlight (s : InFlight) (i : ℕ) (cid : String) (outcome : RedisOutcome) :
    (s.releaseInFlight i cid outcome).refreshes = s.refreshes := by
  cases outcome <;> rfl

theorem afterClaim_ne_exited (cveIds owned : List String) : afterClaim cveIds owned ≠ .exited := by
  unfold afterClaim
  split_ifs <;> simp

theorem afterRelease_eq_exited {cveIds : List String} :
    afterRelease cveIds = .exited ↔ cveIds = [] := by
  unfold afterRelease
  split_ifs with h <;> simp [h]

/-- **What a step may do to the phases**: nothing, or it schedules a refresh, or one that is not
over goes on, and to its end exactly if it leaves. -/
def PhaseStep (s : InFlight) (e : Event) : Prop :=
  ((step s e).refreshes = s.refreshes ∧ ∀ j, ¬s.Leaves e j) ∨
  (∃ cveIds, (step s e).refreshes = s.refreshes ++ [.claiming cveIds []] ∧
    ∀ j, ¬s.Leaves e j) ∨
  ∃ i old phase, s.refreshes[i]? = some old ∧ old ≠ .exited ∧
    (step s e).refreshes = s.refreshes.set i phase ∧
    ∀ j, s.Leaves e j ↔ j = i ∧ phase = .exited

theorem phaseStep_claim (s : InFlight) (i : ℕ) (outcome : RedisOutcome) :
    s.PhaseStep (.claim i outcome) := by
  rw [PhaseStep, step]
  split
  · next cid cveIds owned hi =>
    have hsame := s.refreshes_claimInFlight i cid outcome
    rcases hclaim : s.claimInFlight i cid outcome with ⟨t, ok⟩
    rw [hclaim] at hsame
    have hset : (t.setPhase i (afterClaim cveIds (if ok = true then owned ++ [cid] else
        owned))).refreshes = s.refreshes.set i _ := congrArg (List.set · i _) hsame
    exact Or.inr (Or.inr ⟨i, _, _, hi, by simp, hset, fun j =>
      iff_of_false id fun h => afterClaim_ne_exited _ _ h.2⟩)
  · exact Or.inl ⟨rfl, fun j => id⟩

theorem phaseStep_fetched (s : InFlight) (i : ℕ) (result : Except CallError Intel) :
    s.PhaseStep (.fetched i result) := by
  simp only [PhaseStep, step]
  split
  · next owned e hi =>
    exact Or.inr (Or.inr ⟨i, _, _, hi, by simp, rfl, fun j => by simp [Leaves]⟩)
  · next owned intel hi =>
    exact Or.inr (Or.inr ⟨i, _, _, hi, by simp, rfl, fun j => by simp [Leaves]⟩)
  · exact Or.inl ⟨rfl, fun j => id⟩

theorem phaseStep_stored (s : InFlight) (i : ℕ) (ok : Bool) : s.PhaseStep (.stored i ok) := by
  rw [PhaseStep, step]
  split
  · next owned hi =>
    refine Or.inr (Or.inr ⟨i, _, _, hi, by simp, rfl, fun j => ?_⟩)
    rw [Leaves, @eq_comm _ i]
    refine and_congr_right fun hj => ?_
    rw [hj, hi]
    cases ok <;> simp
  · next hno =>
    refine Or.inl ⟨rfl, ?_⟩
    rintro j ⟨rfl, -, owned, hi⟩
    exact hno owned hi

theorem phaseStep_release (s : InFlight) (i : ℕ) (outcome : RedisOutcome) :
    s.PhaseStep (.release i outcome) := by
  rw [PhaseStep, step]
  split
  · next cid cveIds hi =>
    have hset : ((s.releaseInFlight i cid outcome).setPhase i (afterRelease cveIds)).refreshes =
        s.refreshes.set i (afterRelease cveIds) :=
      congrArg (List.set · i _) (s.refreshes_releaseInFlight i cid outcome)
    refine Or.inr (Or.inr ⟨i, _, _, hi, by simp, hset, fun j => ?_⟩)
    rw [Leaves, @eq_comm _ i, afterRelease_eq_exited]
    refine and_congr_right fun hj => ?_
    rw [hj, hi]
    simp
  · next hno =>
    refine Or.inl ⟨rfl, ?_⟩
    rintro j ⟨rfl, cid, hi⟩
    exact hno cid [] hi

theorem phaseStep_cancel (s : InFlight) (i : ℕ) : s.PhaseStep (.cancel i) := by
  rcases hi : s.refreshes[i]? with _ | old
  · refine Or.inl ⟨by rw [step, hi], ?_⟩
    rintro j ⟨rfl, ids, h⟩
    simp [hi] at h
  -- a refresh is over if its task has been created
  have hleaves : ∀ j, s.Leaves (.cancel i) j ↔ j = i ∧ ∃ ids, old = .fetching ids ∨
      old = .storing ids ∨ old = .releasing ids := by
    intro j
    rw [Leaves, @eq_comm _ i]
    refine and_congr_right fun hj => ?_
    rw [hj, hi]
    simp
  rw [PhaseStep, step, hi]
  cases old with
  | claiming cveIds owned =>
    exact Or.inr (Or.inr ⟨i, _, .unscheduled, hi, by simp, rfl, by simp [hleaves]⟩)
  | fetching owned | storing owned | releasing owned =>
    exact Or.inr (Or.inr ⟨i, _, .exited, hi, by simp, rfl, by simp [hleaves]⟩)
  | exited | unscheduled => exact Or.inl ⟨rfl, by simp [hleaves]⟩

/-- **What a step does to the phases.** -/
theorem phase_step_cases (s : InFlight) (e : Event) : s.PhaseStep e := by
  cases e with
  | tick elapsed => exact Or.inl ⟨rfl, fun j => id⟩
  | schedule cveIds configured circuitOpen =>
    rw [PhaseStep, step]
    split_ifs
    · exact Or.inl ⟨rfl, fun j => id⟩
    · exact Or.inr (Or.inl ⟨cveIds, rfl, fun j => id⟩)
  | claim i outcome => exact s.phaseStep_claim i outcome
  | fetched i result => exact s.phaseStep_fetched i result
  | stored i ok => exact s.phaseStep_stored i ok
  | release i outcome => exact s.phaseStep_release i outcome
  | cancel i => exact s.phaseStep_cancel i

/-- **Who has left after a step.** -/
theorem exited_step (e : Event) (j : ℕ) :
    (step s e).refreshes[j]? = some .exited ↔
      s.refreshes[j]? = some .exited ∨ s.Leaves e j := by
  rcases phase_step_cases s e with ⟨hsame, hno⟩ | ⟨cveIds, hnew, hno⟩ |
    ⟨i, old, phase, hi, hold, hset, hleaves⟩
  · rw [hsame, or_iff_left (hno j)]
  · rw [hnew, or_iff_left (hno j), List.getElem?_append]
    split_ifs with hj
    · rfl
    · rw [List.getElem?_eq_none (not_lt.mp hj)]
      refine iff_of_false (fun h => ?_) (Option.some_ne_none _).symm
      exact absurd (List.mem_singleton.mp (List.mem_of_getElem? h)) (by simp)
  · obtain ⟨hlt, -⟩ := List.getElem?_eq_some_iff.mp hi
    rw [hset, hleaves]
    by_cases hij : j = i
    · subst hij
      rw [List.getElem?_set_self hlt, hi]
      simp [hold]
    · rw [List.getElem?_set_ne (Ne.symm hij)]
      simp [hij]

end InFlight

end CveManagement
