import CveManagement.Library.Expiring
import CveManagement.Library.Trajectory
import CveManagement.Sync.Jobs
import Mathlib

/-!
# Leader election

`app/core/leader.py`. The nodes of a cluster share one key of Redis, which holds the id of the
leader and expires after thirty seconds; each node has a flag of its own, `_is_leader`. A call of
`acquire`, `refresh` or `release` sends one command, chosen by the flag; Redis executes a command
at one point in time, the reply comes later, or an error comes in its place: before the command
has been executed or after, and the command may still be executed when the caller has given up.

While the key is there, only the commands of its owner change it
(`CveManagement.Election.redis_step_of_owner`), whatever the flags say.
-/

namespace CveManagement

/-- The methods of a `LeaderElector`. -/
inductive ElectorMethod
  | acquire
  | refresh
  | release
  deriving DecidableEq

/-- **What a call sends to Redis**, and where it has been sent from. -/
inductive ElectorCommand
  /-- `SET … NX EX`, of `acquire`. -/
  | acquire
  /-- `SET … NX EX`, of the `acquire` that `refresh` calls. -/
  | refreshAcquire
  /-- The script of `refresh`. -/
  | extend
  /-- The script of `release`. -/
  | release
  deriving DecidableEq

/-- A command that Redis has executed: its reply, and whether it has left the key unexpired and
with the id of the node that has sent it. -/
structure ElectorReply where
  res : Bool
  holds : Bool
  deriving DecidableEq

/-- A call of a node. -/
structure ElectorCall (ν : Type*) where
  node : ν
  command : ElectorCommand
  executed : Option ElectorReply
  ended : Bool

/-- How a call ends. -/
inductive CallEnd
  /-- The reply arrives. -/
  | reply
  /-- The client raises an `Exception`. -/
  | error
  /-- The task is cancelled. -/
  | cancelled
  deriving DecidableEq

/-- A `refresh` that has returned: what it has returned, what has become of its command, and the
flag it has left. -/
structure RefreshEnd where
  returned : Bool
  executed : Option ElectorReply
  isLeader : Bool
  deriving DecidableEq

/-- `_TTL_SECONDS`. -/
def leaderTtl : Instant := seconds 30

/-- The nodes and their Redis, and the calls of `refresh` that have returned. -/
structure Election (ν : Type*) where
  now : Instant
  redis : Expiring.Store Unit ν Instant
  isLeader : ν → Bool
  calls : List (ElectorCall ν)
  refreshed : List RefreshEnd

namespace Election

variable {ν : Type*} [DecidableEq ν]

/-- What happens in a cluster. -/
inductive Event (ν : Type*)
  /-- Time passes. -/
  | tick (elapsed : ℕ)
  /-- A node calls a method. -/
  | call (node : ν) (method : ElectorMethod)
  /-- Redis executes the command of a call. -/
  | execute (i : ℕ)
  /-- A call ends. -/
  | finish (i : ℕ) (how : CallEnd)

/-- A cluster in which no node has called anything. -/
def start (now : Instant) : Election ν := ⟨now, .empty, fun _ => false, [], []⟩

variable (s : Election ν)

/-- The node whose id the key holds, while it is there. -/
def owner : Option ν := s.redis.get? s.now ()

/-- A call, up to its command. -/
def send (node : ν) (command : ElectorCommand) : Election ν :=
  { s with calls := s.calls ++ [⟨node, command, none, false⟩] }

/-- **The head of each method**: it looks at the flag, and sends its command or returns. -/
def begin (node : ν) : ElectorMethod → Election ν
  | .acquire => if s.isLeader node then s else s.send node .acquire
  | .refresh => s.send node (if s.isLeader node then .extend else .refreshAcquire)
  | .release => if s.isLeader node then s.send node .release else s

/-- **What Redis does with a command**: the key afterwards, and the reply. -/
def perform (node : ν) : ElectorCommand → Expiring.Store Unit ν Instant × Bool
  | .acquire | .refreshAcquire =>
    (s.redis.setNx s.now () node (s.now + leaderTtl), s.owner.isNone)
  | .extend =>
    (s.redis.expireIf s.now () node (s.now + leaderTtl), decide (s.owner = some node))
  | .release => (s.redis.delIf s.now () node, decide (s.owner = some node))

/-- The call after its command, which is executed once. -/
def executeCall (i : ℕ) (c : ElectorCall ν) : Election ν :=
  if c.executed.isSome then s
  else
    let (redis, res) := s.perform c.node c.command
    { s with
      redis := redis
      calls := s.calls.set i
        { c with executed := some ⟨res, decide (redis.get? s.now () = some c.node)⟩ } }

/-- **The tail of each method**: the flag it leaves, and what it returns, if it returns. -/
def conclude (isLeader : Bool) (res : Bool) : ElectorCommand → CallEnd → Bool × Option Bool
  | .acquire, .reply | .refreshAcquire, .reply => (res, some res)
  | .acquire, .error | .refreshAcquire, .error => (isLeader, some false)
  | .extend, .reply => if res then (isLeader, some isLeader) else (false, some false)
  | .extend, .error => (isLeader, some isLeader)
  | .release, _ => (false, none)
  | _, .cancelled => (isLeader, none)

/-- Whether the call is one of `refresh`. -/
def ofRefresh : ElectorCommand → Bool
  | .refreshAcquire | .extend => true
  | .acquire | .release => false

/-- A call ends; there is no reply before the command has been executed. -/
def finishCall (i : ℕ) (c : ElectorCall ν) (how : CallEnd) : Election ν :=
  if c.ended ∨ how = .reply ∧ c.executed = none then s
  else
    let (flag, returned) :=
      conclude (s.isLeader c.node) ((c.executed.map ElectorReply.res).getD false) c.command how
    { s with
      isLeader := Function.update s.isLeader c.node flag
      calls := s.calls.set i { c with ended := true }
      refreshed := s.refreshed ++
        match ofRefresh c.command, returned with
        | true, some r => [⟨r, c.executed, flag⟩]
        | _, _ => [] }

/-- **One step.** -/
def step (s : Election ν) : Event ν → Election ν
  | .tick elapsed => { s with now := s.now + (elapsed : ℤ) }
  | .call node method => s.begin node method
  | .execute i => (s.calls[i]?).elim s fun c => s.executeCall i c
  | .finish i how => (s.calls[i]?).elim s fun c => s.finishCall i c how

variable {s}

/-! ### The key and its owner -/

omit [DecidableEq ν] in
theorem begin_redis (node : ν) (method : ElectorMethod) :
    (s.begin node method).redis = s.redis ∧ (s.begin node method).now = s.now := by
  cases method <;> simp only [begin] <;> split_ifs <;> exact ⟨rfl, rfl⟩

theorem finishCall_redis (i : ℕ) (c : ElectorCall ν) (how : CallEnd) :
    (s.finishCall i c how).redis = s.redis ∧ (s.finishCall i c how).now = s.now := by
  unfold finishCall
  split_ifs <;> exact ⟨rfl, rfl⟩

/-- **A command of another node leaves the key as it is**, while it is there. -/
theorem perform_of_ne {o node : ν} (ho : s.owner = some o) (hne : node ≠ o)
    (command : ElectorCommand) : (s.perform node command).1 = s.redis := by
  have hother : s.redis.get? s.now () ≠ some node := fun h =>
    hne (Option.some.inj (h.symm.trans ho))
  cases command with
  | acquire => exact Expiring.Store.setNx_of_some ho
  | refreshAcquire => exact Expiring.Store.setNx_of_some ho
  | extend => exact Expiring.Store.expireIf_of_ne hother
  | release => exact Expiring.Store.delIf_of_ne hother

/-- A command of the owner keeps the key, or is that of `release`. -/
theorem get?_perform_owner {o : ν} (ho : s.owner = some o) (command : ElectorCommand) :
    (s.perform o command).1.get? s.now () = some o ∨ command = .release := by
  have hlt : s.now < s.now + leaderTtl := by
    simp [leaderTtl, seconds]
  cases command with
  | acquire | refreshAcquire =>
    refine Or.inl ?_
    rw [perform, Expiring.Store.setNx_of_some ho]
    exact ho
  | extend =>
    refine Or.inl ?_
    rw [perform, Expiring.Store.expireIf_of_eq ho]
    exact Expiring.Store.get?_set hlt
  | release => exact Or.inr rfl

/-- The step is the execution of a command of a node. -/
def Executes (s : Election ν) (e : Event ν) (o : ν) (command : ElectorCommand) : Prop :=
  ∃ i c, e = .execute i ∧ s.calls[i]? = some c ∧ c.node = o ∧ c.command = command

/-- What a step does to the key: nothing, or what Redis does with a command. -/
theorem redis_step_cases (e : Event ν) :
    ((step s e).redis = s.redis ∧ ((step s e).now = s.now ∨
      ∃ elapsed : ℕ, e = .tick elapsed ∧ (step s e).now = s.now + (elapsed : ℤ))) ∨
    ∃ node command, s.Executes e node command ∧
      (step s e).redis = (s.perform node command).1 ∧ (step s e).now = s.now := by
  cases e with
  | tick elapsed => exact Or.inl ⟨rfl, Or.inr ⟨elapsed, rfl, rfl⟩⟩
  | call node method => exact Or.inl ⟨(begin_redis node method).1, Or.inl (begin_redis _ _).2⟩
  | execute i =>
    rcases hc : s.calls[i]? with _ | c
    · exact Or.inl ⟨by simp [step, hc], Or.inl (by simp [step, hc])⟩
    by_cases hx : c.executed.isSome
    · have hstep : step s (.execute i) = s := by simp [step, hc, executeCall, hx]
      rw [hstep]
      exact Or.inl ⟨rfl, Or.inl rfl⟩
    · refine Or.inr ⟨c.node, c.command, ⟨i, c, rfl, hc, rfl, rfl⟩, ?_, ?_⟩
      · simp [step, hc, executeCall, hx]
      · simp [step, hc, executeCall, hx]
  | finish i how =>
    rcases hc : s.calls[i]? with _ | c
    · exact Or.inl ⟨by simp [step, hc], Or.inl (by simp [step, hc])⟩
    · have hstep : step s (.finish i how) = s.finishCall i c how := by simp [step, hc]
      rw [hstep]
      exact Or.inl ⟨(finishCall_redis i c how).1, Or.inl (finishCall_redis i c how).2⟩

/-- **While the key is there, only commands of its owner change it.** -/
theorem redis_step_of_owner {o : ν} (ho : s.owner = some o) (e : Event ν) :
    (step s e).redis = s.redis ∨ ∃ command, s.Executes e o command := by
  rcases redis_step_cases (s := s) e with ⟨hsame, -⟩ | ⟨node, command, hx, hredis, -⟩
  · exact Or.inl hsame
  by_cases hne : node = o
  · exact Or.inr ⟨command, hne ▸ hx⟩
  · exact Or.inl (hredis.trans (perform_of_ne ho hne command))

/-- **The step takes the key from its owner**: time passes and it expires, or the owner's
`release` is executed. -/
def Frees (s : Election ν) (e : Event ν) (o : ν) : Prop :=
  (∃ (elapsed : ℕ) (expiry : Instant), e = .tick elapsed ∧
    s.redis.entry () = some (o, expiry) ∧ expiry ≤ s.now + (elapsed : ℤ)) ∨
  s.Executes e o .release

/-- **An owner remains, or the step takes the key from it.** -/
theorem owner_step {o : ν} (ho : s.owner = some o) (e : Event ν) :
    (step s e).owner = some o ∨ s.Frees e o := by
  rcases redis_step_cases (s := s) e with
    ⟨hsame, hnow | ⟨elapsed, rfl, hnow⟩⟩ | ⟨node, command, hx, hredis, hnow⟩
  · refine Or.inl ?_
    rw [owner, hsame, hnow]
    exact ho
  · rcases Expiring.Store.get?_stays_or_expires ho with
      hstay | ⟨-, expiry, hentry, hle⟩
    · refine Or.inl ?_
      rw [owner, hsame, hnow]
      exact hstay
    · exact Or.inr (Or.inl ⟨elapsed, expiry, rfl, hentry, hle⟩)
  · by_cases hne : node = o
    · subst hne
      rcases get?_perform_owner ho command with hkeep | rfl
      · refine Or.inl ?_
        rw [owner, hredis, hnow]
        exact hkeep
      · exact Or.inr (Or.inr hx)
    · refine Or.inl ?_
      rw [owner, hredis, perform_of_ne ho hne command, hnow]
      exact ho

open Trajectory in
/-- **Between two owners, the first one has lost the key**, by expiry or by its own release. -/
theorem exists_frees (l : List (Event ν)) {o o' : ν} (ho : s.owner = some o)
    (ho' : (run step s l).owner = some o') (hne : o' ≠ o) :
    ∃ l₁ e l₂, l = l₁ ++ e :: l₂ ∧ (run step s l₁).owner = some o ∧
      (run step s l₁).Frees e o := by
  induction l generalizing s with
  | nil => exact absurd (Option.some.inj (ho'.symm.trans ho)) hne
  | cons e l ih =>
    rcases owner_step ho e with hkeep | hfree
    · obtain ⟨l₁, e', l₂, rfl, hl⟩ := ih hkeep ho'
      exact ⟨e :: l₁, e', l₂, rfl, hl⟩
    · exact ⟨[], e, l, rfl, ho, hfree⟩

open Trajectory in
/-- **The lock is safe**: while a node owns the key, no command of another node changes it; and
where two nodes own it one after the other, the first one has lost it in between, by expiry or by
its own release. -/
theorem lock_safe (s : Election ν) (l : List (Event ν)) :
    AllSteps step (fun s e => ∀ o, s.owner = some o →
      (step s e).redis = s.redis ∨ ∃ command, s.Executes e o command) s l ∧
    ∀ l₁ l₂ l₃ o o', l = l₁ ++ l₂ ++ l₃ → (run step s l₁).owner = some o →
      (run step s (l₁ ++ l₂)).owner = some o' → o' ≠ o →
        ∃ m₁ e m₂, l₂ = m₁ ++ e :: m₂ ∧ (run step s (l₁ ++ m₁)).owner = some o ∧
          (run step s (l₁ ++ m₁)).Frees e o := by
  refine ⟨allSteps_iff_split.mpr fun _ e _ _ o ho => redis_step_of_owner ho e, ?_⟩
  intro l₁ l₂ l₃ o o' _ ho ho' hne
  rw [run_append] at ho'
  obtain ⟨m₁, e, m₂, hl, hm⟩ := exists_frees l₂ ho ho' hne
  refine ⟨m₁, e, m₂, hl, ?_⟩
  rw [run_append]
  exact hm

end Election

end CveManagement
