import CveManagement.Leader.Election
import Mathlib

/-!
# What a refresh returns

A `refresh` that returns `True` tells its node that it leads. Where the client raises an error,
`acquire` returns `False` and `refresh` returns the flag as it is, so that it may say `True`
without having reached Redis. `CveManagement.RefreshEnd.Sound` says what a result is worth, and
`CveManagement.Election.Answered` which errors leave it so.
-/

namespace CveManagement

/-- **A result is sound**: `True` stands for a command that has left the key with the id of the
node, and without a command the result is `False` and the node is not the leader. -/
def RefreshEnd.Sound (r : RefreshEnd) : Prop :=
  (r.returned = true → ∃ x, r.executed = some x ∧ x.holds = true) ∧
    (r.executed = none → r.returned = false ∧ r.isLeader = false)

namespace Election

variable {ν : Type*} [DecidableEq ν] {s : Election ν}

/-! ### What a reply says -/

/-- **A reply means what it says**: the script of `refresh` replies whether the key holds the id,
and a `SET NX` that is acknowledged has written it. -/
def ReplyMeans (c : ElectorCall ν) : Prop :=
  ∀ x, c.executed = some x → match c.command with
    | .extend => x.res = x.holds
    | .acquire | .refreshAcquire => x.res = true → x.holds = true
    | .release => True

/-- Redis replies so. -/
theorem perform_means (node : ν) (command : ElectorCommand) :
    ReplyMeans ⟨node, command, some ⟨(s.perform node command).2,
      decide ((s.perform node command).1.get? s.now () = some node)⟩, false⟩ := by
  have hlt : s.now < s.now + leaderTtl := by simp [leaderTtl, seconds]
  have hnx : s.owner = none → (s.redis.setNx s.now () node (s.now + leaderTtl)).get? s.now () =
      some node := fun h => by
    rw [Expiring.Store.setNx_of_none h, Expiring.Store.get?_set hlt]
  rintro x hx
  obtain rfl := Option.some.inj hx
  cases command with
  | acquire | refreshAcquire =>
    intro hnone
    have hkey := hnx (by simpa [perform] using hnone)
    simp [perform, hkey]
  | extend =>
    by_cases ho : s.owner = some node
    · simp [perform, Expiring.Store.expireIf_of_eq ho, Expiring.Store.get?_set hlt, ho]
    · have hsame : s.redis.get? s.now () ≠ some node := ho
      simp [perform, Expiring.Store.expireIf_of_ne hsame, ho, hsame]
  | release => trivial

/-- Every reply means what it says. -/
def RepliesMean (s : Election ν) : Prop := ∀ c ∈ s.calls, ReplyMeans c

/-- **Every step keeps that.** -/
theorem repliesMean_step (h : s.RepliesMean) (e : Event ν) : (step s e).RepliesMean := by
  -- a call that has sent its command has no reply yet
  have hsend : ∀ node command, (s.send node command).RepliesMean := fun node command c hc => by
    rcases List.mem_append.mp hc with hc | hc
    · exact h c hc
    · rw [List.mem_singleton.mp hc]
      exact fun x hx => absurd hx (by simp)
  cases e with
  | tick elapsed => exact h
  | call node method =>
    cases method with
    | acquire =>
      simp only [step, begin]
      split_ifs
      · exact h
      · exact hsend _ _
    | refresh => exact hsend _ _
    | release =>
      simp only [step, begin]
      split_ifs
      · exact hsend _ _
      · exact h
  | execute i =>
    rcases hc : s.calls[i]? with _ | c
    · simpa [step, hc] using h
    by_cases hx : c.executed.isSome
    · simpa [step, hc, executeCall, hx] using h
    · intro c' hc'
      simp only [step, hc, Option.elim_some, executeCall, hx] at hc'
      rcases List.mem_or_eq_of_mem_set hc' with hold | rfl
      · exact h c' hold
      · exact perform_means c.node c.command
  | finish i how =>
    rcases hc : s.calls[i]? with _ | c
    · simpa [step, hc] using h
    intro c' hc'
    simp only [step, hc, Option.elim_some, finishCall] at hc'
    split_ifs at hc'
    · exact h c' hc'
    · rcases List.mem_or_eq_of_mem_set hc' with hold | rfl
      · exact h c' hold
      · exact h c (List.mem_of_getElem? hc)

/-! ### Which errors leave a sound result -/

/-- **The error finds the flag down, or the command done**: when a call of `refresh` ends in an
error, its node does not take itself for the leader, or its command has been executed, and the
script has found the key with the id of the node. -/
def Answered (s : Election ν) (e : Event ν) : Prop :=
  ∀ i c, e = .finish i .error → s.calls[i]? = some c → c.ended = false →
    ofRefresh c.command = true → s.isLeader c.node = false ∨
      ∃ x, c.executed = some x ∧ (c.command = .refreshAcquire ∨ x.holds = true)

/-- The results of all the calls of `refresh` are sound. -/
def Sound (s : Election ν) : Prop := ∀ r ∈ s.refreshed, r.Sound

omit [DecidableEq ν] in
/-- The result of a call of `refresh` that ends in a given way. -/
theorem sound_conclude_iff {c : ElectorCall ν} (hmeans : ReplyMeans c) {how : CallEnd}
    (hreply : ¬(how = .reply ∧ c.executed = none)) (hkind : ofRefresh c.command = true)
    (isLeader : Bool) {flag r : Bool}
    (hr : conclude isLeader ((c.executed.map ElectorReply.res).getD false) c.command how =
      (flag, some r)) :
    RefreshEnd.Sound ⟨r, c.executed, flag⟩ ↔ (how = .error → isLeader = false ∨
      ∃ x, c.executed = some x ∧ (c.command = .refreshAcquire ∨ x.holds = true)) := by
  rcases hx : c.executed with _ | x
  · -- the command has not been executed, so the call has ended in an error or is cancelled
    rw [hx] at hr hreply
    cases how with
    | reply => simp at hreply
    | cancelled =>
      cases hcmd : c.command <;> simp [hcmd, conclude] at hr hkind
    | error =>
      cases hcmd : c.command <;> simp [hcmd, conclude, ofRefresh] at hr hkind
      · obtain ⟨rfl, rfl⟩ := hr
        simp [RefreshEnd.Sound]
      · obtain ⟨rfl, rfl⟩ := hr
        simp [RefreshEnd.Sound]
  · have hm := hmeans x hx
    rw [hx] at hr
    cases hcmd : c.command <;> simp [hcmd, ofRefresh] at hkind
    · -- the `acquire` that `refresh` calls
      rw [hcmd] at hm hr
      cases how <;> simp [conclude] at hr
      · obtain ⟨rfl, rfl⟩ := hr
        simpa [RefreshEnd.Sound] using hm
      · obtain ⟨rfl, rfl⟩ := hr
        simp [RefreshEnd.Sound]
    · -- the script
      rw [hcmd] at hm hr
      cases how with
      | reply =>
        rcases hres : x.res with _ | _
        · obtain ⟨rfl, rfl⟩ : flag = false ∧ r = false := by
            simpa [conclude, hres, eq_comm] using hr
          simp [RefreshEnd.Sound]
        · obtain ⟨rfl, rfl⟩ : flag = isLeader ∧ r = isLeader := by
            simpa [conclude, hres, eq_comm] using hr
          simp [RefreshEnd.Sound, hm ▸ hres]
      | error =>
        obtain ⟨rfl, rfl⟩ : flag = isLeader ∧ r = isLeader := by
          simpa [conclude, eq_comm] using hr
        cases r <;> simp [RefreshEnd.Sound]
      | cancelled => simp [conclude] at hr

omit [DecidableEq ν] in
/-- The condition, about the very call that ends. -/
theorem answered_finish_iff {i : ℕ} {c : ElectorCall ν} {how : CallEnd}
    (hc : s.calls[i]? = some c) :
    s.Answered (.finish i how) ↔ (how = .error → c.ended = false →
      ofRefresh c.command = true → s.isLeader c.node = false ∨
        ∃ x, c.executed = some x ∧ (c.command = .refreshAcquire ∨ x.holds = true)) := by
  constructor
  · rintro h rfl
    exact h i c rfl hc
  · intro h j c' he hj
    obtain ⟨rfl, rfl⟩ := Event.finish.inj he
    obtain rfl : c = c' := Option.some.inj (hc.symm.trans hj)
    exact h rfl

/-- **The end of a call keeps all results sound exactly if** an error finds the flag down or the
command done. -/
theorem sound_finishCall_iff {i : ℕ} {c : ElectorCall ν} {how : CallEnd} (hmeans : ReplyMeans c)
    (hs : s.Sound) :
    (s.finishCall i c how).Sound ↔ (how = .error → c.ended = false →
      ofRefresh c.command = true → s.isLeader c.node = false ∨
        ∃ x, c.executed = some x ∧ (c.command = .refreshAcquire ∨ x.holds = true)) := by
  rw [finishCall]
  by_cases hblock : c.ended = true ∨ how = .reply ∧ c.executed = none
  · rw [if_pos hblock]
    refine iff_of_true hs fun he hended => ?_
    rcases hblock with h | ⟨h, -⟩
    · rw [h] at hended
      exact absurd hended (by simp)
    · rw [h] at he
      exact absurd he (by simp)
  rw [if_neg hblock]
  have hended : c.ended = false := by simpa using fun h => hblock (Or.inl h)
  rcases hout : conclude (s.isLeader c.node) ((c.executed.map ElectorReply.res).getD false)
    c.command how with ⟨flag, returned⟩
  rcases hkind : ofRefresh c.command with _ | _
  · refine iff_of_true (fun r hr => hs r ?_) fun _ _ h => absurd h (by simp)
    simpa [hkind] using hr
  rcases returned with _ | r
  · refine iff_of_true (fun r hr => hs r (by simpa [hkind] using hr)) fun he _ _ => ?_
    rw [he] at hout
    cases hcmd : c.command <;> simp [hcmd, conclude, ofRefresh] at hout hkind
  -- one more result, and the old ones are sound
  have hlog : Sound { s with
      isLeader := Function.update s.isLeader c.node flag
      calls := s.calls.set i { c with ended := true }
      refreshed := s.refreshed ++ [⟨r, c.executed, flag⟩] } ↔
        RefreshEnd.Sound ⟨r, c.executed, flag⟩ := by
    constructor
    · intro h
      exact h _ (by simp)
    · intro h r' hr'
      rcases List.mem_append.mp hr' with hr' | hr'
      · exact hs r' hr'
      · rw [List.mem_singleton.mp hr']
        exact h
  refine hlog.trans ?_
  rw [sound_conclude_iff hmeans (fun h => hblock (Or.inr h)) hkind _ hout]
  simp [hended]

/-- **A step keeps all results sound exactly if its error finds the flag down or the command
done.** -/
theorem sound_step_iff (hmean : s.RepliesMean) (hs : s.Sound) (e : Event ν) :
    (step s e).Sound ↔ s.Answered e := by
  have hsame : (step s e).refreshed = s.refreshed → (∀ i, e ≠ .finish i .error) →
      ((step s e).Sound ↔ s.Answered e) := fun heq hne => by
    refine iff_of_true (fun r hr => hs r (heq ▸ hr)) fun i c he => absurd he (hne i)
  cases e with
  | tick elapsed => exact hsame rfl (by simp)
  | call node method =>
    refine hsame ?_ (by simp)
    cases method <;> simp only [step, begin] <;> split_ifs <;> rfl
  | execute i =>
    refine hsame ?_ (by simp)
    rcases hc : s.calls[i]? with _ | c
    · simp [step, hc]
    · simp only [step, hc, Option.elim_some, executeCall]
      split_ifs <;> rfl
  | finish i how =>
    rcases hc : s.calls[i]? with _ | c
    · refine iff_of_true (by simpa [step, hc] using hs) fun j c he hj => ?_
      rw [(Event.finish.inj he).1] at hc
      exact absurd (hj.symm.trans hc) (by simp)
    · have hstep : step s (.finish i how) = s.finishCall i c how := by simp [step, hc]
      rw [hstep, answered_finish_iff hc]
      exact sound_finishCall_iff (hmean c (List.mem_of_getElem? hc)) hs

open Trajectory in
/-- **Leadership is claimed with the lock in hand** throughout a run exactly when no `refresh`
ends in an error while its node takes itself for the leader, unless its command was executed and
found the key its own. -/
theorem throughout_sound_iff (now : Instant) (l : List (Event ν)) :
    Throughout step Sound (start now) l ↔ AllSteps step Answered (start now) l :=
  throughout_iff_allSteps (J := RepliesMean) (fun _ e h => repliesMean_step h e)
    (fun _ e hj hs => sound_step_iff hj hs e) (fun _ hc => absurd hc (List.not_mem_nil))
    (fun _ hr => absurd hr (List.not_mem_nil))

open Trajectory in
/-- **A leader stays one without Redis**: it has acquired the lock, Redis goes away, and its next
`refresh` returns `True` with no command executed. -/
theorem not_sound_unreachable :
    ¬(run step (start 0) [.call "a" .acquire, .execute 0, .finish 0 .reply, .tick 40000000,
      .call "a" .refresh, .finish 1 .error]).Sound := by
  intro h
  have hr := h ⟨true, none, true⟩ (by decide)
  exact absurd (hr.2 rfl).1 (by decide)

end Election

end CveManagement
