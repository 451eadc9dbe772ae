import CveManagement.Exploitability.Budget
import Mathlib

/-!
# What the calls of a process send

A call sends its normalized ids in the order in which they first occur, none of them twice, and
none from the batch on that the counter refuses. It follows from what a step makes of the ids that
a call has sent and those it has left (`CveManagement.IntelCall.trail`), of which it only drops
some.
-/

namespace CveManagement

/-! ### The order of the ids -/

section Ids

variable {py : PyCase}

/-- **The ids are normalized in the order in which they first occur.** -/
theorem pairwise_normalized (py : PyCase) (cveIds : List String) :
    (py.normalized cveIds).Pairwise fun x y =>
      (cveIds.map py.normalize).idxOf x < (cveIds.map py.normalize).idxOf y := by
  -- by induction from the end: an id that is added occurs for the first time in the last place
  induction cveIds using List.reverseRecOn with
  | nil => exact List.Pairwise.nil
  | append_singleton cveIds cid ih =>
    have hstep : py.normalized (cveIds ++ [cid]) = py.collect (py.normalized cveIds) cid := by
      rw [PyCase.normalized, List.foldl_append]
      rfl
    have hold : ∀ x ∈ py.normalized cveIds, x ∈ cveIds.map py.normalize := fun x hx => by
      obtain ⟨-, cid', hcid', rfl⟩ := mem_normalized.mp hx
      exact List.mem_map_of_mem hcid'
    have hidx : ∀ x ∈ py.normalized cveIds,
        ((cveIds ++ [cid]).map py.normalize).idxOf x = (cveIds.map py.normalize).idxOf x :=
      fun x hx => by rw [List.map_append, List.idxOf_append_of_mem (hold x hx)]
    have hkeep : (py.normalized cveIds).Pairwise fun x y =>
        ((cveIds ++ [cid]).map py.normalize).idxOf x <
          ((cveIds ++ [cid]).map py.normalize).idxOf y :=
      ih.imp_of_mem fun hx hy h => by rwa [hidx _ hx, hidx _ hy]
    rw [hstep, PyCase.collect]
    split_ifs with hnew
    · rw [List.pairwise_append]
      refine ⟨hkeep, List.pairwise_singleton _ _, fun x hx y hy => ?_⟩
      have hfresh : py.normalize cid ∉ cveIds.map py.normalize := fun hmem => by
        obtain ⟨cid', hcid', heq⟩ := List.mem_map.mp hmem
        exact hnew.2 (mem_normalized.mpr ⟨hnew.1, cid', hcid', heq⟩)
      rw [List.mem_singleton.mp hy, hidx x hx, List.map_append,
        List.idxOf_append_of_notMem hfresh]
      exact lt_of_lt_of_le (List.idxOf_lt_length_of_mem (hold x hx)) (Nat.le_add_right _ _)
    · exact hkeep

end Ids

/-! ### What a step does to a call -/

namespace IntelCall

/-- The ids that a call has sent, and then those that it has left. -/
def trail (c : IntelCall) : List String := c.sent.flatten ++ c.phase.left.flatten

/-- **A call goes on**: of what it had sent and had left, it drops some. -/
def Continues (c c' : IntelCall) : Prop := c'.cveIds = c.cveIds ∧ c'.trail.Sublist c.trail

theorem Continues.refl (c : IntelCall) : c.Continues c := ⟨rfl, List.Sublist.refl _⟩

theorem Continues.trans {c c' c'' : IntelCall} (h : c.Continues c') (h' : c'.Continues c'') :
    c.Continues c'' :=
  ⟨h'.1.trans h.1, h'.2.trans h.2⟩

end IntelCall

namespace IntelProcess

variable {py : PyCase} {batchSize : ℤ} {s : IntelProcess}

theorem getElem?_setPhase (i : ℕ) {c c' : IntelCall} (hc : s.calls[i]? = some c)
    (phase : IntelPhase) :
    (s.setPhase i c' phase).calls[i]? = some { c' with phase := phase } := by
  obtain ⟨hi, -⟩ := List.getElem?_eq_some_iff.mp hc
  simp [setPhase, hi]

/-- What is sent of a batch under way, and what was to come after it. -/
theorem sublist_trail (sent batches : List (List String)) (batch : List String) (b : Bool)
    {rest : List (List String)} (hrest : rest.flatten.Sublist batches.flatten) :
    ((sent ++ if b then [batch] else []).flatten ++ rest.flatten).Sublist
      (sent.flatten ++ (batch :: batches).flatten) := by
  rw [List.flatten_append, List.flatten_cons, List.append_assoc]
  refine List.Sublist.append_left ?_ _
  cases b with
  | true => simpa using List.Sublist.append_left hrest batch
  | false => simpa using hrest.trans (List.sublist_append_right _ _)

/-- A call goes on past the counter, or is at its end there. -/
theorem calls_consumeCall (s : IntelProcess) (i : ℕ) (c : IntelCall) :
    (s.consumeCall i c).calls = s.calls ∨
      ∃ c', (s.consumeCall i c).calls = s.calls.set i c' ∧ c.Continues c' := by
  rw [consumeCall]
  rcases hp : c.phase with ⟨_ | ⟨batch, batches⟩, results⟩ | _ | _ | _ | _
  · refine Or.inr ⟨_, rfl, rfl, ?_⟩
    simp [IntelCall.trail, hp, IntelPhase.left]
  · dsimp only
    rcases s.daily.consume s.today batch.length with ⟨_ | _, daily⟩
    · refine Or.inr ⟨_, rfl, rfl, ?_⟩
      simp [IntelCall.trail, IntelPhase.left]
    · refine Or.inr ⟨_, rfl, rfl, ?_⟩
      simp [IntelCall.trail, hp, IntelPhase.left]
  · exact Or.inl rfl
  · exact Or.inl rfl
  · exact Or.inl rfl
  · exact Or.inl rfl

/-- A call goes on with its next batch, or raises. -/
theorem calls_fetchedCall (py : PyCase) (s : IntelProcess) (i : ℕ) (c : IntelCall)
    (exchange : Exchange) (clock : ℕ → Instant) :
    (s.fetchedCall py i c exchange clock).calls = s.calls ∨
      ∃ c', (s.fetchedCall py i c exchange clock).calls = s.calls.set i c' ∧
        c.Continues c' := by
  rw [fetchedCall]
  rcases hp : c.phase with ⟨batches, results⟩ | ⟨batch, batches, results⟩ | _ | _ | _
  · exact Or.inl rfl
  · -- the batch was on its way or not, and the next ones come after it or not at all
    have hnext := sublist_trail c.sent batches batch exchange.sends (List.Sublist.refl _)
    have hnil : (([] : List (List String)).flatten).Sublist batches.flatten :=
      List.nil_sublist _
    have hstop := sublist_trail c.sent batches batch exchange.sends hnil
    dsimp only
    split
    · refine Or.inr ⟨_, rfl, rfl, ?_⟩
      rwa [IntelCall.trail, IntelCall.trail, hp]
    · next e _ =>
      by_cases hcaught : e.caught = true
      · rw [if_pos hcaught]
        refine Or.inr ⟨_, rfl, rfl, ?_⟩
        rwa [IntelCall.trail, IntelCall.trail, hp]
      · rw [if_neg hcaught]
        refine Or.inr ⟨_, rfl, rfl, ?_⟩
        rwa [IntelCall.trail, IntelCall.trail, hp]
  · exact Or.inl rfl
  · exact Or.inl rfl
  · exact Or.inl rfl

/-- A call is cancelled, with its batch on its way or not. -/
theorem calls_cancelCall (s : IntelProcess) (i : ℕ) (c : IntelCall) (sends : Bool) :
    (s.cancelCall i c sends).calls = s.calls ∨
      ∃ c', (s.cancelCall i c sends).calls = s.calls.set i c' ∧ c.Continues c' := by
  rw [cancelCall]
  rcases hp : c.phase with ⟨batches, results⟩ | ⟨batch, batches, results⟩ | _ | _ | _
  · refine Or.inr ⟨_, rfl, rfl, ?_⟩
    simp [IntelCall.trail, IntelPhase.left]
  · have hnil : (([] : List (List String)).flatten).Sublist batches.flatten :=
      List.nil_sublist _
    have hstop := sublist_trail c.sent batches batch sends hnil
    refine Or.inr ⟨_, rfl, rfl, ?_⟩
    rwa [IntelCall.trail, IntelCall.trail, hp]
  · exact Or.inl rfl
  · exact Or.inl rfl
  · exact Or.inl rfl

/-- **What a step does to the calls**: nothing, or there is a new one, or one of them goes on. -/
theorem calls_step_cases (py : PyCase) (batchSize : ℤ) (s : IntelProcess) (e : Event) :
    (step py batchSize s e).calls = s.calls ∨
      (∃ cveIds, (step py batchSize s e).calls =
        s.calls ++ [⟨cveIds, .next (py.batches batchSize cveIds) fun _ => none, []⟩]) ∨
      ∃ i c c', s.calls[i]? = some c ∧ (step py batchSize s e).calls = s.calls.set i c' ∧
        c.Continues c' := by
  cases e with
  | days elapsed => exact Or.inl rfl
  | call cveIds => exact Or.inr (Or.inl ⟨cveIds, rfl⟩)
  | consume i =>
    rcases hc : s.calls[i]? with _ | c
    · exact Or.inl (by simp [step, hc])
    have hstep : step py batchSize s (.consume i) = s.consumeCall i c := by simp [step, hc]
    rw [hstep]
    rcases s.calls_consumeCall i c with hsame | ⟨c', hset, hcontinues⟩
    · exact Or.inl hsame
    · exact Or.inr (Or.inr ⟨i, c, c', hc, hset, hcontinues⟩)
  | fetched i exchange clock =>
    rcases hc : s.calls[i]? with _ | c
    · exact Or.inl (by simp [step, hc])
    have hstep : step py batchSize s (.fetched i exchange clock) =
        s.fetchedCall py i c exchange clock := by simp [step, hc]
    rw [hstep]
    rcases calls_fetchedCall py s i c exchange clock with hsame | ⟨c', hset, hcontinues⟩
    · exact Or.inl hsame
    · exact Or.inr (Or.inr ⟨i, c, c', hc, hset, hcontinues⟩)
  | cancel i sends =>
    rcases hc : s.calls[i]? with _ | c
    · exact Or.inl (by simp [step, hc])
    have hstep : step py batchSize s (.cancel i sends) = s.cancelCall i c sends := by
      simp [step, hc]
    rw [hstep]
    rcases s.calls_cancelCall i c sends with hsame | ⟨c', hset, hcontinues⟩
    · exact Or.inl hsame
    · exact Or.inr (Or.inr ⟨i, c, c', hc, hset, hcontinues⟩)

/-- **A step continues every call.** -/
theorem continues_step (py : PyCase) (batchSize : ℤ) {i : ℕ} {c : IntelCall}
    (hc : s.calls[i]? = some c) (e : Event) :
    ∃ c', (step py batchSize s e).calls[i]? = some c' ∧ c.Continues c' := by
  obtain ⟨hi, -⟩ := List.getElem?_eq_some_iff.mp hc
  rcases calls_step_cases py batchSize s e with hsame | ⟨cveIds, hnew⟩ |
    ⟨j, d, d', hd, hset, hcont⟩
  · exact ⟨c, by rwa [hsame], .refl c⟩
  · exact ⟨c, by rwa [hnew, List.getElem?_append_left hi], .refl c⟩
  · rw [hset]
    by_cases hj : j = i
    · subst hj
      obtain rfl : c = d := Option.some.inj (hc.symm.trans hd)
      exact ⟨d', List.getElem?_set_self hi, hcont⟩
    · exact ⟨c, by rwa [List.getElem?_set_ne hj], .refl c⟩

open Trajectory in
/-- **A run continues every call.** -/
theorem continues_run (py : PyCase) (batchSize : ℤ) (l : List Event) {i : ℕ} {c : IntelCall}
    (hc : s.calls[i]? = some c) :
    ∃ c', (run (step py batchSize) s l).calls[i]? = some c' ∧ c.Continues c' := by
  induction l generalizing s c with
  | nil => exact ⟨c, hc, .refl c⟩
  | cons e l ih =>
    obtain ⟨c', hc', hcont⟩ := continues_step py batchSize hc e
    obtain ⟨c'', hc'', hcont'⟩ := ih hc'
    exact ⟨c'', hc'', hcont.trans hcont'⟩

/-! ### Every call in a run -/

/-- The ids that a call has sent and has left are normalized ids of its own, in their order. -/
def Orderly (py : PyCase) (s : IntelProcess) : Prop :=
  ∀ c ∈ s.calls, c.trail.Sublist (py.normalized c.cveIds)

/-- **Every step keeps the calls in order.** -/
theorem orderly_step (h : s.Orderly py) (e : Event) : (step py batchSize s e).Orderly py := by
  intro c' hc'
  rcases calls_step_cases py batchSize s e with hsame | ⟨cveIds, hnew⟩ |
    ⟨j, d, d', hd, hset, hcont⟩
  · exact h c' (hsame ▸ hc')
  · rw [hnew] at hc'
    rcases List.mem_append.mp hc' with hold | hlast
    · exact h c' hold
    · -- a new call has all of its ids left
      rw [List.mem_singleton.mp hlast, IntelCall.trail]
      simp [IntelPhase.left, flatten_batches]
  · rw [hset] at hc'
    rcases List.mem_or_eq_of_mem_set hc' with hold | rfl
    · exact h c' hold
    · rw [hcont.1]
      exact hcont.2.trans (h d (List.mem_of_getElem? hd))

/-- The counter refuses the next batch of a call, which has some others left. -/
def Refuses (s : IntelProcess) (i : ℕ) (batch : List String) (batches : List (List String)) :
    Prop :=
  ∃ c results, s.calls[i]? = some c ∧ c.phase = .next (batch :: batches) results ∧
    (s.daily.consume s.today batch.length).1 = false

/-- **A refused batch** is not counted, and the call returns. -/
theorem refuses_step (py : PyCase) (batchSize : ℤ) {i : ℕ} {batch : List String}
    {batches : List (List String)} (h : s.Refuses i batch batches) :
    (step py batchSize s (.consume i)).daily = s.daily.rollover s.today ∧
      ∃ c c', s.calls[i]? = some c ∧ c.phase.left = batch :: batches ∧
        (step py batchSize s (.consume i)).calls[i]? = some c' ∧ c'.sent = c.sent ∧
          c'.phase.left = [] := by
  obtain ⟨c, results, hc, hp, hno⟩ := h
  rcases s.daily.consume_cases s.today batch.length with ⟨-, hyes, -⟩ | ⟨-, -, hd⟩
  · exact absurd (hyes.symm.trans hno) (by simp)
  have hconsume : s.daily.consume s.today batch.length =
      (false, s.daily.rollover s.today) := Prod.ext hno hd
  have hstep : step py batchSize s (.consume i) =
      { s.setPhase i c (.returned results) with daily := s.daily.rollover s.today } := by
    simp [step, hc, consumeCall, hp, hconsume]
  rw [hstep]
  refine ⟨rfl, c, { c with phase := .returned results }, hc, by rw [hp]; rfl, ?_, rfl, rfl⟩
  exact getElem?_setPhase i hc _

open Trajectory in
/-- **The daily budget**: no day has more ids let through than the limit, each call sends its
normalized ids in first-occurrence order and none of them twice, and when the counter refuses a
batch, it is left as the counter of that day, and the call never sends an id of that batch or of
a later one. -/
theorem daily_budget (py : PyCase) (batchSize : ℤ) {limit : ℤ} (hlimit : 0 ≤ limit) (day : ℤ)
    (l : List Event) :
    Throughout (step py batchSize) (fun s => (∀ d, (s.admittedOn d : ℤ) ≤ limit) ∧
      ∀ c ∈ s.calls, (∀ x ∈ c.sent.flatten, x ∈ py.normalized c.cveIds) ∧
        c.sent.flatten.Pairwise fun x y =>
          (c.cveIds.map py.normalize).idxOf x < (c.cveIds.map py.normalize).idxOf y)
      (start limit day) l ∧
    ∀ l₁ l₂ i batch batches, l = l₁ ++ .consume i :: l₂ →
      (run (step py batchSize) (start limit day) l₁).Refuses i batch batches →
        (run (step py batchSize) (start limit day) (l₁ ++ [.consume i])).daily =
          (run (step py batchSize) (start limit day) l₁).daily.rollover
            (run (step py batchSize) (start limit day) l₁).today ∧
        ∀ c, (run (step py batchSize) (start limit day) l).calls[i]? = some c →
          ∀ x ∈ (batch :: batches).flatten, x ∉ c.sent.flatten := by
  have hbudget : Throughout (step py batchSize) (Budgeted limit) (start limit day) l :=
    throughout_of_step (I := Budgeted limit) (fun _ e h => budgeted_step h e)
      ⟨rfl, le_rfl, fun a ha => absurd ha List.not_mem_nil, rfl,
        fun _ => by simpa [admittedOn, start] using hlimit⟩ l
  have horder : ∀ l', Throughout (step py batchSize) (Orderly py) (start limit day) l' := fun l' =>
    throughout_of_step (I := Orderly py) (fun _ e h => orderly_step h e)
      (fun c hc => absurd hc List.not_mem_nil) l'
  refine ⟨ throughout_iff_prefix.mpr fun l₁ l₂ hl => ⟨?_, fun c hc => ?_⟩, ?_⟩
  · exact ( throughout_iff_prefix.mp hbudget l₁ l₂ hl).within
  · have hsub : c.sent.flatten.Sublist (py.normalized c.cveIds) :=
      (List.sublist_append_left _ _).trans ((horder l₁).last c hc)
    exact ⟨fun x hx => hsub.subset hx, (pairwise_normalized py c.cveIds).sublist hsub⟩
  · intro l₁ l₂ i batch batches hl href
    obtain ⟨hdaily, c, c', hc, hleft, hc', hsent, hnone⟩ :=
      refuses_step py batchSize href
    rw [hl, run_append, run_append, run_cons, run_cons, run_nil]
    refine ⟨hdaily, fun d hd x hx hmem => ?_⟩
    -- what the call sends in all is what it had sent before the refusal
    obtain ⟨d', hd', hcont⟩ := continues_run py batchSize l₂ hc'
    obtain rfl : d' = d := Option.some.inj (hd'.symm.trans hd)
    have hbefore : x ∈ c.sent.flatten := by
      have htrail := hcont.2.subset (List.mem_append_left _ hmem)
      rwa [IntelCall.trail, hnone, List.flatten_nil, List.append_nil, hsent] at htrail
    have hnodup : c.trail.Nodup :=
      ((horder l₁).last c (List.mem_of_getElem? hc)).nodup nodup_normalized
    rw [IntelCall.trail, hleft, List.nodup_append] at hnodup
    exact hnodup.2.2 x hbefore x hx rfl

open Trajectory in
theorem daily_budget_example :
    Throughout (step .ascii 1) (fun s => (∀ d, (s.admittedOn d : ℤ) ≤ 1) ∧
      ∀ c ∈ s.calls, (∀ x ∈ c.sent.flatten, x ∈ PyCase.ascii.normalized c.cveIds) ∧
        c.sent.flatten.Pairwise fun x y =>
          (c.cveIds.map PyCase.ascii.normalize).idxOf x <
            (c.cveIds.map PyCase.ascii.normalize).idxOf y)
      (start 1 0)
      [.call ["cve-2024-1", "CVE-2024-2"], .consume 0, .fetched 0 .unanswered fun _ => 0,
        .consume 0] :=
  (daily_budget .ascii 1 zero_le_one 0 _).1

open Trajectory in
/-- **A refusal resets the counter of another day**: one id a day, of which yesterday's is used,
and a batch of two. -/
theorem refused_resets :
    let s := run (step .ascii 2) (start 1 0)
      [.call ["CVE-2024-1"], .consume 0, .days 1, .call ["CVE-2024-2", "CVE-2024-3"]]
    s.Refuses 1 ["CVE-2024-2", "CVE-2024-3"] [] ∧ s.daily.count = 1 ∧
      (step .ascii 2 s (.consume 1)).daily.count = 0 := by
  intro s
  exact ⟨⟨_, _, rfl, rfl, by decide⟩, by decide, by decide⟩

end IntelProcess

end CveManagement
