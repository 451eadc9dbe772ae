import CveManagement.Resolution.CacheTiers

/-!
# An invalidation among reads

`ResolutionCache.invalidate` deletes the key from Redis and then the row; `ResolutionCache.get` asks
Redis, then reads the row, then writes the row to Redis. The commands of an invalidation and of any
number of reads of the same string come in any order here
(`CveManagement.Invalidation.step`), and time passes between them.

The invalidation sticks exactly as long as no read has written to Redis after the `DEL`, in the last
day (`CveManagement.Invalidation.sticks_iff`): such a read has found a row that is deleted after
that.
-/

namespace CveManagement

/-- Where a `get` is. -/
inductive GetPhase
  /-- Before `GET`. -/
  | asking
  /-- Before the query. -/
  | reading
  /-- Before `SETEX`. -/
  | storing (row : ResolutionValues)
  | returned (result : Option CpeResolution)

/-- A `get` that has sent its first command and not come to its end. -/
def GetPhase.InFlight : GetPhase → Prop
  | .asking => False
  | .reading => True
  | .storing _ => True
  | .returned _ => False

/-- Where the `invalidate` is. -/
inductive InvalidatePhase
  /-- Before `DEL`. -/
  | deletingKey
  /-- Before `DELETE`. -/
  | deletingRow
  | done
  deriving DecidableEq

/-- **An invalidation among reads** of the same string; `storedLate` is the time of the last `SETEX`
after the `DEL`, which the code does not keep. -/
structure Invalidation (ω : Type) where
  tiers : ResolutionTiers
  gets : ω → GetPhase
  phase : InvalidatePhase
  storedLate : Option Instant

namespace Invalidation

open Trajectory

variable {ω : Type} [DecidableEq ω] (py : PyText) (input : Text)

/-- Whose command comes next. -/
inductive Event (ω : Type)
  | tick (elapsed : ℕ)
  | get (reader : ω)
  | invalidate

/-- **The next command of a `get`.** -/
def getStep (s : Invalidation ω) (reader : ω) : Invalidation ω :=
  match s.gets reader with
  | .asking =>
    match s.tiers.cached py input .executed with
    | some v =>
      { s with gets := Function.update s.gets reader (.returned (some (v.cached input))) }
    | none => { s with gets := Function.update s.gets reader .reading }
  | .reading =>
    match s.tiers.table input with
    | none => { s with gets := Function.update s.gets reader (.returned none) }
    | some v => { s with gets := Function.update s.gets reader (.storing v) }
  | .storing v =>
    { s with
      tiers := s.tiers.setex py input v .executed
      gets := Function.update s.gets reader (.returned (some (v.cached input)))
      storedLate := if s.phase = .deletingKey then s.storedLate else some s.tiers.now }
  | .returned _ => s

/-- **The next command of the `invalidate`.** -/
def invalidateStep (s : Invalidation ω) : Invalidation ω :=
  match s.phase with
  | .deletingKey =>
    { s with
      tiers := { s.tiers with redis := s.tiers.redis.del (ResolutionTiers.redisKey py input) }
      phase := .deletingRow }
  | .deletingRow =>
    { s with
      tiers := { s.tiers with table := Function.update s.tiers.table input none }
      phase := .done }
  | .done => s

/-- **One command**, or the passing of time. -/
def step (s : Invalidation ω) : Event ω → Invalidation ω
  | .tick elapsed => { s with tiers := { s.tiers with now := s.tiers.now + elapsed } }
  | .get reader => s.getStep py input reader
  | .invalidate => s.invalidateStep py input

/-- Nothing has begun. -/
def start (tiers : ResolutionTiers) : Invalidation ω :=
  ⟨tiers, fun _ => .asking, .deletingKey, none⟩

/-- The invalidation and the reads that have begun are at their end. -/
def Completed (s : Invalidation ω) : Prop := s.phase = .done ∧ ∀ reader, ¬(s.gets reader).InFlight

/-- **The invalidation sticks**: a `get` now returns `None`. -/
def Sticks (s : Invalidation ω) : Prop :=
  s.Completed → (s.tiers.get py input .executed .executed).2 = none

/-- **No late entry**: no read has sent its `SETEX` after the `DEL`, in the last day. -/
def NoLateEntry (s : Invalidation ω) : Prop :=
  s.Completed → ∀ stored, s.storedLate = some stored → stored + resolutionTtl ≤ s.tiers.now

/-- **Stored in time**: a read that has found the row sends its `SETEX` before the `DEL`. -/
def StoresBefore (s : Invalidation ω) : Event ω → Prop
  | .get reader => ∀ row, s.gets reader = .storing row → s.phase = .deletingKey
  | _ => True

/-! ### The calls alone -/

section Alone

variable {py} {input}

/-- **Three commands without another call are `get`** as a whole. -/
theorem get_alone (s : Invalidation ω) {reader : ω} (h : s.gets reader = .asking) :
    (run (step py input) s [.get reader, .get reader, .get reader]).tiers =
        (s.tiers.get py input .executed .executed).1 ∧
      (run (step py input) s [.get reader, .get reader, .get reader]).gets reader =
        .returned (s.tiers.get py input .executed .executed).2 := by
  rw [run_cons, run_cons, run_cons, run_nil, ResolutionTiers.get]
  cases hcached : s.tiers.cached py input .executed with
  | some v => simp [step, getStep, h, hcached]
  | none =>
    cases hrow : s.tiers.table input with
    | none => simp [step, getStep, h, hcached, hrow]
    | some v => simp [step, getStep, h, hcached, hrow]

omit [DecidableEq ω] in
/-- **Two commands without another call are `invalidate`** as a whole. -/
theorem invalidate_alone (s : Invalidation ω) (h : s.phase = .deletingKey) :
    ((s.invalidateStep py input).invalidateStep py input).tiers =
      s.tiers.invalidate py input .executed := by
  simp [invalidateStep, h, ResolutionTiers.invalidate]

end Alone

/-! ### What the commands leave -/

/-- **What is left of the key and of the row.** -/
structure Known (s : Invalidation ω) : Prop where
  early : s.phase = .deletingKey → s.storedLate = none
  absent : s.phase ≠ .deletingKey → s.storedLate = none →
    s.tiers.redis.entry (ResolutionTiers.redisKey py input) = none
  late : ∀ stored, s.storedLate = some stored → ∃ v,
    s.tiers.redis.entry (ResolutionTiers.redisKey py input) = some (v, stored + resolutionTtl)
  deleted : s.phase = .done → s.tiers.table input = none

section Step

variable {py} {input} {s : Invalidation ω}

omit [DecidableEq ω] in
theorem known_start (tiers : ResolutionTiers) :
    Known py input (start tiers : Invalidation ω) where
  early _ := rfl
  absent h := absurd rfl h
  late _ h := by cases h
  deleted h := by cases h

theorem known_getStep (h : Known py input s) (reader : ω) :
    Known py input (s.getStep py input reader) := by
  unfold getStep
  split
  · split <;> exact ⟨h.early, h.absent, h.late, h.deleted⟩
  · split <;> exact ⟨h.early, h.absent, h.late, h.deleted⟩
  next v hv =>
    by_cases hphase : s.phase = .deletingKey
    · rw [if_pos hphase]
      refine ⟨h.early, fun hlate => absurd hphase hlate, fun stored hstored => ?_, h.deleted⟩
      -- nothing is late yet
      rw [h.early hphase] at hstored
      cases hstored
    · rw [if_neg hphase]
      refine ⟨fun hearly => absurd hearly hphase, fun _ hnone => (by cases hnone), ?_, h.deleted⟩
      rintro _ ⟨⟩
      exact ⟨v, Expiring.Store.entry_set⟩
  · exact h

omit [DecidableEq ω] in
theorem known_invalidateStep (h : Known py input s) :
    Known py input (s.invalidateStep py input) := by
  unfold invalidateStep
  split
  next hphase =>
    refine ⟨fun hearly => (by cases hearly), fun _ _ => Function.update_self .., ?_,
      fun hdone => (by cases hdone)⟩
    intro stored hstored
    rw [h.early hphase] at hstored
    cases hstored
  next hphase =>
    have hlate : s.phase ≠ .deletingKey := by
      rw [hphase]
      decide
    exact ⟨fun hearly => (by cases hearly), fun _ => h.absent hlate, h.late,
      fun _ => Function.update_self ..⟩
  · exact h

theorem known_step (s : Invalidation ω) (e : Event ω) (h : Known py input s) :
    Known py input (step py input s e) := by
  cases e with
  | tick elapsed => exact ⟨h.early, h.absent, h.late, h.deleted⟩
  | get reader => exact known_getStep h reader
  | invalidate => exact known_invalidateStep h

omit [DecidableEq ω] in
/-- A `get` after the row's deletion returns what is under the key. -/
theorem get_eq_none_iff (hrow : s.tiers.table input = none) :
    (s.tiers.get py input .executed .executed).2 = none ↔
      s.tiers.redis.get? s.tiers.now (ResolutionTiers.redisKey py input) = none := by
  have hcached : s.tiers.cached py input .executed =
      s.tiers.redis.get? s.tiers.now (ResolutionTiers.redisKey py input) := if_pos rfl
  rw [ResolutionTiers.get, hcached]
  cases s.tiers.redis.get? s.tiers.now (ResolutionTiers.redisKey py input) with
  | none => simp only [hrow]
  | some v => exact iff_of_false (fun h => by cases h) fun h => by cases h

omit [DecidableEq ω] in
/-- **Whether the invalidation sticks** depends on whether the last late entry has expired. -/
theorem sticks_iff_noLateEntry (h : Known py input s) : s.Sticks py input ↔ s.NoLateEntry := by
  refine forall_congr' fun hcompleted => ?_
  have hphase : s.phase ≠ .deletingKey := by
    rw [hcompleted.1]
    decide
  rw [get_eq_none_iff (h.deleted hcompleted.1), Expiring.Store.get?]
  cases hlate : s.storedLate with
  | none =>
    rw [h.absent hphase hlate]
    exact iff_of_true rfl fun _ hstored => by cases hstored
  | some stored =>
    obtain ⟨v, hentry⟩ := h.late stored hlate
    rw [hentry, Option.bind_some]
    dsimp only
    split_ifs with hlive
    · exact iff_of_false (fun hnone => by cases hnone) fun hall => (hall stored rfl).not_gt hlive
    · exact iff_of_true rfl fun _ hstored => Option.some.inj hstored ▸ not_lt.mp hlive

/-- Without a late `SETEX` there is none to remember. -/
theorem storedLate_step (s : Invalidation ω) (e : Event ω) (h : s.storedLate = none)
    (he : StoresBefore s e) : (step py input s e).storedLate = none := by
  cases e with
  | tick elapsed => exact h
  | get reader =>
    rw [step, getStep]
    split
    · split <;> exact h
    · split <;> exact h
    next v hv => exact (if_pos (he v hv)).trans h
    · exact h
  | invalidate =>
    rw [step, invalidateStep]
    split <;> exact h

end Step

/-! ### Runs -/

/-- **When an invalidation sticks**: over every order of the commands of an invalidation and of any
number of reads, exactly if, whenever all of them are at their end, no read has sent its `SETEX`
after the `DEL` in the last day. -/
theorem sticks_iff (tiers : ResolutionTiers) (l : List (Event ω)) :
    Throughout (step py input) (Sticks py input) (start tiers) l ↔
      Throughout (step py input) NoLateEntry (start tiers) l :=
  (throughout_of_step known_step (known_start tiers) l).congr fun _ => sticks_iff_noLateEntry

/-- An invalidation sticks if each read that has found the row is at its end before the `DEL`. -/
theorem sticks_of_storesBefore (tiers : ResolutionTiers) {l : List (Event ω)}
    (h : AllSteps (step py input) StoresBefore (start tiers) l) :
    Throughout (step py input) (Sticks py input) (start tiers) l := by
  have hlate : Throughout (step py input) (fun s => s.storedLate = none) (start tiers) l :=
    throughout_of_allSteps storedLate_step rfl h
  refine ((throughout_of_step known_step (known_start tiers) l).congr fun _ =>
    sticks_iff_noLateEntry).mpr (hlate.mono fun s hnone _ stored hstored => ?_)
  rw [hnone] at hstored
  cases hstored

/-- A row of a string that is to be invalidated. -/
def withRow (input : Text) (v : ResolutionValues) : ResolutionTiers :=
  { ResolutionTiers.start 0 with table := Function.update (fun _ => none) input (some v) }

/-- A read that finds the row before both are deleted, and writes it after that. -/
def overtaken : List (Event Unit) :=
  [.get (), .get (), .invalidate, .invalidate, .get ()]

/-- **A read that is overtaken** leaves an entry behind. -/
theorem not_sticks : ¬∀ (ω : Type) [DecidableEq ω] (py : PyText) (input : Text)
    (tiers : ResolutionTiers) (l : List (Event ω)),
    Throughout (step py input) (Sticks py input) (start tiers) l := by
  intro h
  have hsticks := (h Unit .ascii "nginx".toList
    (withRow "nginx".toList (ResolutionTiers.confirmed "nginx" "cpe:2.3:a:f5:nginx").values)
    overtaken).last
  have hknown : Throughout (step .ascii "nginx".toList) (Known .ascii "nginx".toList) _ overtaken :=
    throughout_of_step known_step (known_start
      (withRow "nginx".toList (ResolutionTiers.confirmed "nginx" "cpe:2.3:a:f5:nginx").values)) _
  have hlate := (sticks_iff_noLateEntry hknown.last).mp hsticks
    ⟨rfl, fun _ hflight => hflight⟩ 0 rfl
  exact absurd hlate (by decide +kernel)

end Invalidation

end CveManagement
