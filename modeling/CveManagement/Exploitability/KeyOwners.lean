import CveManagement.Exploitability.InFlight
import Mathlib

/-!
# Whose key is deleted

A key carries no owner, so a refresh deletes what it finds. As long as every key was deleted by
its owner, the keys of Redis are the claims that are less than a minute old
(`CveManagement.InFlight.Linked`); and then a step keeps the keys with their owners exactly if it
is in time (`CveManagement.InFlight.owned_step_iff`).
-/

namespace CveManagement

namespace InFlight

variable {s : InFlight} {e : Event} {i j : ℕ} {cid cid' : String}

/-! ### What a step does to the keys -/

/-- A step deletes one key at most. -/
theorem Deletes.unique (h : s.Deletes e i cid) (h' : s.Deletes e j cid') : j = i ∧ cid' = cid := by
  cases e with
  | release k outcome =>
    obtain ⟨rfl, -, rest, hi⟩ := h
    obtain ⟨rfl, -, rest', hj⟩ := h'
    rw [hi] at hj
    simp only [Option.some.injEq, LazyPhase.releasing.injEq, List.cons.injEq] at hj
    exact ⟨rfl, hj.1.symm⟩
  | _ => exact h.elim

/-- A step that deletes a key ends no other refresh. -/
theorem Deletes.eq_of_leaves (h : s.Deletes e i cid) (h' : s.Leaves e j) : j = i := by
  cases e with
  | release k outcome =>
    obtain ⟨rfl, -, -⟩ := h
    exact h'.1.symm
  | _ => exact h.elim

/-- **What a step may do to the keys**: nothing, or a `SET NX` of a refresh that is not over, or a
`DEL`. -/
def KeyStep (s : InFlight) (e : Event) : Prop :=
  ((step s e).redis = s.redis ∧ (step s e).claims = s.claims ∧
    (step s e).removed = s.removed ∧ s.now ≤ (step s e).now ∧
    ((step s e).now = s.now ∨ ∀ i, ¬s.Leaves e i) ∧ ∀ i cid, ¬s.Deletes e i cid) ∨
  (∃ i cid, s.refreshes[i]? ≠ some .exited ∧ (step s e).redis = (s.setClaim i cid).redis ∧
    (step s e).claims = (s.setClaim i cid).claims ∧ (step s e).removed = s.removed ∧
    (step s e).now = s.now ∧ (∀ i, ¬s.Leaves e i) ∧ ∀ i cid, ¬s.Deletes e i cid) ∨
  ∃ i cid, s.Deletes e i cid ∧ (step s e).redis = (s.delKey i cid).redis ∧
    (step s e).claims = (s.delKey i cid).claims ∧
    (step s e).removed = (s.delKey i cid).removed ∧ (step s e).now = s.now

theorem keyStep_claim (s : InFlight) (i : ℕ) (outcome : RedisOutcome) :
    s.KeyStep (.claim i outcome) := by
  simp only [KeyStep, Leaves, Deletes, not_false_eq_true, implies_true, and_true, or_true]
  rw [step]
  split
  · next cid cveIds owned hi =>
    have hphase : s.refreshes[i]? ≠ some .exited := by simp [hi]
    cases outcome with
    | unreached => exact Or.inl ⟨rfl, rfl, rfl, le_rfl⟩
    | executed => exact Or.inr (Or.inl ⟨i, cid, hphase, rfl, rfl, rfl, rfl⟩)
    | lostReply => exact Or.inr (Or.inl ⟨i, cid, hphase, rfl, rfl, rfl, rfl⟩)
  · exact Or.inl ⟨rfl, rfl, rfl, le_rfl⟩

theorem keyStep_release (s : InFlight) (i : ℕ) (outcome : RedisOutcome) :
    s.KeyStep (.release i outcome) := by
  rw [KeyStep, step]
  split
  · next cid cveIds hi =>
    cases outcome with
    | unreached => exact Or.inl ⟨rfl, rfl, rfl, le_rfl, Or.inl rfl, by simp [Deletes]⟩
    | executed =>
      exact Or.inr (Or.inr ⟨i, cid, ⟨rfl, by simp, cveIds, hi⟩, rfl, rfl, rfl, rfl⟩)
    | lostReply =>
      exact Or.inr (Or.inr ⟨i, cid, ⟨rfl, by simp, cveIds, hi⟩, rfl, rfl, rfl, rfl⟩)
  · next hno =>
    refine Or.inl ⟨rfl, rfl, rfl, le_rfl, Or.inl rfl, ?_⟩
    rintro j cid ⟨rfl, -, rest, hi⟩
    exact hno cid rest hi

/-- **What a step does to the keys.** -/
theorem keys_step_cases (s : InFlight) (e : Event) : s.KeyStep e := by
  cases e with
  | tick elapsed =>
    refine Or.inl ⟨rfl, rfl, rfl, ?_, Or.inr fun i => by simp [Leaves], by simp [Deletes]⟩
    simp [step]
  | schedule cveIds configured circuitOpen =>
    simp only [KeyStep, step, Leaves, Deletes]
    split_ifs <;> simp
  | claim i outcome => exact s.keyStep_claim i outcome
  | fetched i result =>
    refine Or.inl ?_
    simp only [step, Leaves, Deletes]
    split <;> simp [setPhase]
  | stored i ok =>
    refine Or.inl ?_
    simp only [step, Deletes]
    split <;> simp [setPhase]
  | release i outcome => exact s.keyStep_release i outcome
  | cancel i =>
    refine Or.inl ?_
    simp only [step, Deletes]
    split <;> simp [setPhase]

/-! ### Keys and claims -/

/-- **The keys are the claims**: a key is there by a claim of the refresh that it names, and a
claim less than a minute old has its key. -/
structure Linked (s : InFlight) : Prop where
  claim : ∀ cid i expiry, s.redis.entry cid = some (i, expiry) →
    ∃ c ∈ s.claims, c.refresh = i ∧ c.cveId = cid ∧ expiry = c.claimedAt + inFlightTtl
  key : ∀ c ∈ s.claims, c.Fresh s.now →
    s.redis.entry c.cveId = some (c.refresh, c.claimedAt + inFlightTtl)

/-- A refresh has the key that names it. -/
theorem Linked.get?_iff (h : s.Linked) : s.redis.get? s.now cid = some i ↔ s.Holds i cid := by
  rw [Expiring.Store.get?_eq_some_iff]
  constructor
  · rintro ⟨expiry, hentry, hlt⟩
    obtain ⟨c, hc, hi, hcid, rfl⟩ := h.claim cid i expiry hentry
    exact ⟨c, hc, hi, hcid, hlt⟩
  · rintro ⟨c, hc, rfl, rfl, hfresh⟩
    exact ⟨_, h.key c hc hfresh, hfresh⟩

/-- Time passes, and the keys and the claims are the same. -/
theorem Linked.mono {t : InFlight} (h : s.Linked) (hredis : t.redis = s.redis)
    (hclaims : t.claims = s.claims) (hnow : s.now ≤ t.now) : t.Linked := by
  refine ⟨?_, ?_⟩
  · rw [hredis, hclaims]
    exact h.claim
  · rw [hredis, hclaims]
    exact fun c hc hfresh => h.key c hc (lt_of_le_of_lt hnow hfresh)

/-- **A `SET NX` links its claim** to the key, if the key was free. -/
theorem Linked.setClaim (h : s.Linked) (i : ℕ) (cid : String) : (s.setClaim i cid).Linked := by
  rcases hfree : s.redis.get? s.now cid with _ | j
  · have hredis : (s.setClaim i cid).redis = s.redis.set cid i (s.now + inFlightTtl) :=
      Expiring.Store.setNx_of_none hfree
    have hclaims : (s.setClaim i cid).claims = s.claims ++ [⟨i, cid, s.now⟩] := by
      simp [InFlight.setClaim, hfree]
    refine ⟨fun cid' j expiry hentry => ?_, fun c hmem hfresh => ?_⟩
    · rw [hredis] at hentry
      rw [hclaims]
      by_cases hcid : cid' = cid
      · rw [hcid, Expiring.Store.entry_set] at hentry
        obtain ⟨rfl, rfl⟩ := Prod.mk.inj (Option.some.inj hentry)
        exact ⟨⟨i, cid, s.now⟩, by simp, rfl, hcid.symm, rfl⟩
      · rw [Expiring.Store.entry_set_of_ne hcid] at hentry
        obtain ⟨c, hmem, hrest⟩ := h.claim cid' j expiry hentry
        exact ⟨c, List.mem_append_left _ hmem, hrest⟩
    · rw [hredis]
      rw [hclaims] at hmem
      rcases List.mem_append.mp hmem with hmem | hmem
      · -- a fresh claim of this CVE would have its key there
        have hother : c.cveId ≠ cid := fun hcid => by
          have hthere := h.get?_iff.mpr ⟨c, hmem, rfl, hcid, hfresh⟩
          rw [hfree] at hthere
          exact absurd hthere (Option.some_ne_none _).symm
        rw [Expiring.Store.entry_set_of_ne hother]
        exact h.key c hmem hfresh
      · rw [List.mem_singleton.mp hmem, Expiring.Store.entry_set]
  · refine h.mono (Expiring.Store.setNx_of_some hfree) ?_ le_rfl
    simp [InFlight.setClaim, hfree]

/-- **A `DEL` of a key that is free, or the refresh's own**, takes the claim with it. -/
theorem Linked.delKey (h : s.Linked) (hself : ∀ j, s.redis.get? s.now cid = some j → i = j) :
    (s.delKey i cid).Linked := by
  refine ⟨fun cid' j expiry hentry => ?_, fun c hmem hfresh => ?_⟩
  · have hcid : cid' ≠ cid := fun hcid => by
      rw [hcid] at hentry
      simp [InFlight.delKey, Expiring.Store.del] at hentry
    rw [InFlight.delKey, Expiring.Store.entry_del_of_ne hcid] at hentry
    obtain ⟨c, hmem, hj, hcid', hexp⟩ := h.claim cid' j expiry hentry
    refine ⟨c, List.mem_filter.mpr ⟨hmem, ?_⟩, hj, hcid', hexp⟩
    simp [hcid', hcid]
  · obtain ⟨hmem, hkept⟩ := List.mem_filter.mp hmem
    have hcid : c.cveId ≠ cid := fun hcid => by
      have hi := hself c.refresh (h.get?_iff.mpr ⟨c, hmem, rfl, hcid, hfresh⟩)
      simp [hi, hcid] at hkept
    rw [InFlight.delKey, Expiring.Store.entry_del_of_ne hcid]
    exact h.key c hmem hfresh

/-- Keys that were deleted by their owners. -/
def OwnDeletes (s : InFlight) : Prop := ∀ r ∈ s.removed, r.1 = r.2

/-- A `DEL` is by the owner if the key is free, or the refresh's own. -/
theorem ownDeletes_delKey : (s.delKey i cid).OwnDeletes ↔
    s.OwnDeletes ∧ ∀ j, s.redis.get? s.now cid = some j → i = j := by
  constructor
  · intro hall
    refine ⟨fun r hr => hall r (List.mem_append_left _ hr), fun j hj => hall (i, j) ?_⟩
    simp [delKey, hj]
  · rintro ⟨hold, hself⟩ r hr
    rcases List.mem_append.mp hr with hr | hr
    · exact hold r hr
    · obtain ⟨j, hj, rfl⟩ := List.mem_map.mp hr
      exact hself j (Option.mem_toList.mp hj)

/-- **As long as every key was deleted by its owner, the keys are the claims**, after each step,
too. -/
theorem linked_step (h : s.OwnDeletes → s.Linked) (e : Event) :
    (step s e).OwnDeletes → (step s e).Linked := by
  intro hown
  rcases keys_step_cases s e with ⟨hr, hc, hd, hnow, -, -⟩ |
    ⟨i, cid, -, hr, hc, hd, hnow, -, -⟩ | ⟨i, cid, -, hr, hc, hd, hnow⟩
  · exact (h (by rwa [OwnDeletes, ← hd])).mono hr hc hnow
  · have hl := h (by rwa [OwnDeletes, ← hd])
    exact (hl.setClaim i cid).mono hr hc hnow.ge
  · obtain ⟨hbefore, hself⟩ := ownDeletes_delKey.mp (by rwa [OwnDeletes, ← hd])
    exact ((h hbefore).delKey hself).mono hr hc hnow.ge

/-! ### The exact condition -/

/-- Two refreshes never have one key. -/
theorem Linked.holds_unique (h : s.Linked) (hi : s.Holds i cid) (hj : s.Holds j cid) : i = j :=
  Option.some.inj ((h.get?_iff.mpr hi).symm.trans (h.get?_iff.mpr hj))

/-- A key after a `SET NX` is an old one, or names the refresh. -/
theorem get?_setClaim (h : (s.setClaim i cid).redis.get? s.now cid' = some j) :
    s.redis.get? s.now cid' = some j ∨ i = j := by
  rw [setClaim] at h
  rcases hfree : s.redis.get? s.now cid with _ | k
  · rw [Expiring.Store.setNx_of_none hfree] at h
    by_cases hcid : cid' = cid
    · have hlt : s.now < s.now + inFlightTtl := by simp [inFlightTtl, seconds]
      rw [hcid, Expiring.Store.get?_set hlt] at h
      exact Or.inr (Option.some.inj h)
    · rw [Expiring.Store.get?_set_of_ne hcid] at h
      exact Or.inl h
  · rw [Expiring.Store.setNx_of_some hfree] at h
    exact Or.inl h

/-- The keys after a `DEL` are the others. -/
theorem get?_delKey : (s.delKey i cid).redis.get? s.now cid' = some j ↔
    cid' ≠ cid ∧ s.redis.get? s.now cid' = some j := by
  rw [delKey]
  by_cases hcid : cid' = cid
  · simp [hcid]
  · rw [Expiring.Store.get?_del_of_ne hcid]
    simp [hcid]

/-- **A step with a `DEL`** keeps the keys with their owners exactly if it is in time. -/
theorem owned_delKey_iff {e : Event} (hl : s.Linked) (hs : s.Owned) (hdel : s.Deletes e i cid)
    (hr : (step s e).redis = (s.delKey i cid).redis)
    (hd : (step s e).removed = (s.delKey i cid).removed) (hnow : (step s e).now = s.now) :
    (step s e).Owned ↔ s.Timely e := by
  have hself : (∀ r ∈ (step s e).removed, r.1 = r.2) ↔ s.OwnDeletes ∧
      ∀ j, s.redis.get? s.now cid = some j → i = j := by
    rw [hd]
    exact ownDeletes_delKey
  constructor
  · intro hown
    refine ⟨fun i' cid' hdel' => ?_, fun j hj cid' hholds => ?_⟩
    · obtain ⟨rfl, rfl⟩ := hdel.unique hdel'
      refine Or.inr fun j hne hholds => hne ?_
      exact ((hself.mp hown.removed).2 j (hl.get?_iff.mpr hholds)).symm
    · obtain rfl := hdel.eq_of_leaves hj
      by_contra hno
      have hcid : cid' ≠ cid := fun hcid => hno (hcid ▸ hdel)
      refine hown.exited j ((exited_step e j).mpr (Or.inr hj)) cid' ?_
      rw [hr, hnow]
      exact get?_delKey.mpr ⟨hcid, hl.get?_iff.mpr hholds⟩
  · intro htime
    refine ⟨hself.mpr ⟨hs.removed, fun j hj => ?_⟩, fun j hj cid' hkey => ?_⟩
    · have hholds := hl.get?_iff.mp hj
      rcases htime.deletes i cid hdel with hown | hnone
      · exact hl.holds_unique hown hholds
      · by_contra hne
        exact hnone j (Ne.symm hne) hholds
    · rw [hr, hnow] at hkey
      obtain ⟨hcid, hbefore⟩ := get?_delKey.mp hkey
      rcases (exited_step e j).mp hj with hold | hleave
      · exact hs.exited j hold cid' hbefore
      · have hdel' := htime.leaves j hleave cid' (hl.get?_iff.mp hbefore)
        exact hcid (hdel.unique hdel').2

/-- **A step keeps the keys with their owners exactly if it is in time.** -/
theorem owned_step_iff (h : s.OwnDeletes → s.Linked) (hs : s.Owned) (e : Event) :
    (step s e).Owned ↔ s.Timely e := by
  have hl : s.Linked := h hs.removed
  rcases keys_step_cases s e with ⟨hr, -, hd, hnow, hlast, hdel⟩ |
    ⟨i, cid, hi, hr, -, hd, hnow, hleave, hdel⟩ | ⟨i, cid, hdel, hr, -, hd, hnow⟩
  · constructor
    · intro hown
      refine ⟨fun i cid hi => absurd hi (hdel i cid), fun i hi cid hholds => ?_⟩
      -- a refresh leaves in this step, so no time passes, and the key is still there
      have hsame : (step s e).now = s.now := hlast.resolve_right fun hno => hno i hi
      have hgone := hown.exited i ((exited_step e i).mpr (Or.inr hi)) cid
      rw [hr, hsame] at hgone
      exact absurd (hl.get?_iff.mpr hholds) hgone
    · intro htime
      refine ⟨hd ▸ hs.removed, fun i hi cid hkey => ?_⟩
      rw [hr] at hkey
      have hbefore : s.redis.get? s.now cid = some i := Expiring.Store.get?_of_le hnow hkey
      rcases (exited_step e i).mp hi with hold | hleave
      · exact hs.exited i hold cid hbefore
      · exact hdel i cid (htime.leaves i hleave cid (hl.get?_iff.mp hbefore))
  · refine iff_of_true ⟨hd ▸ hs.removed, fun j hj cid' hkey => ?_⟩
      ⟨fun j cid' hj => absurd hj (hdel j cid'), fun j hj => absurd hj (hleave j)⟩
    have hold := ((exited_step e j).mp hj).resolve_right (hleave j)
    rw [hr, hnow] at hkey
    rcases get?_setClaim hkey with hbefore | rfl
    · exact hs.exited j hold cid' hbefore
    · -- the new key names a refresh that is not over
      exact hi hold
  · exact owned_delKey_iff hl hs hdel hr hd hnow

open Trajectory in
/-- **The in-flight keys have owners** throughout a run exactly when all of its steps are in
time. -/
theorem throughout_owned_iff (now : Instant) (l : List Event) :
    Throughout step Owned (start now) l ↔ AllSteps step Timely (start now) l := by
  have hlinked : (start now).OwnDeletes → (start now).Linked := fun _ =>
    ⟨fun cid i expiry h => absurd h (by simp [start, Expiring.Store.empty]),
      fun c hc => absurd hc List.not_mem_nil⟩
  have howned : (start now).Owned :=
    ⟨fun r hr => absurd hr List.not_mem_nil, fun i hi => absurd hi (by simp [start])⟩
  exact throughout_iff_allSteps (J := fun s : InFlight => s.OwnDeletes → s.Linked)
    (fun _ e h => linked_step h e) (fun _ e hj hs => owned_step_iff hj hs e) hlinked howned

open Trajectory in
/-- **A slow refresh deletes the key of the next one**; and a refresh whose database fails leaves
its key behind. -/
theorem not_owned_slow_or_failed :
    ¬(run step (start 0) [.schedule ["CVE-2024-1"] true false, .claim 0 .executed,
      .tick 61000000, .schedule ["CVE-2024-1"] true false, .claim 1 .executed,
      .fetched 0 (.ok fun _ => none), .stored 0 true, .release 0 .executed]).Owned ∧
    ¬(run step (start 0) [.schedule ["CVE-2024-1"] true false, .claim 0 .executed,
      .fetched 0 (.ok fun _ => none), .stored 0 false]).Owned := by
  constructor
  · intro h
    have hremoved := h.removed (0, 1) (by decide)
    exact absurd hremoved (by decide)
  · intro h
    exact h.exited 0 rfl "CVE-2024-1" (by decide)

end InFlight

end CveManagement
