import CveManagement.Exploitability.InFlight
import CveManagement.Resolution.Normalizer

/-!
# The two tiers of the resolution cache

`ResolutionCache` of `app/resolution/resolution_cache.py` keeps resolutions in the table
`cpe_resolutions`, under their input string, and in Redis for a day, under the string in lower case
and stripped. So two spellings of a string have a row each and share a key, and `get` takes what is
under the key for the resolution of its own spelling. A `save` whose command for Redis fails leaves
an older entry where it is, and writes a score to Redis that the table rounds.

Redis makes no difference exactly as long as each entry that a `get` finds has the values of the row
of the same spelling (`CveManagement.ResolutionTiers.transparent_iff`).
-/

namespace CveManagement

/-! ### Resolutions in the two tiers -/

/-- What both tiers keep of a resolution. -/
structure ResolutionValues where
  resolvedCpe : Text
  confidence : ResolutionConfidence
  matchScore : Option ℚ
  resolvedBy : ResolvedBy
  deriving DecidableEq

/-- What `_to_json` writes. -/
def CpeResolution.values (r : CpeResolution) : ResolutionValues :=
  ⟨r.resolvedCpe, r.confidence, r.matchScore, r.resolvedBy⟩

/-- `_from_json`, and the `CpeResolution` that `get` makes of a row. -/
def ResolutionValues.cached (v : ResolutionValues) (input : Text) : CpeResolution :=
  ⟨input, v.resolvedCpe, v.confidence, v.matchScore, v.resolvedBy, true⟩

/-- A value of type `NUMERIC(5,2)`; there is none for a number out of its range. -/
def scoreColumn : Option ℚ → Option (Option ℚ)
  | none => some none
  | some q =>
    let units := Rounding.halfAway (q * 100)
    if |units| < 100000 then some (some (units / 100)) else none

/-- The row that `_UPSERT_SQL` writes; none if the database refuses the score. -/
def CpeResolution.row (r : CpeResolution) : Option ResolutionValues :=
  (scoreColumn r.matchScore).map fun score => { r.values with matchScore := score }

/-- `_REDIS_TTL`. -/
def resolutionTtl : Instant := seconds 86400

/-- **The two tiers**; `writer` is the string that each entry of Redis was written for, which the
code does not keep. -/
structure ResolutionTiers where
  now : Instant
  redis : Expiring.Store Text ResolutionValues Instant
  table : Text → Option ResolutionValues
  writer : Text → Option Text

namespace ResolutionTiers

open Trajectory

section Operations

variable (py : PyText) (s : ResolutionTiers)

/-- `_redis_key`. -/
def redisKey (input : Text) : Text := "cpe:resolution:".toList ++ py.strip (py.lower input)

/-- `SETEX`, for a string. -/
def setex (input : Text) (v : ResolutionValues) : RedisOutcome → ResolutionTiers
  | .unreached => s
  | .executed | .lostReply =>
    { s with
      redis := s.redis.set (redisKey py input) v (s.now + resolutionTtl)
      writer := Function.update s.writer (redisKey py input) (some input) }

/-- What `GET` answers; an error counts as nothing found. -/
def cached (input : Text) (got : RedisOutcome) : Option ResolutionValues :=
  if got = .executed then s.redis.get? s.now (redisKey py input) else none

/-- **`ResolutionCache.get`**, with what becomes of its `GET` and of its `SETEX`. -/
def get (input : Text) (got stored : RedisOutcome) : ResolutionTiers × Option CpeResolution :=
  match s.cached py input got with
  | some v => (s, some (v.cached input))
  | none =>
    match s.table input with
    | none => (s, none)
    | some v =>
      -- an error of `SETEX` is caught by the handler of the query, and the row is not returned
      (s.setex py input v stored, if stored = .executed then some (v.cached input) else none)

/-- **`ResolutionCache.save`**. -/
def save (r : CpeResolution) (stored : RedisOutcome) : ResolutionTiers :=
  match r.row with
  | none => s
  | some row =>
    { s with table := Function.update s.table r.inputString (some row) }.setex py r.inputString
      r.values stored

/-- **`ResolutionCache.invalidate`**: the row stays if the `DEL` raises. -/
def invalidate (input : Text) : RedisOutcome → ResolutionTiers
  | .unreached => s
  | .lostReply => { s with redis := s.redis.del (redisKey py input) }
  | .executed =>
    { s with
      redis := s.redis.del (redisKey py input)
      table := Function.update s.table input none }

/-- The tiers with Redis emptied. -/
def emptied : ResolutionTiers := { s with redis := .empty }

end Operations

/-- A call, or the passing of time. -/
inductive Event
  | tick (elapsed : ℕ)
  | get (input : Text) (got stored : RedisOutcome)
  | save (r : CpeResolution) (stored : RedisOutcome)
  | invalidate (input : Text) (deleted : RedisOutcome)

/-- **One call.** -/
def step (py : PyText) (s : ResolutionTiers) : Event → ResolutionTiers
  | .tick elapsed => { s with now := s.now + elapsed }
  | .get input got stored => (s.get py input got stored).1
  | .save r stored => s.save py r stored
  | .invalidate input deleted => s.invalidate py input deleted

/-- Nothing is cached and no row is there. -/
def start (now : Instant) : ResolutionTiers := ⟨now, .empty, fun _ => none, fun _ => none⟩

/-! ### Transparency -/

variable (py : PyText)

/-- **Redis makes no difference**: a `get` returns what it would return with Redis emptied just
before it. -/
def Transparent (s : ResolutionTiers) : Event → Prop
  | .get input got stored =>
    (s.get py input got stored).2 = (s.emptied.get py input got stored).2
  | _ => True

/-- **An entry that is found is right**: the row of the same spelling has its values, and the
`SETEX` that it spares the call would not fail. -/
def HitsRow (s : ResolutionTiers) : Event → Prop
  | .get input got stored => ∀ v, s.cached py input got = some v →
      s.table input = some v ∧ stored = .executed
  | _ => True

/-- **A save reaches both tiers**: the table keeps its score as it is, and if Redis is not reached
it has no entry for the same string, or the row has had these values before. -/
def SavesThrough (s : ResolutionTiers) : Event → Prop
  | .save r stored => ∀ row, r.row = some row → row = r.values ∧
      (stored = .unreached → s.writer (redisKey py r.inputString) = some r.inputString →
        s.redis.get? s.now (redisKey py r.inputString) ≠ none →
          s.table r.inputString = some row)
  | _ => True

/-- **A hit is of the same resolution**: the entry that is found was written for the same string,
or for one whose row has the same values; and the `SETEX` that it spares the call would not fail. -/
def HitsOwn (s : ResolutionTiers) : Event → Prop
  | .get input got stored => s.cached py input got ≠ none → stored = .executed ∧
      ∀ writer, s.writer (redisKey py input) = some writer → s.table input = s.table writer
  | _ => True

/-- **What the entries say** if each save reaches both tiers: the values of the row of the string
that each was written for. -/
def Agrees (s : ResolutionTiers) : Prop :=
  ∀ k v, s.redis.get? s.now k = some v →
    ∃ input, s.writer k = some input ∧ redisKey py input = k ∧ s.table input = some v

/-! ### One call -/

section Step

variable {py} {s : ResolutionTiers} {input : Text} {v : ResolutionValues} {k : Text}

theorem cached_injective (input : Text) :
    Function.Injective fun v : ResolutionValues => v.cached input := by
  rintro ⟨_, _, _, _⟩ ⟨_, _, _, _⟩ h
  cases h
  rfl

theorem cached_emptied (input : Text) (got : RedisOutcome) :
    s.emptied.cached py input got = none := by
  unfold cached
  split_ifs
  · exact Expiring.Store.get?_empty
  · rfl

/-- **One `get`** is transparent exactly if what it finds in Redis is right. -/
theorem transparent_iff_hitsRow (s : ResolutionTiers) (e : Event) :
    Transparent py s e ↔ HitsRow py s e := by
  cases e with
  | tick elapsed => exact Iff.rfl
  | save r stored => exact Iff.rfl
  | invalidate input deleted => exact Iff.rfl
  | get input got stored =>
    rw [Transparent, HitsRow, get, get, cached_emptied]
    cases hcached : s.cached py input got with
    | none =>
      -- nothing is found either way, and the table is the same
      refine iff_of_true ?_ fun v hv => by cases hv
      have htable : s.emptied.table input = s.table input := rfl
      rw [htable]
      cases s.table input with
      | none => rfl
      | some v => rfl
    | some v =>
      have htable : s.emptied.table input = s.table input := rfl
      rw [htable]
      cases s.table input with
      | none => exact iff_of_false (Option.some_ne_none _) fun h => by cases (h v rfl).1
      | some row =>
        dsimp only
        split_ifs with hstored
        · rw [Option.some.injEq]
          constructor
          · rintro hsame _ ⟨⟩
            exact ⟨congrArg some (cached_injective input hsame).symm, hstored⟩
          · intro h
            rw [Option.some.inj (h v rfl).1]
        · exact iff_of_false (fun hsame => by cases hsame) fun h => hstored (h v rfl).2

/-- What a `SETEX` puts under its key. -/
theorem get?_set_self {st : Expiring.Store Text ResolutionValues Instant} {now expiry : Instant}
    {w : ResolutionValues} (h : (st.set k v expiry).get? now k = some w) : w = v := by
  obtain ⟨_, hentry, -⟩ := Expiring.Store.get?_eq_some_iff.mp h
  rw [Expiring.Store.entry_set] at hentry
  exact (Prod.mk.inj (Option.some.inj hentry)).1.symm

/-- The entries agree with the rows after a `SETEX` of a row, whatever its key held before. -/
theorem agrees_setex
    (h : ∀ k v, k ≠ redisKey py input → s.redis.get? s.now k = some v →
      ∃ input, s.writer k = some input ∧ redisKey py input = k ∧ s.table input = some v)
    (hrow : s.table input = some v) {stored : RedisOutcome} (hstored : stored ≠ .unreached) :
    Agrees py (s.setex py input v stored) := by
  have hset : s.setex py input v stored =
      { s with
        redis := s.redis.set (redisKey py input) v (s.now + resolutionTtl)
        writer := Function.update s.writer (redisKey py input) (some input) } := by
    cases stored with
    | unreached => exact absurd rfl hstored
    | executed => rfl
    | lostReply => rfl
  rw [hset]
  intro k w hw
  by_cases hk : k = redisKey py input
  · subst hk
    exact ⟨input, Function.update_self .., rfl, hrow.trans (congrArg some (get?_set_self hw).symm)⟩
  · have hold : s.redis.get? s.now k = some w := by
      rwa [Expiring.Store.get?_set_of_ne hk] at hw
    obtain ⟨writer, hwriter, hkey, htable⟩ := h k w hk hold
    exact ⟨writer, (Function.update_of_ne hk ..).trans hwriter, hkey, htable⟩

theorem agrees_get (h : Agrees py s) (got stored : RedisOutcome) :
    Agrees py (s.get py input got stored).1 := by
  unfold get
  split
  · exact h
  · split
    · exact h
    next row hrow =>
      dsimp only
      by_cases hstored : stored = .unreached
      · rw [hstored]
        exact h
      · exact agrees_setex (fun k v _ hv => h k v hv) hrow hstored

theorem agrees_save (h : Agrees py s) {r : CpeResolution} {stored : RedisOutcome}
    (hsaves : SavesThrough py s (.save r stored)) : Agrees py (s.save py r stored) := by
  unfold save
  cases hr : r.row with
  | none => exact h
  | some row =>
    obtain ⟨hvalues, hmissed⟩ := hsaves row hr
    dsimp only
    by_cases hstored : stored = .unreached
    · -- the row is new, and the entries that were written for its string have its values
      rw [hstored]
      intro k w hw
      have hlive : s.redis.get? s.now k = some w := hw
      obtain ⟨writer, hwriter, hkey, htable⟩ := h k w hlive
      refine ⟨writer, hwriter, hkey, ?_⟩
      by_cases hsame : writer = r.inputString
      · have hfound : s.redis.get? s.now (redisKey py r.inputString) ≠ none := by
          rw [← hsame, hkey, hlive]
          exact Option.some_ne_none w
        have hold := hmissed hstored (by rw [← hsame, hkey]; exact hwriter) hfound
        rw [← hsame, htable] at hold
        rw [hsame]
        exact (Function.update_self ..).trans hold.symm
      · exact (Function.update_of_ne hsame ..).trans htable
    · rw [← hvalues]
      refine agrees_setex (fun k w hk hw => ?_) (Function.update_self ..) hstored
      obtain ⟨writer, hwriter, hkey, htable⟩ := h k w hw
      refine ⟨writer, hwriter, hkey, ?_⟩
      -- an entry under another key was written for another string
      have hne : writer ≠ r.inputString := fun hsame => hk (by rw [← hkey, hsame])
      exact (Function.update_of_ne hne ..).trans htable

theorem agrees_invalidate (h : Agrees py s) (deleted : RedisOutcome) :
    Agrees py (s.invalidate py input deleted) := by
  have hother : ∀ k w, (s.redis.del (redisKey py input)).get? s.now k = some w →
      ∃ writer, writer ≠ input ∧ s.writer k = some writer ∧ redisKey py writer = k ∧
        s.table writer = some w := by
    intro k w hw
    by_cases hk : k = redisKey py input
    · rw [hk, Expiring.Store.get?_del] at hw
      cases hw
    · rw [Expiring.Store.get?_del_of_ne hk] at hw
      obtain ⟨writer, hwriter, hkey, htable⟩ := h k w hw
      exact ⟨writer, fun hsame => hk (by rw [← hkey, hsame]), hwriter, hkey, htable⟩
  cases deleted with
  | unreached => exact h
  | lostReply =>
    intro k w hw
    obtain ⟨writer, -, hwriter, hkey, htable⟩ := hother k w hw
    exact ⟨writer, hwriter, hkey, htable⟩
  | executed =>
    intro k w hw
    obtain ⟨writer, hne, hwriter, hkey, htable⟩ := hother k w hw
    exact ⟨writer, hwriter, hkey, (Function.update_of_ne hne ..).trans htable⟩

/-- **A step keeps the entries in agreement with the rows**, if it is no save that misses one of
the tiers. -/
theorem agrees_step (s : ResolutionTiers) (e : Event) (h : Agrees py s)
    (hsaves : SavesThrough py s e) : Agrees py (step py s e) := by
  cases e with
  | tick elapsed =>
    intro k w hw
    exact h k w (Expiring.Store.get?_of_le (le_add_of_nonneg_right (Int.natCast_nonneg elapsed)) hw)
  | get input got stored => exact agrees_get h got stored
  | save r stored => exact agrees_save h hsaves
  | invalidate input deleted => exact agrees_invalidate h deleted

/-- **What is found is right**, if the entries agree with the rows, exactly if it is of the same
resolution. -/
theorem hitsRow_iff_hitsOwn (h : Agrees py s) (e : Event) : HitsRow py s e ↔ HitsOwn py s e := by
  cases e with
  | tick elapsed => exact Iff.rfl
  | save r stored => exact Iff.rfl
  | invalidate input deleted => exact Iff.rfl
  | get input got stored =>
    rw [HitsRow, HitsOwn]
    cases hcached : s.cached py input got with
    | none => exact iff_of_true (fun v hv => by cases hv) fun hne => absurd rfl hne
    | some v =>
      have hlive : s.redis.get? s.now (redisKey py input) = some v := by
        rw [cached] at hcached
        split_ifs at hcached
        exact hcached
      obtain ⟨writer, hwriter, -, htable⟩ := h _ _ hlive
      constructor
      · intro hrow
        obtain ⟨hown, hstored⟩ := hrow v rfl
        refine fun _ => ⟨hstored, fun writer' hwriter' => ?_⟩
        rw [← Option.some.inj (hwriter.symm.trans hwriter'), htable, hown]
      · rintro hown _ ⟨⟩
        obtain ⟨hstored, hsame⟩ := hown (Option.some_ne_none _)
        exact ⟨(hsame writer hwriter).trans htable, hstored⟩

end Step

/-! ### Runs -/

theorem agrees_start (now : Instant) : Agrees py (start now) := by
  intro k v hv
  rw [start, Expiring.Store.get?_empty] at hv
  cases hv

/-- **When Redis makes no difference**: over every sequence of calls, whatever becomes of their
commands, exactly if each entry that is found has the values of the row of the same spelling. If
all saves reach both tiers, that is so exactly if each entry that is found was written for the same
spelling, or for one with the same row. -/
theorem transparent_iff (now : Instant) (l : List Event) :
    (AllSteps (step py) (Transparent py) (start now) l ↔
      AllSteps (step py) (HitsRow py) (start now) l) ∧
    (AllSteps (step py) (SavesThrough py) (start now) l →
      (AllSteps (step py) (Transparent py) (start now) l ↔
        AllSteps (step py) (HitsOwn py) (start now) l)) := by
  have hrow : AllSteps (step py) (Transparent py) (start now) l ↔
      AllSteps (step py) (HitsRow py) (start now) l :=
    ⟨fun h => h.mono fun s e => (transparent_iff_hitsRow s e).mp,
      fun h => h.mono fun s e => (transparent_iff_hitsRow s e).mpr⟩
  refine ⟨hrow, fun hsaves => hrow.trans ?_⟩
  have hagrees : Throughout (step py) (Agrees py) (start now) l :=
    throughout_of_allSteps agrees_step (agrees_start py now) hsaves
  exact hagrees.allSteps_congr fun s e h => hitsRow_iff_hitsOwn h e

/-- A resolution of a product name, as it was confirmed. -/
def confirmed (input resolvedCpe : String) : CpeResolution :=
  ⟨input.toList, resolvedCpe.toList, .manual, none, .manual, false⟩

/-- **Another spelling finds an entry**, and the table has no row for it. -/
theorem not_transparent : ¬∀ (py : PyText) (l : List Event),
    AllSteps (step py) (Transparent py) (start 0) l := by
  intro h
  have hget := allSteps_iff_split.mp (h .ascii
    [.save (confirmed "Nginx" "cpe:2.3:a:f5:nginx:*:*:*:*:*:*:*:*") .executed,
      .get "nginx".toList .executed .executed])
    [.save (confirmed "Nginx" "cpe:2.3:a:f5:nginx:*:*:*:*:*:*:*:*") .executed]
    (.get "nginx".toList .executed .executed) [] rfl
  have hrow := (transparent_iff_hitsRow _ _).mp hget
    (confirmed "Nginx" "cpe:2.3:a:f5:nginx:*:*:*:*:*:*:*:*").values (by decide +kernel)
  exact absurd hrow.1 (by decide +kernel)

end ResolutionTiers

end CveManagement
