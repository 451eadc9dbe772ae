import CveManagement.Ingestion.Mirror

/-!
# The delta clients

`NvdClient.iter_delta` and `VulnCheckClient.iter_delta`: both read the clock once, cut the
time from the last checkpoint (or the start of the year) to that reading into windows of
at most 119 days, and yield the records of one window after the other. The windows are
*requested* with their ends formatted to whole seconds, which is what the pages come back
for; the pages of a window are the provider's, so a client takes them as a parameter. The
records of a window may end in an exception, and then the later windows are not requested.
-/

namespace CveManagement

/-! ### The start of the year -/

/-- `_days_before_year`. -/
def daysBeforeYear (year : ℤ) : ℤ :=
  let y := year - 1
  y * 365 + y / 4 - y / 100 + y / 400

/-- The year of a proleptic Gregorian ordinal, as `_ord2ymd` finds it. -/
def yearOfOrdinal (ordinal : ℤ) : ℤ :=
  let n := ordinal - 1
  let n400 := n / 146097
  let n := n % 146097
  let n100 := n / 36524
  let n := n % 36524
  let n4 := n / 1461
  let n := n % 1461
  let n1 := n / 365
  let year := n400 * 400 + 1 + n100 * 100 + n4 * 4 + n1
  -- the last day of a leap cycle
  if n1 = 4 ∨ n100 = 4 then year - 1 else year

/-- The ordinal of 1970-01-01. -/
def epochOrdinal : ℤ := 719163

/-- `datetime(now.year, 1, 1, tzinfo=UTC)`. -/
def yearStart (now : Instant) : Instant :=
  (daysBeforeYear (yearOfOrdinal (now.date + epochOrdinal)) + 1 - epochOrdinal) * 86400000000

/-! ### Windows -/

/-- `timedelta(days=_CHUNK_DAYS)`. -/
def chunk : ℤ := 119 * 86400000000

/-- What is left of a stretch after one chunk of it. -/
theorem toNat_sub_min_lt {a b c : ℤ} (h : a < b) (hc : 0 < c) :
    (b - min (a + c) b).toNat < (b - a).toNat := by
  omega

/-- The windows of the loop of `iter_delta`, from `current` on. -/
def deltaWindows (current now : Instant) : List (Instant × Instant) :=
  if _h : current < now then
    (current, min (current + chunk) now) :: deltaWindows (min (current + chunk) now) now
  else []
termination_by (now - current).toNat
decreasing_by exact toNat_sub_min_lt _h (by decide)

/-- `_fmt_date`: a date in whole seconds; the text is `%Y-%m-%dT%H:%M:%S.000`. -/
def fmtDate (t : Instant) : ℤ := t / 1000000

/-- A window as requested: its ends in whole seconds. -/
def fmtWindow (w : Instant × Instant) : ℤ × ℤ := (fmtDate w.1, fmtDate w.2)

/-! ### Streams -/

/-- What an async generator of records does when it is consumed: the windows it
requests, the records it yields, and the exception it ends in, if it does. -/
structure RecordStream where
  requested : List (ℤ × ℤ)
  records : List NvdCveRecord
  failure : Option String

/-- The stream that is never consumed. -/
def RecordStream.empty : RecordStream := ⟨[], [], none⟩

/-- What a provider answers to the pages of a window: records, and an exception if the
paging ends in one. -/
abbrev Pages := ℤ × ℤ → List NvdCveRecord × Option String

/-- The records of one window after the other. -/
def iterWindows (pages : Pages) : List (ℤ × ℤ) → RecordStream
  | [] => .empty
  | w :: ws =>
    match pages w with
    -- the exception ends the generator, and with it the later windows
    | (records, some e) => ⟨[w], records, some e⟩
    | (records, none) =>
      let rest := iterWindows pages ws
      ⟨w :: rest.requested, records ++ rest.records, rest.failure⟩

/-- What a client sees of the world: its clock when the generator starts, the pages by
publication date, and the pages by modification date. -/
structure ClientEnv where
  now : Instant
  pubPages : Pages
  lastModPages : Pages

/-- `NvdClient.iter_delta`. -/
def NvdClient.iterDelta (env : ClientEnv) : Option Instant → RecordStream
  | none => iterWindows env.pubPages ((deltaWindows (yearStart env.now) env.now).map fmtWindow)
  | some start => iterWindows env.lastModPages ((deltaWindows start env.now).map fmtWindow)

/-- `VulnCheckClient.iter_delta`, which filters by modification date in both cases, and
reads the clock a second time for the year of an initial load. -/
def VulnCheckClient.iterDelta (env : ClientEnv) (nowVc : Instant) : Option Instant → RecordStream
  | none => iterWindows env.lastModPages ((deltaWindows (yearStart nowVc) env.now).map fmtWindow)
  | some start => iterWindows env.lastModPages ((deltaWindows start env.now).map fmtWindow)

/-- **A stream that does not fail has requested every window.** -/
theorem requested_iterWindows {pages : Pages} {ws : List (ℤ × ℤ)}
    (h : (iterWindows pages ws).failure = none) : (iterWindows pages ws).requested = ws := by
  induction ws with
  | nil => rfl
  | cons w ws ih =>
    rw [iterWindows] at h ⊢
    cases hp : pages w with
    | mk records failure =>
      rw [hp] at h
      cases failure with
      | some e => cases h
      | none => exact congrArg (w :: ·) (ih h)

/-- A provider that never fails makes a stream that never fails. -/
theorem failure_iterWindows {pages : Pages} (h : ∀ w, (pages w).2 = none) (ws : List (ℤ × ℤ)) :
    (iterWindows pages ws).failure = none := by
  induction ws with
  | nil => rfl
  | cons w ws ih =>
    rw [iterWindows]
    have hw := h w
    cases hp : pages w with
    | mk records failure =>
      rw [hp] at hw
      subst hw
      exact ih

example : yearStart 1767225600000000 = 1767225600000000 := by decide

end CveManagement
