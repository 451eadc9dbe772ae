import CveManagement.Dashboard.CacheKeys
import CveManagement.Library.ReadThrough
import CveManagement.Sync.Jobs

/-!
# The dashboards among the writers

A request for a dashboard asks Redis, sends its queries one after the other – each sees the database
as it is then – and writes the results to Redis with `SETEX`. `update_finding`, `delete_product` and
`sync_product` call `delete_pattern("dashboard:*")` once they have committed; the decision on a risk
acceptance, the expiry of acceptances, the refreshes of KEV and EPSS and the ingestion do not. All
of it comes in any order (`ReadThrough.step`, under `CveManagement.dashboardPolicy`).

* So a dashboard is not older than the lifetime of its key and the time that a request takes
  (`CveManagement.dashboards_bounded`): whatever holds of the database for that long is what it
  shows (`CveManagement.dashboards_settle`).
* What a writer sweeps away stays away exactly as long as no request writes what it read before the
  change (`CveManagement.dashboards_swept`).
-/

namespace CveManagement

open ReadThrough (Part)
open Trajectory

section Policy

variable {α β : Type} (py : PyText) (queries : DashboardRequest → List (Instant → α → β))

/-- **How the dashboards are kept**: under the key of the request, for its seconds; the queries of
a request may be any. -/
def dashboardPolicy : ReadThrough.Policy DashboardRequest DashboardKey α β Instant where
  key := DashboardRequest.key py
  queries := queries
  ttl k := seconds k.ttlSeconds
  ttl_pos k := by
    unfold seconds
    cases k <;> simp [DashboardKey.ttlSeconds]

/-- **An answer to a request**: the results of the queries of a request with the same key, each on
the database at the time. -/
def DashboardAnswer (l : Timeline α Instant) (q : DashboardRequest)
    (parts : List (Part β Instant)) : Prop :=
  ∃ q', q.Shares py q' ∧ List.Forall₂ (fun query part => ∃ db, l.HeldAt part.readAt db ∧
    part.value = query part.readAt db) (queries q') parts

end Policy

/-- Redis, the database, the requests and the writers that sweep. -/
abbrev DashboardWorld (α β ω ν : Type) :=
  ReadThrough.World DashboardRequest DashboardKey α β Instant ω ν

abbrev DashboardEvent (α ω ν : Type) :=
  ReadThrough.Event DashboardRequest DashboardKey α Instant ω ν

/-- **One event**, of a request or a writer. -/
abbrev dashboardStep {α β ω ν : Type} [DecidableEq ω] [DecidableEq ν] (py : PyText)
    (queries : DashboardRequest → List (Instant → α → β)) :
    DashboardWorld α β ω ν → DashboardEvent α ω ν → DashboardWorld α β ω ν :=
  ReadThrough.step (dashboardPolicy py queries)

section Runs

variable {α β ω ν : Type} [DecidableEq ω] [DecidableEq ν] {py : PyText}
  {queries : DashboardRequest → List (Instant → α → β)} {delay now : Instant} {db : α}
  {l : List (DashboardEvent α ω ν)}

/-- **A dashboard is not too old**: in every run in which no request takes longer than `delay` until
it writes its results, an answer has the results of the queries of a request with the same key, each
on the database as it was less than the lifetime of the key and `delay` before the request. -/
theorem dashboards_bounded (hdelay : 0 ≤ delay)
    (hl : AllSteps (dashboardStep py queries)
      (ReadThrough.Prompt (dashboardPolicy py queries) delay) (ReadThrough.start now db) l) :
    Throughout (dashboardStep py queries) (fun s => ∀ r q askedAt parts,
      s.readers r = .returned q askedAt parts →
        DashboardAnswer py queries s.source q parts ∧
          ∀ part ∈ parts, askedAt < part.readAt + (seconds (q.key py).ttlSeconds + delay))
      (ReadThrough.start now db) l := by
  refine (ReadThrough.bounded hdelay hl).mono fun s h r q askedAt parts hr => ?_
  obtain ⟨⟨q', hkey, hparts⟩, hlt⟩ := h r q askedAt parts hr
  refine ⟨⟨q', DashboardRequest.key_eq_iff.mp hkey.symm, ?_⟩, hlt⟩
  refine hparts.imp fun query part hpart => ?_
  obtain ⟨db, hheld, -, hvalue⟩ := hpart
  exact ⟨db, hheld, hvalue⟩

/-- **What holds for long enough is shown**: if every query result from after some point in time has
a property, so have the parts of every answer to a request from a lifetime of its key and `delay`
after it. -/
theorem dashboards_settle (hdelay : 0 ≤ delay)
    (hl : AllSteps (dashboardStep py queries)
      (ReadThrough.Prompt (dashboardPolicy py queries) delay) (ReadThrough.start now db) l)
    {since : Instant} {Q : β → Prop}
    (hafter : (run (dashboardStep py queries) (ReadThrough.start now db) l).source.After since
      fun db => ∀ q, ∀ query ∈ queries q, ∀ t, Q (query t db)) :
    ∀ r q askedAt parts,
      (run (dashboardStep py queries) (ReadThrough.start now db) l).readers r =
        .returned q askedAt parts →
      since + (seconds (q.key py).ttlSeconds + delay) ≤ askedAt → ∀ part ∈ parts, Q part.value := by
  intro r q askedAt parts hr hle part hpart
  obtain ⟨hanswers, hlt⟩ := (ReadThrough.bounded hdelay hl).last r q askedAt parts hr
  obtain ⟨q', -, query, hquery, db, hheld, -, hvalue⟩ :=
    ReadThrough.Answers.exists_genuine hanswers hpart
  have hread : since < part.readAt := lt_of_add_lt_add_right (hle.trans_lt (hlt part hpart))
  rw [hvalue]
  exact hafter _ db hread hheld q' query hquery _

/-- **What a writer sweeps away stays away exactly if no request writes what it read before**: in
every run in which a sweep ends when it has come across the keys that are there all the time, what
is under a key that was not there at some point since a sweep began is from after the change of its
writer, and so is all that is there once the sweep is over, exactly if no request writes results
from before the change to such a key. -/
theorem dashboards_swept
    (hscan : AllSteps (dashboardStep py queries) ReadThrough.Scanned
      (ReadThrough.start now db) l) :
    Throughout (dashboardStep py queries) (fun s => ReadThrough.Effective s ∧ ReadThrough.Swept s)
        (ReadThrough.start now db) l ↔
      AllSteps (dashboardStep py queries) (ReadThrough.OnTime (dashboardPolicy py queries))
        (ReadThrough.start now db) l := by
  constructor
  · intro h
    exact ReadThrough.effective_iff.mp (h.mono fun _ hs => hs.1)
  · intro htime
    have heffective := throughout_iff_prefix.mp (ReadThrough.effective_iff.mpr htime)
    have hswept := throughout_iff_prefix.mp (ReadThrough.swept hscan htime)
    rw [ throughout_iff_prefix]
    exact fun l₁ l₂ hl => ⟨heffective l₁ l₂ hl, hswept l₁ l₂ hl⟩

/-- A dashboard that is a count. -/
def countQueries : DashboardRequest → List (Instant → ℕ → ℕ) := fun _ => [fun _ n => n]

/-- The count is read for a request, and has changed when a second one is answered from Redis. -/
def cachedRun : List (DashboardEvent ℕ ℕ Unit) :=
  [.ask 0 .stats true, .next 0 true true, .next 0 true true, .tick (seconds 5), .write 7,
    .ask 1 .stats true]

theorem prompt_cachedRun : AllSteps (dashboardStep .ascii countQueries)
    (ReadThrough.Prompt (dashboardPolicy .ascii countQueries) 0)
    (ReadThrough.start 0 0 : DashboardWorld ℕ ℕ ℕ Unit) cachedRun := by
  refine ⟨trivial, ?_, ?_, trivial, trivial, trivial, trivial⟩ <;>
    · rintro q startedAt asked parts ⟨⟩ - -
      exact le_rfl

/-- The second answer is the old count, which is five seconds old. -/
theorem dashboards_bounded_cached :
    ((run (dashboardStep .ascii countQueries)
        (ReadThrough.start 0 0 : DashboardWorld ℕ ℕ ℕ Unit) cachedRun).readers 1 =
      .returned .stats (seconds 5) [⟨0, 0, 0⟩]) ∧
    Throughout (dashboardStep .ascii countQueries)
      (fun s => ∀ r q askedAt parts, s.readers r = .returned q askedAt parts →
        DashboardAnswer .ascii countQueries s.source q parts ∧
          ∀ part ∈ parts, askedAt < part.readAt + (seconds (q.key .ascii).ttlSeconds + 0))
      (ReadThrough.start 0 0 : DashboardWorld ℕ ℕ ℕ Unit) cachedRun :=
  ⟨rfl, dashboards_bounded le_rfl prompt_cachedRun⟩

/-- A request reads the count, the count changes and Redis is swept, and a second request asks. -/
def countRun : List (DashboardEvent ℕ ℕ Unit) :=
  [.ask 0 .stats true, .next 0 true true, .next 0 true true, .commit () 1, .sweep (),
    .delete () .stats, .finish (), .ask 1 .stats true, .next 1 true true, .next 1 true true]

theorem scanned_countRun : AllSteps (dashboardStep .ascii countQueries) ReadThrough.Scanned
    (ReadThrough.start 0 0 : DashboardWorld ℕ ℕ ℕ Unit) countRun := by
  refine ⟨trivial, trivial, trivial, trivial, trivial, trivial, ?_, trivial, trivial, trivial,
    trivial⟩
  rintro n cleared ⟨⟩ k
  cases k <;> rfl

theorem onTime_countRun : AllSteps (dashboardStep .ascii countQueries)
    (ReadThrough.OnTime (dashboardPolicy .ascii countQueries))
    (ReadThrough.start 0 0 : DashboardWorld ℕ ℕ ℕ Unit) countRun := by
  refine ⟨trivial, ?_, ?_, trivial, trivial, trivial, trivial, trivial, ?_, ?_, trivial⟩
  · rintro q startedAt asked parts ⟨⟩ - - v n ⟨⟩
  · rintro q startedAt asked parts ⟨⟩ - - v n ⟨⟩
  · rintro q startedAt asked parts ⟨⟩ - - v n - part hpart
    exact absurd hpart List.not_mem_nil
  · rintro q startedAt asked parts ⟨⟩ - - v n ⟨⟩ part hpart
    obtain rfl := List.mem_singleton.mp hpart
    exact le_rfl

/-- The first count is gone for good. -/
theorem dashboards_swept_count : Throughout (dashboardStep .ascii countQueries)
    (fun s => ReadThrough.Effective s ∧ ReadThrough.Swept s)
    (ReadThrough.start 0 0 : DashboardWorld ℕ ℕ ℕ Unit) countRun :=
  (dashboards_swept scanned_countRun).mpr onTime_countRun

end Runs

end CveManagement
