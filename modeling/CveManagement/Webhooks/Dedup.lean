import CveManagement.Library.Table
import CveManagement.Library.Trajectory
import CveManagement.Sync.Jobs
import Mathlib

/-!
# The deduplication of deliveries

`enqueue_delivery` of `app/services/webhooks.py` asks `is_duplicate` whether a delivery for the
webhook, the event and the key was inserted in the last five minutes, and inserts one if not. The
two are statements of their own, and nothing in `webhook_deliveries` keeps a second row out. So two
calls that both ask before either inserts will both insert: the rows of a key stay five minutes
apart exactly if no call inserts one less than five minutes after one that its question came too
early to see (`CveManagement.DedupQueue.spaced_iff`).
-/

namespace CveManagement

/-! ### Calls and rows -/

/-- The arguments of `enqueue_delivery`, but for the payload. -/
structure EnqueueCall where
  webhookId : ℕ
  eventType : String
  dedupKey : Option String
  deriving DecidableEq

/-- A row of `webhook_deliveries`, as far as `is_duplicate` reads it. -/
structure QueuedDelivery extends EnqueueCall where
  id : ℕ
  createdAt : Instant
  deriving DecidableEq

/-- `_DEDUP_WINDOW_SECONDS`. -/
def dedupWindow : Instant := seconds (5 * 60)

namespace EnqueueCall

/-- `if dedup_key`: neither `None` nor empty. -/
def keyed (call : EnqueueCall) : Bool := call.dedupKey.any fun key => key != ""

/-- The row is for the same webhook, event and key; `NULL` is not equal to itself. -/
def covers (call : EnqueueCall) (r : QueuedDelivery) : Bool :=
  r.webhookId == call.webhookId && r.eventType == call.eventType && call.dedupKey.isSome &&
    r.dedupKey == call.dedupKey

end EnqueueCall

/-- Where a call is: before its question, before its insertion, or done. The insertion knows how
far the ids had got when the question was asked, which no statement looks at. -/
inductive EnqueuePhase
  | asking
  | inserting (seen : ℕ)
  | returned (id : Option ℕ)

/-- **The calls at work**, with the clock of the database and the table. -/
structure DedupQueue (ω : Type) where
  clock : Instant
  rows : Table QueuedDelivery QueuedDelivery.id
  phase : ω → EnqueuePhase

namespace DedupQueue

open Trajectory

variable {ω : Type} [DecidableEq ω] (calls : ω → EnqueueCall)

/-- What happens: time passes, or a call goes on. -/
inductive Event (ω : Type)
  | elapse (d : ℕ)
  /-- `is_duplicate`. -/
  | ask (w : ω)
  /-- The `INSERT`. -/
  | insert (w : ω)

/-- No row, and no call has begun. A call without a key does not ask. -/
def start (now : Instant) : DedupQueue ω where
  clock := now
  rows := Table.empty
  phase w := if (calls w).keyed then .asking else .inserting 0

/-- **`is_duplicate`.** -/
def isDuplicate (s : DedupQueue ω) (call : EnqueueCall) : Bool :=
  s.rows.rows.any fun r => call.covers r && decide (s.clock - dedupWindow < r.createdAt)

/-- The `INSERT`, with the default of `created_at`. -/
def inserted (s : DedupQueue ω) (call : EnqueueCall) : Table QueuedDelivery QueuedDelivery.id :=
  s.rows.insert fun n => { call with id := n, createdAt := s.clock }

/-- **One step.** -/
def step (s : DedupQueue ω) : Event ω → DedupQueue ω
  | .elapse d => { s with clock := s.clock + d }
  | .ask w =>
    match s.phase w with
    | .asking =>
      let next : EnqueuePhase :=
        if s.isDuplicate (calls w) then .returned none else .inserting s.rows.seq
      { s with phase := Function.update s.phase w next }
    | _ => s
  | .insert w =>
    match s.phase w with
    | .inserting _ =>
      { s with
        rows := s.inserted (calls w)
        phase := Function.update s.phase w (.returned (some s.rows.seq)) }
    | _ => s

/-- Two rows are for the same webhook, event and key, which is not empty. -/
def SameKey (r r' : QueuedDelivery) : Prop := r.keyed = true ∧ r.covers r' = true

/-- **Deduplication holds**: no two rows of a key are created within less than five minutes. -/
def Spaced (s : DedupQueue ω) : Prop :=
  ∀ r ∈ s.rows.rows, ∀ r' ∈ s.rows.rows, r.id ≠ r'.id → SameKey r r' →
    dedupWindow ≤ |r.createdAt - r'.createdAt|

/-- **No race**: a call with a key does not insert less than five minutes after a row of its key
that came after its question. -/
def Unraced (s : DedupQueue ω) : Event ω → Prop
  | .insert w => ∀ seen, s.phase w = .inserting seen → (calls w).keyed = true →
      ∀ r ∈ s.rows.rows, seen ≤ r.id → (calls w).covers r = true →
        r.createdAt + dedupWindow ≤ s.clock
  | _ => True

/-- **What the clock and the questions give**: no row is of the future, and a call that is to
insert has seen all rows of its key, up to some id, at least five minutes old. -/
structure Known (s : DedupQueue ω) : Prop where
  past : ∀ r ∈ s.rows.rows, r.createdAt ≤ s.clock
  asked : ∀ w seen, s.phase w = .inserting seen → (calls w).keyed = true →
    seen ≤ s.rows.seq ∧ ∀ r ∈ s.rows.rows, r.id < seen → (calls w).covers r = true →
      r.createdAt + dedupWindow ≤ s.clock

/-! ### One step -/

section Step

variable {calls} {s : DedupQueue ω} {w : ω} {r r' : QueuedDelivery}

omit [DecidableEq ω] in
/-- **What an answer of no says**: all rows of the key are five minutes old. -/
theorem isDuplicate_eq_false {call : EnqueueCall} : s.isDuplicate call = false ↔
    ∀ r ∈ s.rows.rows, call.covers r = true → r.createdAt + dedupWindow ≤ s.clock := by
  rw [isDuplicate, List.any_eq_false]
  refine forall₂_congr fun r _ => ?_
  rw [Bool.and_eq_true, not_and, decide_eq_true_eq, not_lt, le_sub_iff_add_le]

theorem covers_iff {call : EnqueueCall} : call.covers r = true ↔ r.webhookId = call.webhookId ∧
    r.eventType = call.eventType ∧ call.dedupKey.isSome = true ∧ r.dedupKey = call.dedupKey := by
  simp only [EnqueueCall.covers, Bool.and_eq_true, beq_iff_eq, and_assoc]

theorem SameKey.symm (h : SameKey r r') : SameKey r' r := by
  obtain ⟨hkeyed, hcovers⟩ := h
  obtain ⟨hwebhook, hevent, hsome, hkey⟩ := covers_iff.mp hcovers
  refine ⟨?_, covers_iff.mpr ⟨hwebhook.symm, hevent.symm, hkey ▸ hsome, hkey.symm⟩⟩
  rw [EnqueueCall.keyed, hkey]
  exact hkeyed

/-- A row that is inserted is for the key of its call. -/
theorem sameKey_inserted {call : EnqueueCall} {id : ℕ} {createdAt : Instant} :
    SameKey { call with id := id, createdAt := createdAt } r ↔
      call.keyed = true ∧ call.covers r = true := Iff.rfl

omit [DecidableEq ω] in
/-- **An insertion keeps the rows apart** exactly if all rows of its key are five minutes old. -/
theorem spaced_insert_iff (hknown : Known calls s) (hspaced : Spaced s) {call : EnqueueCall}
    {phase : ω → EnqueuePhase} :
    Spaced { s with rows := s.inserted call, phase := phase } ↔ (call.keyed = true →
      ∀ r ∈ s.rows.rows, call.covers r = true → r.createdAt + dedupWindow ≤ s.clock) := by
  have hnew : ({ call with id := s.rows.seq, createdAt := s.clock } : QueuedDelivery) ∈
      (s.inserted call).rows := List.mem_append_right _ (List.mem_singleton_self _)
  have hgap : ∀ r ∈ s.rows.rows,
      (dedupWindow ≤ |s.clock - r.createdAt| ↔ r.createdAt + dedupWindow ≤ s.clock) := by
    intro r hr
    rw [abs_of_nonneg (sub_nonneg.mpr (hknown.past r hr)), le_sub_iff_add_le, add_comm]
  constructor
  · intro hnext hkeyed r hr hcovers
    have hne : s.rows.seq ≠ r.id := (Nat.ne_of_lt (s.rows.key_lt r hr)).symm
    exact (hgap r hr).mp (hnext _ hnew r (List.mem_append_left _ hr) hne ⟨hkeyed, hcovers⟩)
  · intro hold r hr r' hr' hne hsame
    rcases List.mem_append.mp hr with hr | hr <;> rcases List.mem_append.mp hr' with hr' | hr'
    · exact hspaced r hr r' hr' hne hsame
    · rw [List.mem_singleton.mp hr'] at hsame ⊢
      obtain ⟨hkeyed, hcovers⟩ := sameKey_inserted.mp hsame.symm
      rw [abs_sub_comm]
      exact (hgap r hr).mpr (hold hkeyed r hr hcovers)
    · rw [List.mem_singleton.mp hr] at hsame ⊢
      obtain ⟨hkeyed, hcovers⟩ := sameKey_inserted.mp hsame
      exact (hgap r' hr').mpr (hold hkeyed r' hr' hcovers)
    · rw [List.mem_singleton.mp hr, List.mem_singleton.mp hr'] at hne
      exact absurd rfl hne

/-- **Every step keeps what is known.** -/
theorem known_step (s : DedupQueue ω) (e : Event ω) (h : Known calls s) :
    Known calls (step calls s e) := by
  cases e with
  | elapse d =>
    have hle : s.clock ≤ s.clock + d := le_add_of_nonneg_right (Int.natCast_nonneg d)
    exact ⟨fun r hr => (h.past r hr).trans hle, fun w seen hw hkeyed =>
      ⟨(h.asked w seen hw hkeyed).1, fun r hr hlt hcovers =>
        ((h.asked w seen hw hkeyed).2 r hr hlt hcovers).trans hle⟩⟩
  | ask w =>
    rw [step]
    split
    · refine ⟨h.past, fun w' seen hw' hkeyed => ?_⟩
      dsimp only at hw'
      by_cases hsame : w' = w
      · rw [hsame, Function.update_self] at hw'
        split_ifs at hw' with hdup
        -- what the question has seen is all there is
        obtain rfl := EnqueuePhase.inserting.inj hw'
        refine ⟨le_refl _, fun r hr _ hcovers => ?_⟩
        rw [hsame] at hcovers
        exact isDuplicate_eq_false.mp (Bool.eq_false_of_not_eq_true hdup) r hr hcovers
      · rw [Function.update_of_ne hsame] at hw'
        exact h.asked w' seen hw' hkeyed
    · exact h
  | insert w =>
    rw [step]
    split
    · refine ⟨fun r hr => ?_, fun w' seen hw' hkeyed => ?_⟩
      · rcases List.mem_append.mp hr with hr | hr
        · exact h.past r hr
        · rw [List.mem_singleton.mp hr]
      · dsimp only at hw'
        by_cases hsame : w' = w
        · rw [hsame, Function.update_self] at hw'
          cases hw'
        · rw [Function.update_of_ne hsame] at hw'
          obtain ⟨hseq, hold⟩ := h.asked w' seen hw' hkeyed
          refine ⟨Nat.le_succ_of_le hseq, fun r hr hlt hcovers => ?_⟩
          rcases List.mem_append.mp hr with hr | hr
          · exact hold r hr hlt hcovers
          · -- the new row is beyond what the other call has seen
            rw [List.mem_singleton.mp hr] at hlt
            exact absurd hlt (Nat.not_lt.mpr hseq)
    · exact h

/-- **One step** keeps the rows apart exactly if it is no race. -/
theorem spaced_step_iff (s : DedupQueue ω) (e : Event ω) (hknown : Known calls s)
    (hspaced : Spaced s) : Spaced (step calls s e) ↔ Unraced calls s e := by
  cases e with
  | elapse d => exact iff_of_true hspaced trivial
  | ask w =>
    refine iff_of_true ?_ trivial
    rw [step]
    split
    · exact hspaced
    · exact hspaced
  | insert w =>
    rw [step]
    split
    next seen hw =>
      rw [spaced_insert_iff hknown hspaced, Unraced]
      constructor
      · intro hall seen' _ hkeyed r hr _ hcovers
        exact hall hkeyed r hr hcovers
      · intro hunraced hkeyed r hr hcovers
        by_cases hlt : r.id < seen
        · exact (hknown.asked w seen hw hkeyed).2 r hr hlt hcovers
        · exact hunraced seen hw hkeyed r hr (Nat.not_lt.mp hlt) hcovers
    next hw =>
      exact iff_of_true hspaced fun seen hseen => absurd hseen (hw seen)

end Step

/-! ### Runs -/

omit [DecidableEq ω] in
theorem known_start (now : Instant) : Known calls (start calls now) where
  past _ hr := absurd hr List.not_mem_nil
  asked w seen hw hkeyed := by
    rw [start] at hw
    dsimp only at hw
    rw [if_pos hkeyed] at hw
    cases hw

/-- **When deduplication holds**: in every interleaving of any calls, no two rows of a key are
created within less than five minutes exactly if no call is overtaken between its two
statements by one that inserts a row of its key less than five minutes before it. -/
theorem spaced_iff (now : Instant) (l : List (Event ω)) :
    Throughout (step calls) Spaced (start calls now) l ↔
      AllSteps (step calls) (Unraced calls) (start calls now) l :=
  throughout_iff_allSteps known_step spaced_step_iff (known_start calls now)
    fun _ hr => absurd hr List.not_mem_nil

/-- **Two calls that ask before either inserts** both insert. -/
theorem not_spaced : ¬∀ (calls : Bool → EnqueueCall) (l : List (Event Bool)),
    Throughout (step calls) Spaced (start calls 0) l := by
  intro h
  have hlast := (h (fun _ => ⟨1, "finding.kev_match", some "CVE-2025-1000"⟩)
    [.ask true, .ask false, .insert true, .insert false]).last
  have hgap := hlast ⟨⟨1, "finding.kev_match", some "CVE-2025-1000"⟩, 1, 0⟩ (by decide +kernel)
    ⟨⟨1, "finding.kev_match", some "CVE-2025-1000"⟩, 2, 0⟩ (by decide +kernel) (by decide)
    ⟨by decide +kernel, by decide +kernel⟩
  exact absurd hgap (by decide)

end DedupQueue

end CveManagement
