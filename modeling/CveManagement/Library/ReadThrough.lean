import CveManagement.Library.Expiring
import CveManagement.Library.Timeline
import CveManagement.Library.Trajectory

/-!
# A cache that readers fill and writers sweep

A reader asks a store for a key; if the key is not there, it sends its queries to a source one after
the other and writes their results under the key, for some time. A writer changes the source, and
may sweep the store afterwards: the keys that the sweep comes across are deleted one by one. The
commands of readers and writers come in any order (`ReadThrough.step`).

Two things are said about what a reader gets.

* **It is not too old** (`ReadThrough.bounded`): each result was read less than the lifetime of the
  key ago, and the time that a reader takes from asking to writing.
* **A sweep sticks exactly if no one writes old results after it** (`ReadThrough.effective_iff`): a
  key that was deleted, or not there, since the sweep began holds no result from before the change,
  exactly as long as no reader writes results from before the change to it. Once the sweep has come
  across every key, nothing is left from before the change (`ReadThrough.swept`).
-/

namespace ReadThrough

open Trajectory

/-- **What is kept**, and how it is found: requests with one key are given what one of them has
found. -/
structure Policy (ρ κ α β τ : Type*) [Zero τ] [LT τ] where
  key : ρ → κ
  /-- The queries of a request, at a point in time. -/
  queries : ρ → List (τ → α → β)
  ttl : κ → τ
  ttl_pos : ∀ k, 0 < ttl k

/-- The result of a query, with when it was read and in which version of the source. -/
structure Part (β τ : Type*) where
  value : β
  readAt : τ
  version : ℕ

/-- Where a reader is. -/
inductive Reader (ρ β τ : Type*)
  | idle
  /-- With the results so far, and the version of the source when it asked. -/
  | reading (request : ρ) (startedAt : τ) (asked : ℕ) (parts : List (Part β τ))
  | returned (request : ρ) (askedAt : τ) (parts : List (Part β τ))
  | failed

/-- Where a writer is: the version that it has made, and the keys that were not there at some point
since its sweep began. -/
inductive Writer (κ : Type*)
  | idle
  | committed (version : ℕ)
  | sweeping (version : ℕ) (cleared : κ → Bool)
  | done (version : ℕ) (cleared : κ → Bool)

/-- **The source, the store, the readers and the writers.** -/
structure World (ρ κ α β τ ω ν : Type*) [LinearOrder τ] where
  source : Timeline α τ
  store : Expiring.Store κ (List (Part β τ)) τ
  readers : ω → Reader ρ β τ
  writers : ν → Writer κ

/-- What happens next. -/
inductive Event (ρ κ α τ ω ν : Type*)
  | tick (t : τ)
  /-- A change that no one sweeps after. -/
  | write (a : α)
  /-- The change of a writer that sweeps. -/
  | commit (writer : ν) (a : α)
  | sweep (writer : ν)
  /-- A key that the sweep comes across is deleted. -/
  | delete (writer : ν) (key : κ)
  | finish (writer : ν)
  /-- A reader asks; without an answer it fails. -/
  | ask (reader : ω) (request : ρ) (answered : Bool)
  /-- The next command of a reader; what becomes of its write if it is that. -/
  | next (reader : ω) (stored answered : Bool)

variable {ρ κ α β τ ω ν : Type*} [LinearOrder τ] [AddCommGroup τ] [IsOrderedAddMonoid τ]
  [DecidableEq κ] [DecidableEq ω] [DecidableEq ν]

/-- Keys that are seen not to be there. -/
def Writer.clear (p : κ → Bool) : Writer κ → Writer κ
  | .sweeping version cleared => .sweeping version fun k => cleared k || p k
  | w => w

/-- The version of a writer that has begun to sweep, if a key was not there since. -/
def Writer.clearedFor (k : κ) : Writer κ → Option ℕ
  | .sweeping version cleared => if cleared k then some version else none
  | .done version cleared => if cleared k then some version else none
  | _ => none

namespace World

variable (P : Policy ρ κ α β τ) (s : World ρ κ α β τ ω ν)

/-- What is under a key. -/
def cached (k : κ) : Option (List (Part β τ)) := s.store.get? s.source.now k

/-- A key is not there. -/
def absent (k : κ) : Bool := (s.cached k).isNone

/-- A reader moves on. -/
def moveReader (r : ω) (phase : Reader ρ β τ) : World ρ κ α β τ ω ν :=
  { s with readers := Function.update s.readers r phase }

/-- A writer moves on. -/
def moveWriter (v : ν) (phase : Writer κ) : World ρ κ α β τ ω ν :=
  { s with writers := Function.update s.writers v phase }

/-- A reader asks for what is under the key of its request. -/
def ask (r : ω) (request : ρ) (answered : Bool) : World ρ κ α β τ ω ν :=
  if answered then
    match s.cached (P.key request) with
    | some parts => s.moveReader r (.returned request s.source.now parts)
    | none => s.moveReader r (.reading request s.source.now s.source.version [])
  else s.moveReader r .failed

/-- **The next command of a reader**: a query, or the write of the results. -/
def next (r : ω) (stored answered : Bool) : World ρ κ α β τ ω ν :=
  match s.readers r with
  | .reading request startedAt asked parts =>
    match (P.queries request)[parts.length]? with
    | some q =>
      s.moveReader r (.reading request startedAt asked
        (parts ++ [⟨q s.source.now s.source.current, s.source.now, s.source.version⟩]))
    | none =>
      { s.moveReader r
          (if stored && answered then .returned request startedAt parts else .failed) with
        store := if stored then
            s.store.set (P.key request) parts (s.source.now + P.ttl (P.key request))
          else s.store }
  | _ => s

/-- Keys that are not there are not there for the writers that sweep. -/
def note : World ρ κ α β τ ω ν :=
  { s with writers := fun v => (s.writers v).clear s.absent }

end World

/-- **One event.** -/
def step (P : Policy ρ κ α β τ) (s : World ρ κ α β τ ω ν) : Event ρ κ α τ ω ν → World ρ κ α β τ ω ν
  | .tick t => World.note { s with source := s.source.advance t }
  | .write a => { s with source := s.source.commit a }
  | .commit v a =>
    match s.writers v with
    | .idle =>
      { s.moveWriter v (.committed (s.source.version + 1)) with source := s.source.commit a }
    | _ => s
  | .sweep v =>
    match s.writers v with
    | .committed version => s.moveWriter v (.sweeping version s.absent)
    | _ => s
  | .delete v k =>
    match s.writers v with
    | .sweeping _ _ => World.note { s with store := s.store.del k }
    | _ => s
  | .finish v =>
    match s.writers v with
    | .sweeping version cleared => s.moveWriter v (.done version cleared)
    | _ => s
  | .ask r request answered =>
    match s.readers r with
    | .idle => s.ask P r request answered
    | _ => s
  | .next r stored answered => s.next P r stored answered

/-- Nothing is kept, and no one has begun. -/
def start (now : τ) (a : α) : World ρ κ α β τ ω ν :=
  ⟨Timeline.start now a, .empty, fun _ => .idle, fun _ => .idle⟩

/-! ### What a result shows -/

/-- **A result of a query**, on the source as it was. -/
def Part.Genuine (l : Timeline α τ) (query : τ → α → β) (part : Part β τ) : Prop :=
  ∃ a, l.HeldAt part.readAt a ∧ l.valueAt part.version = some a ∧ part.value = query part.readAt a

/-- **An answer for a key**: the results of the queries of a request with the key. -/
def Answers (P : Policy ρ κ α β τ) (l : Timeline α τ) (k : κ) (parts : List (Part β τ)) : Prop :=
  ∃ request, P.key request = k ∧ List.Forall₂ (Part.Genuine l) (P.queries request) parts

omit [AddCommGroup τ] [IsOrderedAddMonoid τ] [DecidableEq κ] in
theorem Part.Genuine.mono {l l' : Timeline α τ} {query : τ → α → β} {part : Part β τ}
    (h : part.Genuine l query) (hheld : ∀ t a, l.HeldAt t a → l'.HeldAt t a)
    (hvalue : ∀ n a, l.valueAt n = some a → l'.valueAt n = some a) : part.Genuine l' query := by
  obtain ⟨a, ha, hn, hv⟩ := h
  exact ⟨a, hheld _ a ha, hvalue _ a hn, hv⟩

omit [IsOrderedAddMonoid τ] [DecidableEq κ] in
theorem Answers.mono {P : Policy ρ κ α β τ} {l l' : Timeline α τ} {k : κ}
    {parts : List (Part β τ)} (h : Answers P l k parts)
    (hheld : ∀ t a, l.HeldAt t a → l'.HeldAt t a)
    (hvalue : ∀ n a, l.valueAt n = some a → l'.valueAt n = some a) : Answers P l' k parts := by
  obtain ⟨request, hkey, hparts⟩ := h
  exact ⟨request, hkey, hparts.imp fun _ _ hpart => hpart.mono hheld hvalue⟩

omit [IsOrderedAddMonoid τ] [DecidableEq κ] in
/-- Each part of an answer is the result of a query. -/
theorem Answers.exists_genuine {P : Policy ρ κ α β τ} {l : Timeline α τ} {k : κ}
    {parts : List (Part β τ)} (h : Answers P l k parts) {part : Part β τ} (hpart : part ∈ parts) :
    ∃ request, P.key request = k ∧ ∃ query ∈ P.queries request, part.Genuine l query := by
  obtain ⟨request, hkey, hparts⟩ := h
  refine ⟨request, hkey, ?_⟩
  generalize P.queries request = queries at hparts ⊢
  induction hparts with
  | nil => exact absurd hpart List.not_mem_nil
  | cons hgenuine _ ih =>
    rcases List.mem_cons.mp hpart with rfl | hpart
    · exact ⟨_, List.mem_cons_self, hgenuine⟩
    · obtain ⟨query, hquery, hgenuine⟩ := ih hpart
      exact ⟨query, List.mem_cons_of_mem _ hquery, hgenuine⟩

/-- **Everything that is kept or returned is an answer**, and results are read after they are asked
for. -/
structure Sound (P : Policy ρ κ α β τ) (s : World ρ κ α β τ ω ν) : Prop where
  store : ∀ k parts expiry, s.store.entry k = some (parts, expiry) → Answers P s.source k parts
  reading : ∀ r q startedAt asked parts, s.readers r = .reading q startedAt asked parts →
    startedAt ≤ s.source.now ∧ asked ≤ s.source.version ∧
      List.Forall₂ (Part.Genuine s.source) ((P.queries q).take parts.length) parts ∧
        ∀ part ∈ parts, startedAt ≤ part.readAt ∧ asked ≤ part.version
  returned : ∀ r q askedAt parts, s.readers r = .returned q askedAt parts →
    Answers P s.source (P.key q) parts

/-- A write of results takes no longer than that from when they were asked for. -/
def Prompt (P : Policy ρ κ α β τ) (delay : τ) (s : World ρ κ α β τ ω ν) : Event ρ κ α τ ω ν → Prop
  | .next r stored _ => ∀ q startedAt asked parts, s.readers r = .reading q startedAt asked parts →
      (P.queries q)[parts.length]? = none → stored = true → s.source.now ≤ startedAt + delay
  | _ => True

/-- **No result is kept or returned for too long.** -/
structure Recent (P : Policy ρ κ α β τ) (delay : τ) (s : World ρ κ α β τ ω ν) : Prop where
  store : ∀ k parts expiry, s.store.entry k = some (parts, expiry) →
    ∀ part ∈ parts, expiry ≤ part.readAt + (P.ttl k + delay)
  returned : ∀ r q askedAt parts, s.readers r = .returned q askedAt parts →
    ∀ part ∈ parts, askedAt < part.readAt + (P.ttl (P.key q) + delay)

/-- Results from before a change are not written to a key that was not there since. -/
def OnTime (P : Policy ρ κ α β τ) (s : World ρ κ α β τ ω ν) : Event ρ κ α τ ω ν → Prop
  | .next r stored _ => ∀ q startedAt asked parts, s.readers r = .reading q startedAt asked parts →
      (P.queries q)[parts.length]? = none → stored = true →
        ∀ v n, (s.writers v).clearedFor (P.key q) = some n → ∀ part ∈ parts, n ≤ part.version
  | _ => True

/-- **The sweeps stick**: what is under a key that was not there since a sweep began is from after
the change of its writer. -/
def Effective (s : World ρ κ α β τ ω ν) : Prop :=
  ∀ v k n, (s.writers v).clearedFor k = some n →
    ∀ parts, s.cached k = some parts → ∀ part ∈ parts, n ≤ part.version

/-- A sweep that comes to its end has come across every key that was there all the time. -/
def Scanned (s : World ρ κ α β τ ω ν) : Event ρ κ α τ ω ν → Prop
  | .finish v => ∀ n cleared, s.writers v = .sweeping n cleared → ∀ k, cleared k = true
  | _ => True

/-- **After a sweep** nothing is kept from before the change of its writer. -/
def Swept (s : World ρ κ α β τ ω ν) : Prop :=
  ∀ v n cleared, s.writers v = .done n cleared →
    ∀ k parts, s.cached k = some parts → ∀ part ∈ parts, n ≤ part.version

section Step

variable {P : Policy ρ κ α β τ} {s : World ρ κ α β τ ω ν}

omit [IsOrderedAddMonoid τ] [DecidableEq κ] [DecidableEq ω] [DecidableEq ν] in
theorem sound_start (now : τ) (a : α) : Sound P (start now a : World ρ κ α β τ ω ν) where
  store k parts expiry h := by cases h
  reading r q startedAt asked parts h := by cases h
  returned r q askedAt parts h := by cases h

omit [DecidableEq ω] [DecidableEq ν] in
omit [IsOrderedAddMonoid τ] [DecidableEq κ] in
/-- Time passes or the source changes, and keys are deleted. -/
theorem Sound.grow {s' : World ρ κ α β τ ω ν} (h : Sound P s)
    (hheld : ∀ t a, s.source.HeldAt t a → s'.source.HeldAt t a)
    (hvalue : ∀ n a, s.source.valueAt n = some a → s'.source.valueAt n = some a)
    (hnow : s.source.now ≤ s'.source.now) (hversion : s.source.version ≤ s'.source.version)
    (hstore : ∀ k e, s'.store.entry k = some e → s.store.entry k = some e)
    (hreaders : s'.readers = s.readers) : Sound P s' where
  store k parts expiry hk := (h.store k parts expiry (hstore k _ hk)).mono hheld hvalue
  reading r q startedAt asked parts hr := by
    rw [hreaders] at hr
    obtain ⟨hstarted, hasked, hgenuine, hparts⟩ := h.reading r q startedAt asked parts hr
    exact ⟨hstarted.trans hnow, hasked.trans hversion,
      hgenuine.imp fun _ _ hpart => hpart.mono hheld hvalue, hparts⟩
  returned r q askedAt parts hr := by
    rw [hreaders] at hr
    exact (h.returned r q askedAt parts hr).mono hheld hvalue

omit [IsOrderedAddMonoid τ] [DecidableEq κ] [DecidableEq ν] in
/-- A reader moves to where its results are genuine. -/
theorem Sound.moveReader (h : Sound P s) {r : ω} {phase : Reader ρ β τ}
    (hreading : ∀ q startedAt asked parts, phase = .reading q startedAt asked parts →
      startedAt ≤ s.source.now ∧ asked ≤ s.source.version ∧
        List.Forall₂ (Part.Genuine s.source) ((P.queries q).take parts.length) parts ∧
          ∀ part ∈ parts, startedAt ≤ part.readAt ∧ asked ≤ part.version)
    (hreturned : ∀ q askedAt parts, phase = .returned q askedAt parts →
      Answers P s.source (P.key q) parts) : Sound P (s.moveReader r phase) where
  store := h.store
  reading r' q startedAt asked parts hr := by
    change Function.update s.readers r phase r' = _ at hr
    by_cases heq : r' = r
    · rw [heq, Function.update_self] at hr
      exact hreading q startedAt asked parts hr
    · rw [Function.update_of_ne heq] at hr
      exact h.reading r' q startedAt asked parts hr
  returned r' q askedAt parts hr := by
    change Function.update s.readers r phase r' = _ at hr
    by_cases heq : r' = r
    · rw [heq, Function.update_self] at hr
      exact hreturned q askedAt parts hr
    · rw [Function.update_of_ne heq] at hr
      exact h.returned r' q askedAt parts hr

omit [IsOrderedAddMonoid τ] [DecidableEq κ] [DecidableEq ν] in
theorem Sound.ask (h : Sound P s) (r : ω) (q : ρ) (answered : Bool) :
    Sound P (s.ask P r q answered) := by
  unfold World.ask
  split_ifs
  · split
    next parts hparts =>
      refine h.moveReader (fun _ _ _ _ heq => by cases heq) ?_
      rintro _ _ _ ⟨⟩
      obtain ⟨expiry, hentry, -⟩ := Expiring.Store.get?_eq_some_iff.mp hparts
      exact h.store _ parts expiry hentry
    · refine h.moveReader ?_ (fun _ _ _ heq => by cases heq)
      rintro _ _ _ _ ⟨⟩
      exact ⟨le_rfl, le_rfl, .nil, fun part hpart => absurd hpart List.not_mem_nil⟩
  · exact h.moveReader (fun _ _ _ _ heq => by cases heq) fun _ _ _ heq => by cases heq

omit [IsOrderedAddMonoid τ] [DecidableEq ν] in
theorem Sound.next (h : Sound P s) (r : ω) (stored answered : Bool) :
    Sound P (s.next P r stored answered) := by
  unfold World.next
  split
  next request startedAt asked parts hr =>
    obtain ⟨hstarted, hasked, hgenuine, hparts⟩ := h.reading r request startedAt asked parts hr
    split
    next q hq =>
      refine h.moveReader ?_ (fun _ _ _ heq => by cases heq)
      rintro _ _ _ _ ⟨⟩
      refine ⟨hstarted, hasked, ?_, fun part hpart => ?_⟩
      · rw [List.length_append, List.length_singleton, List.take_add_one, hq]
        exact List.rel_append hgenuine
          (.cons ⟨_, Timeline.heldAt_now, Timeline.valueAt_version, rfl⟩ .nil)
      · rcases List.mem_append.mp hpart with hpart | hpart
        · exact hparts part hpart
        · obtain rfl := List.mem_singleton.mp hpart
          exact ⟨hstarted, hasked⟩
    next hcomplete =>
      have hanswers : Answers P s.source (P.key request) parts := by
        rw [List.take_of_length_le (List.getElem?_eq_none_iff.mp hcomplete)] at hgenuine
        exact ⟨request, rfl, hgenuine⟩
      have hmoved : Sound P (s.moveReader r
          (if stored && answered then .returned request startedAt parts else .failed)) := by
        refine h.moveReader (fun _ _ _ _ heq => ?_) fun _ _ _ heq => ?_
        · split_ifs at heq
        · split_ifs at heq
          cases heq
          exact hanswers
      refine ⟨fun k parts' expiry hentry => ?_, hmoved.reading, hmoved.returned⟩
      change (if stored then s.store.set (P.key request) parts _ else s.store).entry k = _
        at hentry
      split_ifs at hentry
      · by_cases hk : k = P.key request
        · rw [hk, Expiring.Store.entry_set] at hentry
          cases hentry
          exact hk ▸ hanswers
        · rw [Expiring.Store.entry_set_of_ne hk] at hentry
          exact h.store k parts' expiry hentry
      · exact h.store k parts' expiry hentry
  · exact h

omit [LinearOrder τ] [AddCommGroup τ] [IsOrderedAddMonoid τ] in
/-- Keys that are deleted were there before. -/
theorem entry_of_del {store : Expiring.Store κ (List (Part β τ)) τ} {k k' : κ}
    {e : List (Part β τ) × τ} (h : (store.del k).entry k' = some e) : store.entry k' = some e := by
  by_cases hk : k' = k
  · rw [hk] at h
    simp [Expiring.Store.del] at h
  · rwa [Expiring.Store.entry_del_of_ne hk] at h

omit [IsOrderedAddMonoid τ] in
/-- **No event makes up a result.** -/
theorem sound_step (h : Sound P s) (e : Event ρ κ α τ ω ν) : Sound P (step P s e) := by
  cases e with
  | tick t =>
    exact h.grow (fun _ _ ha => ha.advance t) (fun _ _ ha => ha) (le_max_left ..) le_rfl
      (fun _ _ he => he) rfl
  | write a =>
    exact h.grow (fun _ _ ha => ha.commit a) (fun _ _ ha => Timeline.valueAt_commit ha) le_rfl
      (Nat.le_succ _) (fun _ _ he => he) rfl
  | commit v a =>
    rw [step]
    split
    · exact h.grow (fun _ _ ha => ha.commit a) (fun _ _ ha => Timeline.valueAt_commit ha) le_rfl
        (Nat.le_succ _) (fun _ _ he => he) rfl
    · exact h
  | sweep v =>
    rw [step]
    split
    · exact ⟨h.store, h.reading, h.returned⟩
    · exact h
  | delete v k =>
    rw [step]
    split
    · exact h.grow (fun _ _ ha => ha) (fun _ _ ha => ha) le_rfl le_rfl
        (fun _ _ he => entry_of_del he) rfl
    · exact h
  | finish v =>
    rw [step]
    split
    · exact ⟨h.store, h.reading, h.returned⟩
    · exact h
  | ask r q answered =>
    rw [step]
    split
    · exact h.ask r q answered
    · exact h
  | next r stored answered => exact h.next r stored answered

omit [IsOrderedAddMonoid τ] in
/-- No event takes back what the source was. -/
theorem heldAt_step {t : τ} {a : α} (h : s.source.HeldAt t a) (e : Event ρ κ α τ ω ν) :
    (step P s e).source.HeldAt t a := by
  cases e with
  | tick u => exact h.advance u
  | write b => exact h.commit b
  | commit v b =>
    rw [step]
    split
    · exact h.commit b
    · exact h
  | sweep v =>
    rw [step]
    split <;> exact h
  | delete v k =>
    rw [step]
    split <;> exact h
  | finish v =>
    rw [step]
    split <;> exact h
  | ask r q answered =>
    rw [step]
    split
    · unfold World.ask
      split_ifs
      · split <;> exact h
      · exact h
    · exact h
  | next r stored answered =>
    rw [step]
    unfold World.next
    split
    · split <;> exact h
    · exact h

/-! ### How old results are -/

omit [IsOrderedAddMonoid τ] [DecidableEq κ] [DecidableEq ω] [DecidableEq ν] in
/-- Where readers are and what is kept change as with no event but those of readers. -/
theorem Recent.grow {s' : World ρ κ α β τ ω ν} {delay : τ} (h : Recent P delay s)
    (hstore : ∀ k e, s'.store.entry k = some e → s.store.entry k = some e)
    (hreaders : s'.readers = s.readers) : Recent P delay s' where
  store k parts expiry hk := h.store k parts expiry (hstore k _ hk)
  returned r q askedAt parts hr := by
    rw [hreaders] at hr
    exact h.returned r q askedAt parts hr

omit [IsOrderedAddMonoid τ] [DecidableEq κ] [DecidableEq ν] in
theorem Recent.moveReader {delay : τ} (h : Recent P delay s) {r : ω} {phase : Reader ρ β τ}
    (hreturned : ∀ q askedAt parts, phase = .returned q askedAt parts →
      ∀ part ∈ parts, askedAt < part.readAt + (P.ttl (P.key q) + delay)) :
    Recent P delay (s.moveReader r phase) where
  store := h.store
  returned r' q askedAt parts hr := by
    change Function.update s.readers r phase r' = _ at hr
    by_cases heq : r' = r
    · rw [heq, Function.update_self] at hr
      exact hreturned q askedAt parts hr
    · rw [Function.update_of_ne heq] at hr
      exact h.returned r' q askedAt parts hr

omit [IsOrderedAddMonoid τ] [DecidableEq κ] [DecidableEq ν] in
theorem Recent.ask {delay : τ} (h : Recent P delay s) (r : ω) (q : ρ) (answered : Bool) :
    Recent P delay (s.ask P r q answered) := by
  unfold World.ask
  split_ifs
  · split
    next parts hparts =>
      refine h.moveReader ?_
      rintro _ _ _ ⟨⟩ part hpart
      -- the key has not expired
      obtain ⟨expiry, hentry, hlt⟩ := Expiring.Store.get?_eq_some_iff.mp hparts
      exact hlt.trans_le (h.store _ parts expiry hentry part hpart)
    · exact h.moveReader fun _ _ _ heq => by cases heq
  · exact h.moveReader fun _ _ _ heq => by cases heq

omit [DecidableEq ν] in
theorem Recent.next {delay : τ} (hdelay : 0 ≤ delay) (h : Recent P delay s) (hsound : Sound P s)
    {r : ω} {stored answered : Bool} (hprompt : Prompt P delay s (.next r stored answered)) :
    Recent P delay (s.next P r stored answered) := by
  unfold World.next
  split
  next request startedAt asked parts hr =>
    obtain ⟨-, -, -, hparts⟩ := hsound.reading r request startedAt asked parts hr
    split
    · exact h.moveReader fun _ _ _ heq => by cases heq
    next hcomplete =>
      have hmoved : Recent P delay (s.moveReader r
          (if stored && answered then .returned request startedAt parts else .failed)) := by
        refine h.moveReader fun _ _ _ heq part hpart => ?_
        split_ifs at heq
        cases heq
        -- what it has read itself, it has read after it asked
        calc startedAt ≤ part.readAt := (hparts part hpart).1
          _ < part.readAt + (P.ttl (P.key request) + delay) :=
            lt_add_of_pos_right _ (add_pos_of_pos_of_nonneg (P.ttl_pos _) hdelay)
      refine ⟨fun k parts' expiry hentry part hpart => ?_, hmoved.returned⟩
      change (if stored then s.store.set (P.key request) parts _ else s.store).entry k = _
        at hentry
      split_ifs at hentry with hstored
      · by_cases hk : k = P.key request
        · rw [hk, Expiring.Store.entry_set] at hentry
          cases hentry
          rw [hk]
          calc s.source.now + P.ttl (P.key request) ≤ startedAt + delay + P.ttl (P.key request) :=
                add_le_add_left (hprompt request startedAt asked parts hr hcomplete hstored) _
            _ ≤ part.readAt + delay + P.ttl (P.key request) :=
                add_le_add_left (add_le_add_left (hparts part hpart).1 _) _
            _ = part.readAt + (P.ttl (P.key request) + delay) := by rw [add_assoc, add_comm delay]
        · rw [Expiring.Store.entry_set_of_ne hk] at hentry
          exact h.store k parts' expiry hentry part hpart
      · exact h.store k parts' expiry hentry part hpart
  · exact h

theorem recent_step {delay : τ} (hdelay : 0 ≤ delay) (h : Recent P delay s) (hsound : Sound P s)
    {e : Event ρ κ α τ ω ν} (hprompt : Prompt P delay s e) : Recent P delay (step P s e) := by
  cases e with
  | tick t => exact h.grow (fun _ _ he => he) rfl
  | write a => exact h.grow (fun _ _ he => he) rfl
  | commit v a =>
    rw [step]
    split
    · exact h.grow (fun _ _ he => he) rfl
    · exact h
  | sweep v =>
    rw [step]
    split
    · exact h.grow (fun _ _ he => he) rfl
    · exact h
  | delete v k =>
    rw [step]
    split
    · exact h.grow (fun _ _ he => entry_of_del he) rfl
    · exact h
  | finish v =>
    rw [step]
    split
    · exact h.grow (fun _ _ he => he) rfl
    · exact h
  | ask r q answered =>
    rw [step]
    split
    · exact h.ask r q answered
    · exact h
  | next r stored answered => exact h.next hdelay hsound hprompt

/-- **Bounded staleness**: what a reader gets are the results of the queries of a request with its
key, and each was read less than the lifetime of the key before it asked, and the time that readers
take, on the source as it was. -/
theorem bounded {delay : τ} (hdelay : 0 ≤ delay) {now : τ} {a : α} {l : List (Event ρ κ α τ ω ν)}
    (hl : AllSteps (step P) (Prompt P delay) (start now a) l) :
    Throughout (step P) (fun s => ∀ r q askedAt parts, s.readers r = .returned q askedAt parts →
      Answers P s.source (P.key q) parts ∧
        ∀ part ∈ parts, askedAt < part.readAt + (P.ttl (P.key q) + delay)) (start now a) l := by
  have hrecent : Recent P delay (start now a : World ρ κ α β τ ω ν) :=
    ⟨fun k parts expiry h => (by cases h), fun r q askedAt parts h => (by cases h)⟩
  have hstep : ∀ (s : World ρ κ α β τ ω ν) e, Sound P s ∧ Recent P delay s → Prompt P delay s e →
      Sound P (step P s e) ∧ Recent P delay (step P s e) :=
    fun s e h he => ⟨sound_step h.1 e, recent_step hdelay h.2 h.1 he⟩
  refine (throughout_of_allSteps (I := fun s => Sound P s ∧ Recent P delay s) hstep
    ⟨sound_start now a, hrecent⟩ hl).mono fun s h r q askedAt parts hr => ?_
  exact ⟨h.1.returned r q askedAt parts hr, h.2.returned r q askedAt parts hr⟩

/-! ### What is kept passes a test -/

/-- Only results that pass the test are written. -/
def Writes (P : Policy ρ κ α β τ) (G : κ → List (Part β τ) → Prop) (s : World ρ κ α β τ ω ν) :
    Event ρ κ α τ ω ν → Prop
  | .next r stored _ => ∀ q startedAt asked parts, s.readers r = .reading q startedAt asked parts →
      (P.queries q)[parts.length]? = none → stored = true → G (P.key q) parts
  | _ => True

/-- **What is kept or returned passes the test.** -/
structure Passes (P : Policy ρ κ α β τ) (G : κ → List (Part β τ) → Prop)
    (s : World ρ κ α β τ ω ν) : Prop where
  store : ∀ k parts expiry, s.store.entry k = some (parts, expiry) → G k parts
  returned : ∀ r q askedAt parts, s.readers r = .returned q askedAt parts → G (P.key q) parts

section Passes

variable {G : κ → List (Part β τ) → Prop}

omit [IsOrderedAddMonoid τ] [DecidableEq κ] [DecidableEq ω] [DecidableEq ν] in
theorem Passes.grow {s' : World ρ κ α β τ ω ν} (h : Passes P G s)
    (hstore : ∀ k e, s'.store.entry k = some e → s.store.entry k = some e)
    (hreaders : s'.readers = s.readers) : Passes P G s' where
  store k parts expiry hk := h.store k parts expiry (hstore k _ hk)
  returned r q askedAt parts hr := by
    rw [hreaders] at hr
    exact h.returned r q askedAt parts hr

omit [IsOrderedAddMonoid τ] [DecidableEq κ] [DecidableEq ν] in
theorem Passes.moveReader (h : Passes P G s) {r : ω} {phase : Reader ρ β τ}
    (hreturned : ∀ q askedAt parts, phase = .returned q askedAt parts → G (P.key q) parts) :
    Passes P G (s.moveReader r phase) where
  store := h.store
  returned r' q askedAt parts hr := by
    change Function.update s.readers r phase r' = _ at hr
    by_cases heq : r' = r
    · rw [heq, Function.update_self] at hr
      exact hreturned q askedAt parts hr
    · rw [Function.update_of_ne heq] at hr
      exact h.returned r' q askedAt parts hr

omit [IsOrderedAddMonoid τ] in
theorem passes_step (h : Passes P G s) {e : Event ρ κ α τ ω ν} (he : Writes P G s e) :
    Passes P G (step P s e) := by
  cases e with
  | tick t => exact h.grow (fun _ _ he => he) rfl
  | write a => exact h.grow (fun _ _ he => he) rfl
  | commit v a =>
    rw [step]
    split
    · exact h.grow (fun _ _ he => he) rfl
    · exact h
  | sweep v =>
    rw [step]
    split
    · exact h.grow (fun _ _ he => he) rfl
    · exact h
  | delete v k =>
    rw [step]
    split
    · exact h.grow (fun _ _ he => entry_of_del he) rfl
    · exact h
  | finish v =>
    rw [step]
    split
    · exact h.grow (fun _ _ he => he) rfl
    · exact h
  | ask r q answered =>
    rw [step]
    split
    · unfold World.ask
      split_ifs
      · split
        next parts hparts =>
          refine h.moveReader ?_
          rintro _ _ _ ⟨⟩
          obtain ⟨expiry, hentry, -⟩ := Expiring.Store.get?_eq_some_iff.mp hparts
          exact h.store _ parts expiry hentry
        · exact h.moveReader fun _ _ _ heq => by cases heq
      · exact h.moveReader fun _ _ _ heq => by cases heq
    · exact h
  | next r stored answered =>
    rw [step]
    unfold World.next
    split
    next request startedAt asked parts hr =>
      split
      · exact h.moveReader fun _ _ _ heq => by cases heq
      next hcomplete =>
        have hpasses : stored = true → G (P.key request) parts :=
          he request startedAt asked parts hr hcomplete
        have hmoved : Passes P G (s.moveReader r
            (if stored && answered then .returned request startedAt parts else .failed)) := by
          refine h.moveReader fun _ _ _ heq => ?_
          split_ifs at heq with hboth
          cases heq
          exact hpasses (Bool.and_eq_true_iff.mp hboth).1
        refine ⟨fun k parts' expiry hentry => ?_, hmoved.returned⟩
        change (if stored then s.store.set (P.key request) parts _ else s.store).entry k = _
          at hentry
        split_ifs at hentry with hstored
        · by_cases hk : k = P.key request
          · rw [hk, Expiring.Store.entry_set] at hentry
            cases hentry
            exact hk ▸ hpasses hstored
          · rw [Expiring.Store.entry_set_of_ne hk] at hentry
            exact h.store k parts' expiry hentry
        · exact h.store k parts' expiry hentry
    · exact h

omit [IsOrderedAddMonoid τ] in
/-- **What readers get passes the test** that what is written passes. -/
theorem passes {now : τ} {a : α} {l : List (Event ρ κ α τ ω ν)}
    (hl : AllSteps (step P) (Writes P G) (start now a) l) :
    Throughout (step P) (Passes P G) (start now a) l :=
  throughout_of_allSteps (fun _ _ h he => passes_step h he)
    ⟨fun k parts expiry h => (by cases h), fun r q askedAt parts h => (by cases h)⟩ hl

end Passes

/-! ### When a sweep sticks -/

omit [AddCommGroup τ] [IsOrderedAddMonoid τ] [DecidableEq κ] [DecidableEq ω] [DecidableEq ν] in
/-- Keys that are not there now. -/
theorem Effective.note (h : Effective s) : Effective s.note := by
  intro v k n hcleared parts hparts
  change s.cached k = some parts at hparts
  change ((s.writers v).clear s.absent).clearedFor k = some n at hcleared
  refine h v k n ?_ parts hparts
  cases hv : s.writers v with
  | sweeping version cleared =>
    rw [hv] at hcleared
    simp only [Writer.clear, Writer.clearedFor, World.absent, hparts, Option.isNone_some,
      Bool.or_false] at hcleared
    exact hcleared
  | idle => rwa [hv] at hcleared
  | committed version => rwa [hv] at hcleared
  | done version cleared => rwa [hv] at hcleared

omit [AddCommGroup τ] [IsOrderedAddMonoid τ] [DecidableEq κ] [DecidableEq ω] in
/-- A writer moves on, and what is kept stays as it is. -/
theorem Effective.moveWriter (h : Effective s) {v : ν} {w : Writer κ}
    (hw : ∀ k n, w.clearedFor k = some n →
      (s.writers v).clearedFor k = some n ∨ s.cached k = none) :
    Effective (s.moveWriter v w) := by
  intro v' k n hcleared parts hparts
  change s.cached k = some parts at hparts
  change (Function.update s.writers v w v').clearedFor k = some n at hcleared
  by_cases heq : v' = v
  · rw [heq, Function.update_self] at hcleared
    rcases hw k n hcleared with hbefore | habsent
    · exact h v k n hbefore parts hparts
    · rw [habsent] at hparts
      cases hparts
  · rw [Function.update_of_ne heq] at hcleared
    exact h v' k n hcleared parts hparts

omit [AddCommGroup τ] [IsOrderedAddMonoid τ] [DecidableEq κ] [DecidableEq ω] [DecidableEq ν] in
/-- What is under a key later was under it before, or is what was written. -/
theorem Effective.of_cached {s' : World ρ κ α β τ ω ν} (h : Effective s)
    (hwriters : s'.writers = s.writers)
    (hcached : ∀ k parts, s'.cached k = some parts → s.cached k = some parts) : Effective s' := by
  intro v k n hcleared parts hparts
  rw [hwriters] at hcleared
  exact h v k n hcleared parts (hcached k parts hparts)

omit [IsOrderedAddMonoid τ] [DecidableEq κ] [DecidableEq ν] in
theorem effective_ask (h : Effective s) (r : ω) (q : ρ) (answered : Bool) :
    Effective (s.ask P r q answered) := by
  unfold World.ask
  split_ifs
  · split <;> exact h.of_cached rfl fun _ _ hk => hk
  · exact h.of_cached rfl fun _ _ hk => hk

omit [DecidableEq ν] in
/-- **A write keeps the sweeps effective exactly if it is on time.** -/
theorem effective_next_iff (h : Effective s) (r : ω) (stored answered : Bool) :
    Effective (s.next P r stored answered) ↔ OnTime P s (.next r stored answered) := by
  unfold World.next OnTime
  split
  next request startedAt asked parts hr =>
    split
    next q hq =>
      refine iff_of_true (h.of_cached rfl fun _ _ hk => hk) ?_
      intro request' startedAt' asked' parts' hr' hcomplete
      rw [hr] at hr'
      cases hr'
      rw [hq] at hcomplete
      cases hcomplete
    next hcomplete =>
      cases hstored : stored with
      | false =>
        refine iff_of_true (h.of_cached rfl fun _ _ hk => hk) fun _ _ _ _ _ _ hfalse => ?_
        cases hfalse
      | true =>
        have hset : (s.store.set (P.key request) parts
            (s.source.now + P.ttl (P.key request))).get? s.source.now (P.key request) =
              some parts := Expiring.Store.get?_set (lt_add_of_pos_right _ (P.ttl_pos _))
        constructor
        · intro heffective request' startedAt' asked' parts' hr' _ _ v n hcleared
          rw [hr] at hr'
          cases hr'
          exact heffective v (P.key request) n hcleared parts hset
        · intro hontime v k n hcleared parts' hparts'
          by_cases hk : k = P.key request
          · rw [hk] at hcleared hparts'
            obtain rfl := Option.some.inj (hset.symm.trans hparts')
            exact hontime request startedAt asked parts hr hcomplete rfl v n hcleared
          · refine h v k n hcleared parts' ?_
            exact (Expiring.Store.get?_set_of_ne hk).symm.trans hparts'
  next hother =>
    refine iff_of_true h fun request startedAt asked parts hr => ?_
    exact absurd hr (hother request startedAt asked parts)

/-- **What one event does to the sweeps.** -/
theorem effective_step_iff (h : Effective s) (e : Event ρ κ α τ ω ν) :
    Effective (step P s e) ↔ OnTime P s e := by
  cases e with
  | tick t =>
    refine iff_of_true (Effective.note (h.of_cached rfl fun k parts hk => ?_)) trivial
    exact Expiring.Store.get?_of_le (le_max_left ..) hk
  | write a => exact iff_of_true (h.of_cached rfl fun _ _ hk => hk) trivial
  | commit v a =>
    refine iff_of_true ?_ trivial
    rw [step]
    split
    · refine Effective.of_cached (h.moveWriter (v := v)
        (w := .committed (s.source.version + 1)) fun _ _ hnone => ?_) rfl fun _ _ hk => hk
      cases hnone
    · exact h
  | sweep v =>
    refine iff_of_true ?_ trivial
    rw [step]
    split
    · refine h.moveWriter fun k n hcleared => .inr ?_
      rw [Writer.clearedFor] at hcleared
      split_ifs at hcleared with habsent
      exact Option.isNone_iff_eq_none.mp habsent
    · exact h
  | delete v k =>
    refine iff_of_true ?_ trivial
    rw [step]
    split
    · refine Effective.note (h.of_cached rfl fun k' parts hk => ?_)
      by_cases heq : k' = k
      · rw [heq] at hk
        exact absurd (Expiring.Store.get?_del.symm.trans hk) (by simp)
      · exact (Expiring.Store.get?_del_of_ne heq).symm.trans hk
    · exact h
  | finish v =>
    refine iff_of_true ?_ trivial
    rw [step]
    split
    next version cleared hv =>
      refine h.moveWriter fun k n hcleared => .inl ?_
      rw [hv]
      exact hcleared
    · exact h
  | ask r q answered =>
    refine iff_of_true ?_ trivial
    rw [step]
    split
    · exact effective_ask h r q answered
    · exact h
  | next r stored answered => exact effective_next_iff h r stored answered

/-- **The sweeps of a run stick exactly if no reader writes old results after them.** -/
theorem effective_iff {now : τ} {a : α} {l : List (Event ρ κ α τ ω ν)} :
    Throughout (step P) Effective (start now a) l ↔
      AllSteps (step P) (OnTime P) (start now a) l :=
  throughout_iff_allSteps (J := fun _ => True) (fun _ _ _ => trivial)
    (fun _ e _ h => effective_step_iff h e) trivial fun v k n hcleared => by cases hcleared

/-! ### After a sweep -/

/-- The writers that have swept have found no key there all the time. -/
def ClearedAll (s : World ρ κ α β τ ω ν) : Prop :=
  ∀ v n cleared, s.writers v = .done n cleared → ∀ k, cleared k = true

omit [AddCommGroup τ] [IsOrderedAddMonoid τ] [DecidableEq κ] [DecidableEq ω] [DecidableEq ν] in
theorem ClearedAll.note (h : ClearedAll s) : ClearedAll s.note := by
  intro v n cleared hv
  change (s.writers v).clear s.absent = .done n cleared at hv
  refine h v n cleared ?_
  cases hw : s.writers v with
  | sweeping version c => rw [hw] at hv; cases hv
  | idle => rw [hw] at hv; cases hv
  | committed version => rw [hw] at hv; cases hv
  | done version c => rwa [hw] at hv

omit [AddCommGroup τ] [IsOrderedAddMonoid τ] [DecidableEq κ] [DecidableEq ω] in
theorem ClearedAll.moveWriter (h : ClearedAll s) {v : ν} {w : Writer κ}
    (hw : ∀ n cleared, w = .done n cleared → ∀ k, cleared k = true) :
    ClearedAll (s.moveWriter v w) := by
  intro v' n cleared hv
  change Function.update s.writers v w v' = _ at hv
  by_cases heq : v' = v
  · rw [heq, Function.update_self] at hv
    exact hw n cleared hv
  · rw [Function.update_of_ne heq] at hv
    exact h v' n cleared hv

omit [IsOrderedAddMonoid τ] in
theorem clearedAll_step (h : ClearedAll s) {e : Event ρ κ α τ ω ν} (he : Scanned s e) :
    ClearedAll (step P s e) := by
  cases e with
  | tick t => exact ClearedAll.note (s := { s with source := s.source.advance t }) h
  | write a => exact h
  | commit v a =>
    rw [step]
    split
    · exact h.moveWriter (v := v) (w := .committed _) fun _ _ hdone => by cases hdone
    · exact h
  | sweep v =>
    rw [step]
    split
    · exact h.moveWriter fun _ _ hdone => by cases hdone
    · exact h
  | delete v k =>
    rw [step]
    split
    · exact ClearedAll.note (s := { s with store := s.store.del k }) h
    · exact h
  | finish v =>
    rw [step]
    split
    next n cleared hv =>
      refine h.moveWriter ?_
      rintro _ _ ⟨⟩
      exact he n cleared hv
    · exact h
  | ask r q answered =>
    rw [step]
    split
    · unfold World.ask
      split_ifs
      · split <;> exact h
      · exact h
    · exact h
  | next r stored answered =>
    rw [step]
    unfold World.next
    split
    · split <;> exact h
    · exact h

/-- **After a sweep** that has come across the keys, and whose results no reader undoes, everything
that is kept is from after the change. -/
theorem swept {now : τ} {a : α} {l : List (Event ρ κ α τ ω ν)}
    (hscan : AllSteps (step P) Scanned (start now a) l)
    (htime : AllSteps (step P) (OnTime P) (start now a) l) :
    Throughout (step P) Swept (start now a) l := by
  have hcleared : Throughout (step P) ClearedAll (start now a) l :=
    throughout_of_allSteps (fun _ _ h he => clearedAll_step h he)
      (fun v n cleared h => by cases h) hscan
  rw [ throughout_iff_prefix] at hcleared ⊢
  intro l₁ l₂ hl v n cleared hv k parts hparts
  refine throughout_iff_prefix.mp (effective_iff.mpr htime) l₁ l₂ hl v k n ?_ parts hparts
  rw [hv, Writer.clearedFor, if_pos (hcleared l₁ l₂ hl v n cleared hv k)]

end Step

end ReadThrough
