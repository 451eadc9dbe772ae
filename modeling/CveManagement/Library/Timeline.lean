import Mathlib

/-!
# A value that changes, and copies of it

A value is read at one point in time and what was read is used later on, when the value may be
another: a row that a handler has fetched, an answer that is kept for a while, a token that says
what its holder was allowed when it was issued. `Timeline` is the value with the stretches of time
over which it has been each of its earlier values, and `Timeline.HeldAt` says what it was when.

A copy tells nothing about now. It tells what held when it was read (`Timeline.Copy.Genuine`),
which no later change takes back; so what has not held after some point in time is not in a copy
that was read after it (`Timeline.After.of_genuine`), and where copies are given up in time, it is
gone for good a fixed time later (`Timeline.After.lt_of_genuine`). The versions of a value are
numbered by its changes (`Timeline.version`), which tells reads before a change from reads after it
that come at the same point in time.
-/

/-- **A value that changes over time**, with what it was before: each earlier value with the point
in time from which and the one until which it was there. -/
structure Timeline (α τ : Type*) [LinearOrder τ] where
  now : τ
  current : α
  since : τ
  past : List (α × τ × τ)
  since_le : since ≤ now
  past_le : ∀ e ∈ past, e.2.2 ≤ since

namespace Timeline

variable {α β τ : Type*} [LinearOrder τ]

/-- A value, from a point in time on. -/
def start (now : τ) (a : α) : Timeline α τ :=
  ⟨now, a, now, [], le_rfl, fun _ h => absurd h List.not_mem_nil⟩

variable (l : Timeline α τ)

/-- Time passes, to a point in time if that is not over. -/
def advance (t : τ) : Timeline α τ :=
  { l with now := max l.now t, since_le := l.since_le.trans (le_max_left ..) }

/-- **The value changes.** -/
def commit (a : α) : Timeline α τ where
  now := l.now
  current := a
  since := l.now
  past := (l.current, l.since, l.now) :: l.past
  since_le := le_rfl
  past_le := List.forall_mem_cons.mpr ⟨le_rfl, fun e he => (l.past_le e he).trans l.since_le⟩

/-- **What the value was at a point in time**: when it changed, it was both. -/
def HeldAt (t : τ) (a : α) : Prop :=
  (l.current = a ∧ l.since ≤ t ∧ t ≤ l.now) ∨ ∃ e ∈ l.past, e.1 = a ∧ e.2.1 ≤ t ∧ t ≤ e.2.2

/-- **Something holds of the value after a point in time.** -/
def After (t : τ) (P : α → Prop) : Prop := ∀ t' a, t < t' → l.HeldAt t' a → P a

@[simp] theorem now_start (now : τ) (a : α) : (start now a).now = now := rfl

@[simp] theorem current_start (now : τ) (a : α) : (start now a).current = a := rfl

@[simp] theorem now_advance (t : τ) : (l.advance t).now = max l.now t := rfl

@[simp] theorem current_advance (t : τ) : (l.advance t).current = l.current := rfl

@[simp] theorem now_commit (a : α) : (l.commit a).now = l.now := rfl

@[simp] theorem current_commit (a : α) : (l.commit a).current = a := rfl

variable {l} {t : τ} {a : α} {P : α → Prop}

/-! ### What the value was -/

theorem heldAt_now : l.HeldAt l.now l.current := .inl ⟨rfl, l.since_le, le_rfl⟩

/-- Nothing is known of what is to come. -/
theorem HeldAt.le_now (h : l.HeldAt t a) : t ≤ l.now := by
  rcases h with ⟨-, -, ht⟩ | ⟨e, he, -, -, ht⟩
  · exact ht
  · exact ht.trans ((l.past_le e he).trans l.since_le)

/-- The passing of time takes nothing back. -/
theorem HeldAt.advance (h : l.HeldAt t a) (u : τ) : (l.advance u).HeldAt t a := by
  rcases h with ⟨ha, hsince, ht⟩ | hpast
  · exact .inl ⟨ha, hsince, ht.trans (le_max_left ..)⟩
  · exact .inr hpast

/-- **A change takes nothing back.** -/
theorem HeldAt.commit (h : l.HeldAt t a) (b : α) : (l.commit b).HeldAt t a := by
  rcases h with ⟨ha, hsince, ht⟩ | ⟨e, he, h⟩
  · exact .inr ⟨_, List.mem_cons_self, ha, hsince, ht⟩
  · exact .inr ⟨e, List.mem_cons_of_mem _ he, h⟩

/-- What the value is known to have been after a change. -/
theorem heldAt_commit {b : α} :
    (l.commit b).HeldAt t a ↔ l.HeldAt t a ∨ a = b ∧ t = l.now := by
  constructor
  · rintro (⟨rfl, hsince, ht⟩ | ⟨e, he, h⟩)
    · exact .inr ⟨rfl, le_antisymm ht hsince⟩
    · rcases List.mem_cons.mp he with rfl | he
      · exact .inl (.inl h)
      · exact .inl (.inr ⟨e, he, h⟩)
  · rintro (h | ⟨rfl, rfl⟩)
    · exact h.commit b
    · exact .inl ⟨rfl, le_rfl, le_rfl⟩

/-! ### Versions -/

variable (l) in
/-- How often the value has changed. -/
def version : ℕ := l.past.length

variable (l) in
/-- The value after so many changes. -/
def valueAt (n : ℕ) : Option α := ((l.current :: l.past.map Prod.fst).reverse)[n]?

@[simp] theorem version_advance (u : τ) : (l.advance u).version = l.version := rfl

@[simp] theorem version_commit (b : α) : (l.commit b).version = l.version + 1 := rfl

@[simp] theorem valueAt_advance (u : τ) (n : ℕ) : (l.advance u).valueAt n = l.valueAt n := rfl

theorem valueAt_version : l.valueAt l.version = some l.current := by
  have hlength : l.version = (l.past.map Prod.fst).reverse.length := by simp [version]
  rw [valueAt, List.reverse_cons, hlength, List.getElem?_concat_length]

/-- **A change makes a new version** and leaves the others as they are. -/
theorem valueAt_commit {n : ℕ} {b : α} (h : l.valueAt n = some a) :
    (l.commit b).valueAt n = some a := by
  have hn : n < ((l.current :: l.past.map Prod.fst).reverse).length :=
    (List.getElem?_eq_some_iff.mp h).1
  change ((b :: l.current :: l.past.map Prod.fst).reverse)[n]? = some a
  rw [List.reverse_cons, List.getElem?_append_left hn]
  exact h

/-! ### What has held for some time -/

/-- What a change brings about holds after it. -/
theorem after_commit (h : P a) : (l.commit a).After l.now P := by
  intro t' b hlt hheld
  rcases heldAt_commit.mp hheld with hheld | ⟨rfl, -⟩
  · exact absurd hheld.le_now (not_le.mpr hlt)
  · exact h

/-- A change to a value of which it holds as well. -/
theorem After.commit (h : l.After t P) {b : α} (hb : P b) : (l.commit b).After t P := by
  intro t' a hlt hheld
  rcases heldAt_commit.mp hheld with hheld | ⟨rfl, -⟩
  · exact h t' a hlt hheld
  · exact hb

/-- The passing of time, once it holds. -/
theorem After.advance (h : l.After t P) (hcurrent : P l.current) (u : τ) :
    (l.advance u).After t P := by
  intro t' a hlt hheld
  rcases hheld with ⟨rfl, -, -⟩ | hpast
  · exact hcurrent
  · exact h t' a hlt (.inr hpast)

/-! ### Copies -/

/-- **A copy**: what was read, and when. -/
structure Copy (β τ : Type*) where
  value : β
  readAt : τ

namespace Copy

/-- **A copy of what was there**: at the time, the value showed it to a reader. -/
def Genuine (shows : α → β → Prop) (l : Timeline α τ) (c : Copy β τ) : Prop :=
  ∃ a, l.HeldAt c.readAt a ∧ shows a c.value

variable {shows : α → β → Prop} {c : Copy β τ}

/-- What is read now is a copy. -/
theorem genuine_now {b : β} (h : shows l.current b) : Genuine shows l ⟨b, l.now⟩ :=
  ⟨_, heldAt_now, h⟩

/-- A copy is not from the future. -/
theorem Genuine.readAt_le (h : Genuine shows l c) : c.readAt ≤ l.now := by
  obtain ⟨a, ha, -⟩ := h
  exact ha.le_now

/-- **A copy stays what it is**, whatever becomes of the value. -/
theorem Genuine.mono {l' : Timeline α τ} (h : Genuine shows l c)
    (hl : ∀ t a, l.HeldAt t a → l'.HeldAt t a) : Genuine shows l' c := by
  obtain ⟨a, ha, hshows⟩ := h
  exact ⟨a, hl _ a ha, hshows⟩

end Copy

variable {shows : α → β → Prop} {c : Copy β τ} {Q : β → Prop}

/-- **A copy that was read after it** shows what holds. -/
theorem After.of_genuine (h : l.After t fun a => ∀ b, shows a b → Q b) (hc : c.Genuine shows l)
    (hlt : t < c.readAt) : Q c.value := by
  obtain ⟨a, ha, hshows⟩ := hc
  exact h _ a hlt ha _ hshows

/-- **Bounded staleness**: a copy that does not show what holds was read before it did, and is not
used any more a lifetime later. -/
theorem After.lt_of_genuine [Add τ] [AddRightMono τ] {life used : τ}
    (h : l.After t fun a => ∀ b, shows a b → Q b) (hc : c.Genuine shows l) (hstale : ¬Q c.value)
    (hused : used < c.readAt + life) : used < t + life := by
  have hread : c.readAt ≤ t := not_lt.mp fun hlt => hstale (h.of_genuine hc hlt)
  exact hused.trans_le (add_le_add_left hread life)

end Timeline
