import Mathlib.Algebra.Order.Group.Nat
import Mathlib.Data.List.Basic
import Mathlib.Tactic.Common

/-!
# Searching a text for a pattern

Patterns of the kind that `re.search` is called with: classes of characters, sequences,
alternatives, runs of a class, and `\b`. What a pattern leaves of a text depends on the text alone,
and for `\b` on whether a character of a word stands before it (`Regex.ends`); a search tries all
positions (`Regex.search`).

A character that a pattern cannot match, and that is none of a word, separates what is before it
from what is after it: `Regex.search_append` cuts the text there. What a match uses up
(`Regex.Needs`) tells which texts cannot have one.
-/

/-- A pattern. -/
inductive Regex (α : Type)
  | eps
  /-- A character of a class. -/
  | one (p : α → Bool)
  /-- `\b`. -/
  | boundary
  | seq (a b : Regex α)
  | alt (a b : Regex α)
  /-- As many characters of a class as there are, or fewer. -/
  | many (p : α → Bool)

namespace Regex

variable {α : Type}

/-! ### Patterns made of others -/

/-- `a?`. -/
def opt (a : Regex α) : Regex α := alt a eps

/-- `a{n}`. -/
def times (a : Regex α) : ℕ → Regex α
  | 0 => eps
  | n + 1 => seq a (times a n)

/-- One pattern after the other. -/
def seqs : List (Regex α) → Regex α
  | [] => eps
  | a :: as => seq a (seqs as)

/-- One of several patterns. -/
def alts : List (Regex α) → Regex α
  | [] => one fun _ => false
  | a :: as => alt a (alts as)

/-! ### Matching and searching -/

section Search

variable (isWord : α → Bool)

/-- What can be left after a run of a class. -/
def runs (p : α → Bool) : Bool → List α → List (Bool × List α)
  | w, [] => [(w, [])]
  | w, c :: s => (w, c :: s) :: if p c then runs p (isWord c) s else []

/-- **What a match can leave of a text**, each with whether a character of a word stands
before it. -/
def ends : Regex α → Bool → List α → List (Bool × List α)
  | eps, w, s => [(w, s)]
  | one _, _, [] => []
  | one p, _, c :: s => if p c then [(isWord c, s)] else []
  | boundary, w, s => if w != s.head?.any isWord then [(w, s)] else []
  | seq a b, w, s => (ends a w s).flatMap fun e => ends b e.1 e.2
  | alt a b, w, s => ends a w s ++ ends b w s
  | many p, w, s => runs isWord p w s

/-- The text begins with a match. -/
def matchAt (r : Regex α) (w : Bool) (s : List α) : Bool := !(ends isWord r w s).isEmpty

/-- **There is a match in the text**; `w` is whether a character of a word stands before it. -/
def search (r : Regex α) : Bool → List α → Bool
  | w, [] => matchAt isWord r w []
  | w, c :: s => matchAt isWord r w (c :: s) || search r (isWord c) s

end Search

variable {isWord : α → Bool} {r a b : Regex α} {p : α → Bool} {w : Bool} {s t : List α} {c d : α}

theorem matchAt_iff : matchAt isWord r w s = true ↔ ∃ e, e ∈ ends isWord r w s := by
  rw [matchAt, Bool.not_eq_true', List.isEmpty_eq_false_iff_exists_mem]

theorem mem_ends_seq {e : Bool × List α} : e ∈ ends isWord (seq a b) w s ↔
    ∃ e', e' ∈ ends isWord a w s ∧ e ∈ ends isWord b e'.1 e'.2 := by
  rw [ends, List.mem_flatMap]

theorem mem_ends_alt {e : Bool × List α} : e ∈ ends isWord (alt a b) w s ↔
    e ∈ ends isWord a w s ∨ e ∈ ends isWord b w s := by
  rw [ends, List.mem_append]

theorem mem_ends_alts {as : List (Regex α)} {e : Bool × List α} :
    e ∈ ends isWord (alts as) w s ↔ ∃ a ∈ as, e ∈ ends isWord a w s := by
  induction as with
  | nil =>
    refine iff_of_false (fun he => ?_) fun ⟨_, ha, _⟩ => List.not_mem_nil ha
    cases s <;> exact List.not_mem_nil he
  | cons a' as ih =>
    rw [alts, mem_ends_alt, ih]
    simp only [List.mem_cons, or_and_right, exists_or, exists_eq_left]

theorem mem_ends_one_cons (hc : p c = true) : (isWord c, s) ∈ ends isWord (one p) w (c :: s) := by
  rw [ends, if_pos hc]
  exact List.mem_singleton_self _

/-- A run may be empty. -/
theorem mem_runs_self : (w, s) ∈ runs isWord p w s := by
  cases s with
  | nil => exact List.mem_singleton_self _
  | cons c s => exact List.mem_cons_self

/-- A match later in the text is found. -/
theorem search_append_of_matchAt (h : ∀ w, matchAt isWord r w t = true) (s : List α) :
    search isWord r w (s ++ t) = true := by
  induction s generalizing w with
  | nil =>
    rw [List.nil_append]
    cases t with
    | nil => exact h w
    | cons c t => rw [search, h w, Bool.true_or]
  | cons c s ih => rw [List.cons_append, search, ih, Bool.or_true]

/-! ### What a match uses up -/

/-- **A match uses up** at least a number of characters of a class. -/
def Needs (isWord : α → Bool) (q : α → Bool) (r : Regex α) (n : ℕ) : Prop :=
  ∀ w s e, e ∈ ends isWord r w s → n + e.2.countP q ≤ s.countP q

section Needs

variable {q : α → Bool} {m n : ℕ}

theorem needs_runs (p : α → Bool) (w : Bool) (s : List α) :
    ∀ e ∈ runs isWord p w s, e.2.countP q ≤ s.countP q := by
  induction s generalizing w with
  | nil =>
    intro e he
    rw [List.mem_singleton.mp he]
  | cons c s ih =>
    intro e he
    rcases List.mem_cons.mp he with rfl | he
    · exact Nat.le_refl _
    · split_ifs at he
      · exact (ih _ e he).trans (List.countP_cons ▸ Nat.le_add_right _ _)
      · exact absurd he List.not_mem_nil

/-- A match uses up nothing or something. -/
theorem needs_zero (r : Regex α) : Needs isWord q r 0 := by
  induction r with
  | eps =>
    intro w s e he
    rw [List.mem_singleton.mp he, Nat.zero_add]
  | one p =>
    intro w s e he
    cases s with
    | nil => exact absurd he List.not_mem_nil
    | cons c s =>
      rw [ends] at he
      split_ifs at he
      · rw [List.mem_singleton.mp he, Nat.zero_add, List.countP_cons]
        exact Nat.le_add_right _ _
      · exact absurd he List.not_mem_nil
  | boundary =>
    intro w s e he
    rw [ends] at he
    split_ifs at he
    · rw [List.mem_singleton.mp he, Nat.zero_add]
    · exact absurd he List.not_mem_nil
  | seq a b iha ihb =>
    intro w s e he
    obtain ⟨e', he', he⟩ := mem_ends_seq.mp he
    have hfirst := iha w s e' he'
    have hsecond := ihb e'.1 e'.2 e he
    omega
  | alt a b iha ihb =>
    intro w s e he
    rcases mem_ends_alt.mp he with he | he
    · exact iha w s e he
    · exact ihb w s e he
  | many p =>
    intro w s e he
    rw [Nat.zero_add]
    exact needs_runs p w s e he

theorem needs_one (h : ∀ c, p c = true → q c = true) : Needs isWord q (one p) 1 := by
  intro w s e he
  cases s with
  | nil => exact absurd he List.not_mem_nil
  | cons c s =>
    rw [ends] at he
    split_ifs at he with hc
    · rw [List.mem_singleton.mp he, List.countP_cons, if_pos (h c hc), Nat.add_comm]
    · exact absurd he List.not_mem_nil

/-- **One match after the other** uses up what both use up. -/
theorem Needs.seq (ha : Needs isWord q a m) (hb : Needs isWord q b n) :
    Needs isWord q (.seq a b) (m + n) := by
  intro w s e he
  obtain ⟨e', he', he⟩ := mem_ends_seq.mp he
  have hfirst := ha w s e' he'
  have hsecond := hb e'.1 e'.2 e he
  omega

theorem Needs.alt (ha : Needs isWord q a n) (hb : Needs isWord q b n) :
    Needs isWord q (.alt a b) n := by
  intro w s e he
  rcases mem_ends_alt.mp he with he | he
  · exact ha w s e he
  · exact hb w s e he

theorem Needs.alts {as : List (Regex α)} (h : ∀ a ∈ as, Needs isWord q a n) :
    Needs isWord q (.alts as) n := by
  induction as with
  | nil =>
    intro w s e he
    cases s <;> exact absurd he List.not_mem_nil
  | cons a as ih =>
    exact (h a List.mem_cons_self).alt (ih fun b hb => h b (List.mem_cons_of_mem a hb))

theorem Needs.times (ha : Needs isWord q a m) (n : ℕ) : Needs isWord q (a.times n) (n * m) := by
  induction n with
  | zero => exact (Nat.zero_mul m).symm ▸ needs_zero _
  | succ n ih =>
    rw [Nat.succ_mul, Nat.add_comm (n * m) m]
    exact ha.seq ih

/-- **A text with too few characters of the class has no match in it.** -/
theorem Needs.search_eq_false (h : Needs isWord q r n) (hs : s.countP q < n) :
    search isWord r w s = false := by
  have hat : ∀ w s, s.countP q < n → matchAt isWord r w s = false := by
    intro w s hs
    rw [Bool.eq_false_iff, ne_eq, matchAt_iff]
    rintro ⟨e, he⟩
    have hneeds := h w s e he
    omega
  induction s generalizing w with
  | nil => exact hat w [] hs
  | cons c s ih =>
    have hrest : s.countP q < n := by
      rw [List.countP_cons] at hs
      omega
    rw [search, hat w _ hs, ih hrest, Bool.or_false]

end Needs

/-! ### Where a text can be cut -/

/-- **A pattern spares a character** that no class of it has. -/
def Spares (d : α) : Regex α → Prop
  | eps => True
  | one p => p d = false
  | boundary => True
  | seq a b => Spares d a ∧ Spares d b
  | alt a b => Spares d a ∧ Spares d b
  | many p => p d = false

theorem spares_seqs {as : List (Regex α)} : (seqs as).Spares d ↔ ∀ a ∈ as, a.Spares d := by
  induction as with
  | nil => exact iff_of_true trivial fun a ha => absurd ha List.not_mem_nil
  | cons a as ih => rw [List.forall_mem_cons, ← ih, seqs, Spares]

theorem spares_alts {as : List (Regex α)} : (alts as).Spares d ↔ ∀ a ∈ as, a.Spares d := by
  induction as with
  | nil => exact iff_of_true rfl fun a ha => absurd ha List.not_mem_nil
  | cons a as ih => rw [List.forall_mem_cons, ← ih, alts, Spares]

theorem runs_append (hd : p d = false) (w : Bool) (s t : List α) :
    runs isWord p w (s ++ d :: t) = (runs isWord p w s).map fun e => (e.1, e.2 ++ d :: t) := by
  induction s generalizing w with
  | nil => simp [runs, hd]
  | cons c s ih =>
    rw [List.cons_append, runs, runs, ih]
    split_ifs <;> simp

/-- **A match does not go over a separator**: it is the same whether the text ends there or goes
on. -/
theorem ends_append (hword : isWord d = false) (hd : r.Spares d) (w : Bool) (s t : List α) :
    ends isWord r w (s ++ d :: t) = (ends isWord r w s).map fun e => (e.1, e.2 ++ d :: t) := by
  induction r generalizing w s with
  | eps => rfl
  | one p =>
    cases s with
    | nil => exact if_neg (by rw [hd]; exact Bool.false_ne_true)
    | cons c s =>
      rw [List.cons_append, ends, ends]
      split_ifs <;> rfl
  | boundary =>
    have hnext : (s ++ d :: t).head?.any isWord = s.head?.any isWord := by
      cases s with
      | nil => simp [hword]
      | cons c s => rfl
    rw [ends, ends, hnext]
    split_ifs <;> rfl
  | seq a b iha ihb =>
    rw [ends, ends, iha hd.1, List.flatMap_map, List.map_flatMap]
    exact List.flatMap_congr fun e _ => ihb hd.2 e.1 e.2
  | alt a b iha ihb => rw [ends, ends, iha hd.1, ihb hd.2, List.map_append]
  | many p => exact runs_append hd w s t

theorem matchAt_append (hword : isWord d = false) (hd : r.Spares d) (w : Bool) (s t : List α) :
    matchAt isWord r w (s ++ d :: t) = matchAt isWord r w s := by
  rw [matchAt, matchAt, ends_append hword hd, List.isEmpty_map]

/-- **The text is cut at a separator**: a match is before it or after it. -/
theorem search_append (hword : isWord d = false) (hd : r.Spares d) (w : Bool) (s t : List α) :
    search isWord r w (s ++ d :: t) = (search isWord r w s || search isWord r false t) := by
  induction s generalizing w with
  | nil =>
    rw [List.nil_append, search, search, hword, ← List.nil_append (d :: t),
      matchAt_append hword hd]
  | cons c s ih =>
    rw [List.cons_append, search, search, ih, ← List.cons_append, matchAt_append hword hd,
      Bool.or_assoc]

end Regex
