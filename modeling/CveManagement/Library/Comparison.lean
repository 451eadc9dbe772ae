import Mathlib

/-!
# Three-way comparisons of padded lists

A comparison that returns `-1`, `0` or `1` by a key in a linear order (`Comparison.sgn`), and
its extension to lists of any lengths: the first difference decides, and a list that has ended
goes on with a default. The lists compare as their continuations do in the lexicographic order of
sequences (`Comparison.firstDifference_eq_sgn`), which is a linear order; so whatever holds of a
three-way comparison in a linear order holds of them.
-/

namespace Comparison

/-! ### Three-way comparisons -/

section Sgn

variable {κ : Type*} [LinearOrder κ] {a b : κ}

/-- **The three-way comparison** of a linear order. -/
def sgn (a b : κ) : ℤ := if a < b then -1 else if b < a then 1 else 0

theorem sgn_of_lt (h : a < b) : sgn a b = -1 := if_pos h

theorem sgn_of_gt (h : b < a) : sgn a b = 1 := by
  rw [sgn, if_neg h.not_gt, if_pos h]

@[simp] theorem sgn_self (a : κ) : sgn a a = 0 := by
  rw [sgn, if_neg (lt_irrefl a), if_neg (lt_irrefl a)]

/-- Arguments that are exchanged. -/
theorem sgn_swap (a b : κ) : sgn b a = -sgn a b := by
  rcases lt_trichotomy a b with h | rfl | h
  · rw [sgn_of_lt h, sgn_of_gt h, neg_neg]
  · rw [sgn_self, neg_zero]
  · rw [sgn_of_lt h, sgn_of_gt h]

@[simp] theorem sgn_eq_zero_iff : sgn a b = 0 ↔ a = b := by
  rcases lt_trichotomy a b with h | rfl | h
  · simp [sgn_of_lt h, h.ne]
  · simp
  · simp [sgn_of_gt h, h.ne']

theorem sgn_eq_neg_one_iff : sgn a b = -1 ↔ a < b := by
  rcases lt_trichotomy a b with h | rfl | h
  · simp [sgn_of_lt h, h]
  · simp
  · simp [sgn_of_gt h, h.not_gt]

theorem sgn_eq_one_iff : sgn a b = 1 ↔ b < a := by
  rw [← neg_inj, ← sgn_swap, sgn_eq_neg_one_iff]

theorem sgn_neg_iff : sgn a b < 0 ↔ a < b := by
  rcases lt_trichotomy a b with h | rfl | h
  · simp [sgn_of_lt h, h]
  · simp
  · simp [sgn_of_gt h, h.not_gt]

theorem sgn_nonpos_iff : sgn a b ≤ 0 ↔ a ≤ b := by
  rw [← not_lt, ← not_lt, ← neg_neg_iff_pos, ← sgn_swap, sgn_neg_iff]

/-- The comparison with one value is monotone. -/
theorem sgn_monotone (b : κ) : Monotone fun a => sgn a b := by
  intro a a' h
  rcases lt_trichotomy a b with hab | rfl | hab
  · rcases lt_trichotomy a' b with ha' | rfl | ha'
    · simp [sgn_of_lt hab, sgn_of_lt ha']
    · simp [sgn_of_lt hab]
    · simp [sgn_of_lt hab, sgn_of_gt ha']
  · rcases h.lt_or_eq with ha' | rfl
    · simp [sgn_of_gt ha']
    · rfl
  · simp [sgn_of_gt hab, sgn_of_gt (hab.trans_le h)]

/-- **Pairs compare by their first entries**, and where these are equal by the second. -/
theorem sgn_toLex {μ : Type*} [LinearOrder μ] (a b : κ) (c d : μ) :
    sgn (toLex (a, c)) (toLex (b, d)) = if a = b then sgn c d else sgn a b := by
  rcases lt_trichotomy a b with h | rfl | h
  · rw [if_neg h.ne, sgn_of_lt h, sgn_of_lt (Prod.Lex.toLex_lt_toLex.mpr (.inl h))]
  · rw [if_pos rfl]
    simp [sgn, Prod.Lex.toLex_lt_toLex]
  · rw [if_neg h.ne', sgn_of_gt h, sgn_of_gt (Prod.Lex.toLex_lt_toLex.mpr (.inl h))]

end Sgn

/-! ### Padded lists -/

section Padded

variable {α κ : Type*} [LinearOrder κ] (key : α → κ) (d : α)

/-- **A list, continued by a default**, as the sequence of its keys. -/
def sequence (l : List α) : Lex (ℕ → κ) := toLex fun i => key ((l[i]?).getD d)

/-- The first difference of two lists, where one that has ended goes on with the default. -/
def firstDifference (as bs : List α) : ℤ :=
  ((as.zipWithAll (fun a b => sgn (key (a.getD d)) (key (b.getD d))) bs).find? (· ≠ 0)).getD 0

variable {key d}

/-- **Up to the first difference nothing counts, and after it nothing does.** -/
theorem sgn_eq_of_agree {f g : ℕ → κ} {i : ℕ} (hagree : ∀ j < i, f j = g j) (hdiff : f i ≠ g i) :
    sgn (toLex f) (toLex g) = sgn (f i) (g i) := by
  rcases lt_or_gt_of_ne hdiff with h | h
  · rw [sgn_of_lt h]
    exact sgn_of_lt ⟨i, hagree, h⟩
  · rw [sgn_of_gt h]
    exact sgn_of_gt ⟨i, fun j hj => (hagree j hj).symm, h⟩

/-- Sequences that begin alike compare as what follows. -/
theorem sgn_succ {f g : ℕ → κ} (h : f 0 = g 0) :
    sgn (toLex f) (toLex g) = sgn (toLex fun i => f (i + 1)) (toLex fun i => g (i + 1)) := by
  by_cases hall : ∀ i, f (i + 1) = g (i + 1)
  · have hfg : f = g := by
      funext i
      cases i with
      | zero => exact h
      | succ i => exact hall i
    rw [hfg, sgn_self, sgn_self]
  · -- the first difference of what follows, one position later
    classical
    push Not at hall
    have hfirst := fun j hj => not_not.mp (Nat.find_min hall (m := j) hj)
    refine (sgn_eq_of_agree (i := Nat.find hall + 1) (fun j hj => ?_) (Nat.find_spec hall)).trans
      (sgn_eq_of_agree (i := Nat.find hall) hfirst (Nat.find_spec hall)).symm
    cases j with
    | zero => exact h
    | succ j => exact hfirst j (Nat.lt_of_succ_lt_succ hj)

/-- **Sequences that agree up to a position** are in order if they are there, or if they are equal
there and what follows is in order. -/
theorem lt_iff_of_agree {f g : ℕ → κ} {i : ℕ} (hagree : ∀ j < i, f j = g j) :
    toLex f < toLex g ↔
      f i < g i ∨ f i = g i ∧ (toLex fun j => f (i + 1 + j)) < toLex fun j => g (i + 1 + j) := by
  constructor
  · rintro ⟨k, hk, hlt⟩
    rcases lt_trichotomy k i with h | rfl | h
    · exact absurd (hagree k h) (ne_of_lt hlt)
    · exact .inl hlt
    · obtain ⟨d, rfl⟩ := Nat.exists_eq_add_of_le (Nat.succ_le_of_lt h)
      exact .inr ⟨hk i h, d, fun j hj => hk _ (Nat.add_lt_add_left hj _), hlt⟩
  · rintro (h | ⟨heq, k, hk, hlt⟩)
    · exact ⟨i, hagree, h⟩
    · refine ⟨i + 1 + k, fun j hj => ?_, hlt⟩
      rcases lt_trichotomy j i with h | rfl | h
      · exact hagree j h
      · exact heq
      · obtain ⟨d, rfl⟩ := Nat.exists_eq_add_of_le (Nat.succ_le_of_lt h)
        exact hk d (Nat.lt_of_add_lt_add_left hj)

/-- **Sequences that differ at one position at most** compare as they do there. -/
theorem sgn_eq_of_forall_ne {f g : ℕ → κ} {i : ℕ} (h : ∀ j, j ≠ i → f j = g j) :
    sgn (toLex f) (toLex g) = sgn (f i) (g i) := by
  by_cases hi : f i = g i
  · have hfg : f = g := by
      funext j
      rcases eq_or_ne j i with rfl | hj
      · exact hi
      · exact h j hj
    rw [hfg, sgn_self, sgn_self]
  · exact sgn_eq_of_agree (fun j hj => h j hj.ne) hi

/-- One position of the comparison. -/
theorem sgn_step {f g : ℕ → κ} :
    sgn (toLex f) (toLex g) = if sgn (f 0) (g 0) = 0
      then sgn (toLex fun i => f (i + 1)) (toLex fun i => g (i + 1)) else sgn (f 0) (g 0) := by
  by_cases h : f 0 = g 0
  · rw [if_pos (sgn_eq_zero_iff.mpr h), sgn_succ h]
  · rw [if_neg (sgn_eq_zero_iff.not.mpr h)]
    exact sgn_eq_of_agree (fun j hj => absurd hj j.not_lt_zero) h

/-- One position of two lists. -/
theorem sgn_sequence (as bs : List α) :
    sgn (sequence key d as) (sequence key d bs) =
      if sgn (key (as.head?.getD d)) (key (bs.head?.getD d)) = 0
        then sgn (sequence key d as.tail) (sequence key d bs.tail)
        else sgn (key (as.head?.getD d)) (key (bs.head?.getD d)) := by
  have hstep := sgn_step (f := fun i => key ((as[i]?).getD d))
    (g := fun i => key ((bs[i]?).getD d))
  simp only [← List.getElem?_tail, ← List.head?_eq_getElem?] at hstep
  exact hstep

/-- The first of the values that is not zero, from its head on. -/
theorem getD_find?_cons (x : ℤ) (l : List ℤ) :
    ((x :: l).find? (· ≠ 0)).getD 0 = if x = 0 then (l.find? (· ≠ 0)).getD 0 else x := by
  by_cases hx : x = 0
  · simp [hx]
  · simp [hx]

/-- **The lists compare as their continuations.** -/
theorem firstDifference_eq_sgn (as bs : List α) :
    firstDifference key d as bs = sgn (sequence key d as) (sequence key d bs) := by
  unfold firstDifference
  induction as generalizing bs with
  | nil =>
    induction bs with
    | nil => simp
    | cons b bs ih =>
      have hcons : ([] : List α).zipWithAll (fun a b => sgn (key (a.getD d)) (key (b.getD d)))
          (b :: bs) = sgn (key d) (key b) ::
            ([] : List α).zipWithAll (fun a b => sgn (key (a.getD d)) (key (b.getD d))) bs := by
        simp
      rw [hcons, getD_find?_cons, ih, sgn_sequence [] (b :: bs)]
      rfl
  | cons a as ih =>
    cases bs with
    | nil =>
      have hcons : (a :: as).zipWithAll (fun a b => sgn (key (a.getD d)) (key (b.getD d)))
          ([] : List α) = sgn (key a) (key d) ::
            as.zipWithAll (fun a b => sgn (key (a.getD d)) (key (b.getD d))) [] := by
        simp
      rw [hcons, getD_find?_cons, ih, sgn_sequence (a :: as) []]
      rfl
    | cons b bs =>
      rw [List.zipWithAll_cons_cons, getD_find?_cons, ih, sgn_sequence (a :: as) (b :: bs)]
      rfl

omit [LinearOrder κ] in
/-- **Defaults at the end of a list change nothing.** -/
theorem sequence_append_replicate (l : List α) (n : ℕ) :
    sequence key d (l ++ List.replicate n d) = sequence key d l := by
  refine congrArg toLex (funext fun i => congrArg key ?_)
  rw [List.getElem?_append]
  split_ifs with hi
  · rfl
  · rw [List.getElem?_eq_none (not_lt.mp hi), List.getElem?_replicate]
    split_ifs <;> rfl

end Padded

end Comparison
