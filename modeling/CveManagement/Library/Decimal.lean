import Mathlib

/-!
# Decimal texts in the order of texts

The decimal texts of natural numbers, compared as texts. Texts of one length are in the order of
their numbers (`Decimal.lt_iff_ofDigitChars_lt`); of two lengths the shorter one is compared with
the first digits of the longer one, so that the order of the numbers is kept exactly where the
smaller number does not exceed these (`Decimal.toDigits_lt_toDigits_iff`).
-/

namespace Decimal

/-! ### Texts of one length -/

/-- A text against one that is at least as long: the first characters decide, and where these are
equal whether there are more. -/
theorem lt_append_iff {α : Type*} [LinearOrder α] {s t u : List α} (h : s.length = t.length) :
    s < t ++ u ↔ s < t ∨ s = t ∧ u ≠ [] := by
  induction s generalizing t with
  | nil =>
    obtain rfl := List.length_eq_zero_iff.mp h.symm
    cases u with
    | nil => simp
    | cons c u => simp
  | cons c s ih =>
    cases t with
    | nil => cases h
    | cons d t =>
      rw [List.cons_append, List.cons_lt_cons_iff, List.cons_lt_cons_iff,
        ih (Nat.succ.inj h), List.cons.injEq]
      tauto

/-- A beginning that the texts have in common. -/
theorem append_lt_append_iff {α : Type*} [LinearOrder α] (s : List α) {t u : List α} :
    s ++ t < s ++ u ↔ t < u := by
  induction s with
  | nil => rfl
  | cons c s ih =>
    rw [List.cons_append, List.cons_append, List.cons_lt_cons_iff, ih]
    simp

/-- The value of a digit. -/
theorem toNat_sub_lt_ten {c : Char} (h : c.isDigit = true) :
    48 ≤ c.toNat ∧ c.toNat - 48 < 10 := by
  simp only [Char.isDigit, Bool.and_eq_true, decide_eq_true_eq, ge_iff_le,
    UInt32.le_iff_toNat_le] at h
  have hzero : ('0' : Char).val.toNat = 48 := rfl
  have hnine : ('9' : Char).val.toNat = 57 := rfl
  have hc : c.val.toNat = c.toNat := rfl
  omega

/-- The first digit of a text. -/
theorem ofDigitChars_cons_zero (c : Char) (s : List Char) :
    Nat.ofDigitChars 10 (c :: s) 0 =
      10 ^ s.length * (c.toNat - 48) + Nat.ofDigitChars 10 s 0 := by
  have hzero : ('0' : Char).toNat = 48 := rfl
  rw [Nat.ofDigitChars_cons, Nat.ofDigitChars_eq_ofDigitChars_zero, hzero, mul_zero, zero_add]

/-- A text of digits stays below the power of ten of its length. -/
theorem ofDigitChars_lt {s : List Char} (h : ∀ c ∈ s, c.isDigit = true) :
    Nat.ofDigitChars 10 s 0 < 10 ^ s.length := by
  induction s with
  | nil => simp
  | cons c s ih =>
    obtain ⟨hc, hs⟩ := List.forall_mem_cons.mp h
    have hdigit := (toNat_sub_lt_ten hc).2
    rw [ofDigitChars_cons_zero, List.length_cons]
    calc 10 ^ s.length * (c.toNat - 48) + Nat.ofDigitChars 10 s 0
        < 10 ^ s.length * (c.toNat - 48) + 10 ^ s.length := Nat.add_lt_add_left (ih hs) _
      _ = 10 ^ s.length * (c.toNat - 48 + 1) := by ring
      _ ≤ 10 ^ s.length * 10 := Nat.mul_le_mul_left _ hdigit
      _ = 10 ^ (s.length + 1) := by ring

/-- **Texts of one length are in the order of their numbers.** -/
theorem lt_iff_ofDigitChars_lt {s t : List Char} (hs : ∀ c ∈ s, c.isDigit = true)
    (ht : ∀ c ∈ t, c.isDigit = true) (hlength : s.length = t.length) :
    s < t ↔ Nat.ofDigitChars 10 s 0 < Nat.ofDigitChars 10 t 0 := by
  induction s generalizing t with
  | nil =>
    obtain rfl := List.length_eq_zero_iff.mp hlength.symm
    simp
  | cons c s ih =>
    cases t with
    | nil => cases hlength
    | cons d t =>
      obtain ⟨hc, hs⟩ := List.forall_mem_cons.mp hs
      obtain ⟨hd, ht⟩ := List.forall_mem_cons.mp ht
      have hlen : s.length = t.length := Nat.succ.inj hlength
      have hcNat := (toNat_sub_lt_ten hc).1
      have hdNat := (toNat_sub_lt_ten hd).1
      have hsLt := ofDigitChars_lt hs
      have htLt := ofDigitChars_lt ht
      have hlt : c < d ↔ c.toNat < d.toNat := UInt32.lt_iff_toNat_lt
      have heq : c = d ↔ c.toNat = d.toNat := Char.toNat_inj.symm
      rw [List.cons_lt_cons_iff, ih hs ht hlen, ofDigitChars_cons_zero, ofDigitChars_cons_zero,
        hlt, heq, hlen]
      rw [hlen] at hsLt
      -- the first digits decide, as the rest is below one of them
      rcases lt_trichotomy c.toNat d.toNat with h | h | h
      · refine iff_of_true (.inl h) ?_
        have hstep : 10 ^ t.length * (c.toNat - 48 + 1) ≤ 10 ^ t.length * (d.toNat - 48) :=
          Nat.mul_le_mul_left _ (by omega)
        rw [mul_add, mul_one] at hstep
        omega
      · rw [h]
        simp
      · refine iff_of_false (by omega) ?_
        have hstep : 10 ^ t.length * (d.toNat - 48 + 1) ≤ 10 ^ t.length * (c.toNat - 48) :=
          Nat.mul_le_mul_left _ (by omega)
        rw [mul_add, mul_one] at hstep
        omega

/-! ### Texts of numbers -/

theorem isDigit_of_mem_toDigits {n : ℕ} {c : Char} (h : c ∈ Nat.toDigits 10 n) :
    c.isDigit = true := Nat.isDigit_of_mem_toDigits (by decide) (by decide) h

/-- The length of a decimal text. -/
theorem length_toDigits (n : ℕ) : (Nat.toDigits 10 n).length = Nat.log 10 n + 1 := by
  refine le_antisymm ?_ ?_
  · rw [Nat.length_toDigits_le_iff (by decide) (Nat.succ_pos _)]
    exact Nat.lt_pow_succ_log_self (by decide) n
  · have hlt : n < 10 ^ (Nat.toDigits 10 n).length :=
      (Nat.length_toDigits_le_iff (by decide) Nat.length_toDigits_pos).mp le_rfl
    rcases Nat.eq_zero_or_pos n with rfl | hn
    · rw [Nat.log_zero_right]
      exact Nat.length_toDigits_pos
    · exact (Nat.log_lt_iff_lt_pow (by decide) hn.ne').mpr hlt

/-- **The first digits of a decimal text.** -/
theorem ofDigitChars_take (n k : ℕ) :
    Nat.ofDigitChars 10 ((Nat.toDigits 10 n).take k) 0 =
      n / 10 ^ ((Nat.toDigits 10 n).length - k) := by
  have hrest : Nat.ofDigitChars 10 ((Nat.toDigits 10 n).drop k) 0 <
      10 ^ ((Nat.toDigits 10 n).length - k) := by
    rw [← List.length_drop]
    exact ofDigitChars_lt fun c hc => isDigit_of_mem_toDigits (List.mem_of_mem_drop hc)
  have hsplit : n = 10 ^ ((Nat.toDigits 10 n).length - k) *
      Nat.ofDigitChars 10 ((Nat.toDigits 10 n).take k) 0 +
        Nat.ofDigitChars 10 ((Nat.toDigits 10 n).drop k) 0 := by
    rw [← List.length_drop, ← Nat.ofDigitChars_eq_ofDigitChars_zero, ← Nat.ofDigitChars_append,
      List.take_append_drop, Nat.ofDigitChars_ten_toDigits]
  generalize Nat.ofDigitChars 10 ((Nat.toDigits 10 n).take k) 0 = q at hsplit ⊢
  generalize Nat.ofDigitChars 10 ((Nat.toDigits 10 n).drop k) 0 = r at hsplit hrest
  generalize (Nat.toDigits 10 n).length - k = e at hsplit hrest ⊢
  rw [hsplit, Nat.mul_add_div (by positivity), Nat.div_eq_of_lt hrest, add_zero]

/-- **When the texts of two numbers are in the order of the numbers**: the smaller number does not
exceed the first digits of the greater one, as many as it has itself. -/
theorem toDigits_lt_toDigits_iff {i j : ℕ} (hij : i < j) :
    Nat.toDigits 10 i < Nat.toDigits 10 j ↔ i ≤ j / 10 ^ (Nat.log 10 j - Nat.log 10 i) := by
  have hlog : Nat.log 10 i ≤ Nat.log 10 j := Nat.log_mono_right hij.le
  have htake : ((Nat.toDigits 10 j).take (Nat.log 10 i + 1)).length =
      (Nat.toDigits 10 i).length := by
    rw [List.length_take, length_toDigits, length_toDigits]
    omega
  have hvalue : Nat.ofDigitChars 10 ((Nat.toDigits 10 j).take (Nat.log 10 i + 1)) 0 =
      j / 10 ^ (Nat.log 10 j - Nat.log 10 i) := by
    rw [ofDigitChars_take, length_toDigits, Nat.add_sub_add_right]
  have hdigits : ∀ c ∈ (Nat.toDigits 10 j).take (Nat.log 10 i + 1), c.isDigit = true :=
    fun c hc => isDigit_of_mem_toDigits (List.mem_of_mem_take hc)
  rw [← List.take_append_drop (Nat.log 10 i + 1) (Nat.toDigits 10 j), lt_append_iff htake.symm,
    lt_iff_ofDigitChars_lt (fun c hc => isDigit_of_mem_toDigits hc) hdigits htake.symm,
    Nat.ofDigitChars_ten_toDigits, hvalue]
  have heq : Nat.toDigits 10 i = (Nat.toDigits 10 j).take (Nat.log 10 i + 1) ↔
      i = j / 10 ^ (Nat.log 10 j - Nat.log 10 i) := by
    rw [← hvalue]
    constructor
    · intro h
      rw [← h, Nat.ofDigitChars_ten_toDigits]
    · -- neither of the texts is below the other
      intro h
      have hi : ∀ c ∈ Nat.toDigits 10 i, c.isDigit = true := fun c hc => isDigit_of_mem_toDigits hc
      refine le_antisymm (not_lt.mp ?_) (not_lt.mp ?_)
      · rw [lt_iff_ofDigitChars_lt hdigits hi htake, Nat.ofDigitChars_ten_toDigits, ← h]
        exact lt_irrefl i
      · rw [lt_iff_ofDigitChars_lt hi hdigits htake.symm, Nat.ofDigitChars_ten_toDigits, ← h]
        exact lt_irrefl i
  rw [heq, le_iff_lt_or_eq]
  refine or_congr_right (and_iff_left_of_imp fun h => ?_)
  -- the numbers differ, so the first digits of the greater one are not all of it
  rw [Ne, List.drop_eq_nil_iff, length_toDigits]
  intro hle
  have hexp : Nat.log 10 j - Nat.log 10 i = 0 := by omega
  rw [hexp, pow_zero, Nat.div_one] at h
  exact hij.ne h

end Decimal
