import Mathlib.Data.List.Basic
import Mathlib.Order.Basic

/-!
# A list in slices of one size

`List.slices size l` are the slices `l[i : i + size]` for `i` in steps of `size`. Put together they
are the list again (`List.flatten_slices`), and none of them is empty
(`List.ne_nil_of_mem_slices`) or too long (`List.length_le_of_mem_slices`). A list whose slices are
full but for the last is known by them (`List.slices_flatten_append`).
-/

namespace List

variable {α : Type*}

/-- **The slices of a list**; of a list cut into slices of no length there are none. -/
def slices (size : ℕ) (l : List α) : List (List α) :=
  (range ((l.length + (size - 1)) / size)).map fun i => (l.drop (i * size)).take size

/-- The slices that begin before a place make up the list before it. -/
theorem flatten_map_slice (size : ℕ) (l : List α) (n : ℕ) :
    ((range n).map fun i => (l.drop (i * size)).take size).flatten = l.take (n * size) := by
  induction n with
  | zero => simp
  | succ n ih =>
    rw [range_succ, map_append, flatten_append, ih, map_singleton, flatten_singleton,
      Nat.succ_mul, take_add]

/-- **The slices make up the list.** -/
theorem flatten_slices {size : ℕ} (h : 0 < size) (l : List α) : (l.slices size).flatten = l := by
  rw [slices, flatten_map_slice]
  refine take_of_length_le ?_
  have hdiv := Nat.div_add_mod (l.length + (size - 1)) size
  have hmod := Nat.mod_lt (l.length + (size - 1)) h
  rw [Nat.mul_comm] at hdiv
  omega

/-- A slice is not empty. -/
theorem ne_nil_of_mem_slices {size : ℕ} (h : 0 < size) {l b : List α} (hb : b ∈ l.slices size) :
    b ≠ [] := by
  obtain ⟨i, hi, rfl⟩ := mem_map.mp hb
  have hlt : i * size + size ≤ l.length + (size - 1) := by
    rw [← Nat.succ_mul]
    exact (Nat.mul_le_of_le_div _ _ _ (Nat.succ_le_of_lt (mem_range.mp hi)))
  intro hnil
  have hlength := congrArg length hnil
  rw [length_take, length_drop, length_nil] at hlength
  omega

/-- A slice is not too long. -/
theorem length_le_of_mem_slices {size : ℕ} {l b : List α} (hb : b ∈ l.slices size) :
    b.length ≤ size := by
  obtain ⟨i, -, rfl⟩ := mem_map.mp hb
  exact length_take_le size _

theorem slices_nil {size : ℕ} (h : 0 < size) : ([] : List α).slices size = [] := by
  have hnone : (([] : List α).length + (size - 1)) / size = 0 :=
    Nat.div_eq_of_lt (by rw [length_nil]; omega)
  rw [slices, hnone, range_zero, map_nil]

/-- The first slice, and those of the rest. -/
theorem slices_append {size : ℕ} (h : 0 < size) {b : List α} (hb : b.length = size) (l : List α) :
    (b ++ l).slices size = b :: l.slices size := by
  have hcount : ((b ++ l).length + (size - 1)) / size = (l.length + (size - 1)) / size + 1 := by
    have hsum : (b ++ l).length + (size - 1) = l.length + (size - 1) + size := by
      rw [length_append, hb]
      omega
    rw [hsum, Nat.add_div_right _ h]
  rw [slices, hcount, range_succ_eq_map, map_cons, map_map, slices]
  congr 1
  · rw [Nat.zero_mul, drop_zero, take_left' hb]
  · refine map_congr_left fun i _ => ?_
    have hskip : (i + 1) * size = b.length + i * size := by
      rw [hb, Nat.succ_mul, Nat.add_comm]
    rw [Function.comp_apply, Nat.succ_eq_add_one, hskip, drop_length_add_append]

/-- What is no longer than a slice is one, unless it is empty. -/
theorem slices_of_length_le {size : ℕ} {b : List α} (hne : b ≠ []) (hb : b.length ≤ size) :
    b.slices size = [b] := by
  have hpos : 0 < b.length := length_pos_iff.mpr hne
  have hone : (b.length + (size - 1)) / size = 1 :=
    Nat.div_eq_of_lt_le (by omega) (by omega)
  rw [slices, hone, range_one, map_singleton, Nat.zero_mul, drop_zero, take_of_length_le hb]

/-- **Full slices and a rest** are the slices of the list that they make up. -/
theorem slices_flatten_append {size : ℕ} (h : 0 < size) {bs : List (List α)}
    (hbs : ∀ b ∈ bs, b.length = size) (l : List α) :
    (bs.flatten ++ l).slices size = bs ++ l.slices size := by
  induction bs with
  | nil => rfl
  | cons b bs ih =>
    obtain ⟨hb, hrest⟩ := forall_mem_cons.mp hbs
    rw [flatten_cons, append_assoc, slices_append h hb, ih hrest, cons_append]

end List
