import Mathlib.Algebra.BigOperators.Group.List.Basic
import Mathlib.Algebra.Ring.Nat
import Mathlib.Data.List.Nodup
import Mathlib.Data.List.Perm.Basic

/-!
# Tables with a serial key

A database table whose primary key is drawn from a sequence: the rows, the next
value of the sequence, and the two facts a `BIGSERIAL PRIMARY KEY` gives, carried as
fields – no two rows share a key, and every key is below the next one. The
statements are the ones a program issues: `Table.insert` draws the next key,
`Table.update` rewrites the rows that satisfy a condition and may not change their
key, `Table.find` and `Table.select` read.

The order of `rows` is the order of insertion. A query without `ORDER BY` may return
its rows in any order: where that matters the caller passes a `RowOrder`, an
arrangement that is known to be a permutation and nothing else.
-/

/-- **A table keyed by a serial column.** -/
structure Table (ρ : Type) (key : ρ → ℕ) where
  /-- The rows, in the order of insertion. -/
  rows : List ρ
  /-- The next value of the sequence the key is drawn from. -/
  seq : ℕ
  /-- No two rows share a key. -/
  nodup : (rows.map key).Nodup
  /-- Keys are drawn from the sequence. -/
  key_lt : ∀ r ∈ rows, key r < seq

/-- The order in which a query without `ORDER BY` returns its rows. -/
structure RowOrder (ρ : Type) where
  /-- The rows as returned. -/
  arrange : List ρ → List ρ
  /-- Each row is returned as often as it is selected. -/
  perm : ∀ l, (arrange l).Perm l

namespace RowOrder

variable {ρ : Type}

/-- Rows returned in the order of insertion. -/
def insertion : RowOrder ρ := ⟨id, fun l => List.Perm.refl l⟩

@[simp] theorem length_arrange (o : RowOrder ρ) (l : List ρ) : (o.arrange l).length = l.length :=
  (o.perm l).length_eq

end RowOrder

namespace Table

variable {ρ : Type} {key : ρ → ℕ}

/-- **A `SET` clause**: what it makes of a row, the key kept. -/
structure Assignment (key : ρ → ℕ) where
  /-- The row as rewritten. -/
  set : ρ → ρ
  /-- The key is not assigned to. -/
  key_set : ∀ r, key (set r) = key r

/-- The table as created: no row, and a sequence that starts at one. -/
def empty : Table ρ key := ⟨[], 1, List.nodup_nil, fun _ h => absurd h (List.not_mem_nil)⟩

/-- `INSERT`: a row carrying the next value of the sequence. -/
def insert (t : Table ρ key) (row : ℕ → ρ) (hkey : ∀ n, key (row n) = n := by intro _; rfl) :
    Table ρ key where
  rows := t.rows ++ [row t.seq]
  seq := t.seq + 1
  nodup := by
    rw [List.map_append, List.map_singleton, hkey]
    refine List.Nodup.append t.nodup (List.nodup_singleton _) ?_
    rw [List.disjoint_singleton]
    intro hmem
    obtain ⟨r, hr, he⟩ := List.mem_map.mp hmem
    exact absurd (t.key_lt r hr) (by omega)
  key_lt := by
    intro r hr
    rcases List.mem_append.mp hr with h | h
    · exact Nat.lt_succ_of_lt (t.key_lt r h)
    · rw [List.mem_singleton.mp h, hkey]
      exact Nat.lt_succ_self _

/-- `UPDATE … SET … WHERE …`: the rows satisfying `p` are rewritten. -/
def update (t : Table ρ key) (p : ρ → Bool) (c : Assignment key) : Table ρ key where
  rows := t.rows.map fun r => if p r then c.set r else r
  seq := t.seq
  nodup := by
    have hmap : (t.rows.map fun r => if p r then c.set r else r).map key = t.rows.map key := by
      rw [List.map_map]
      refine List.map_congr_left fun r _ => ?_
      by_cases hp : p r
      · simp [hp, c.key_set]
      · simp [hp]
    rw [hmap]
    exact t.nodup
  key_lt := by
    intro r hr
    obtain ⟨r', hr', rfl⟩ := List.mem_map.mp hr
    have hlt := t.key_lt r' hr'
    by_cases hp : p r'
    · simpa [hp, c.key_set] using hlt
    · simpa [hp] using hlt

/-- `SELECT … WHERE`. -/
def select (t : Table ρ key) (p : ρ → Bool) : List ρ := t.rows.filter p

/-- `SELECT … WHERE`, the first row only. -/
def find (t : Table ρ key) (p : ρ → Bool) : Option ρ := t.rows.find? p

/-- The row with a given key. -/
def get? (t : Table ρ key) (k : ℕ) : Option ρ := t.find fun r => key r == k

/-! ### Membership -/

@[simp] theorem rows_insert (t : Table ρ key) (row : ℕ → ρ) (hkey : ∀ n, key (row n) = n) :
    (t.insert row hkey).rows = t.rows ++ [row t.seq] := rfl

theorem mem_update {t : Table ρ key} {p : ρ → Bool} {c : Assignment key} {r' : ρ} :
    r' ∈ (t.update p c).rows ↔ ∃ r ∈ t.rows, r' = if p r then c.set r else r := by
  simp only [update, List.mem_map, eq_comm]

theorem mem_of_find {t : Table ρ key} {p : ρ → Bool} {r : ρ} (h : t.find p = some r) :
    r ∈ t.rows := List.mem_of_find?_eq_some h

theorem of_find {t : Table ρ key} {p : ρ → Bool} {r : ρ} (h : t.find p = some r) : p r = true :=
  List.find?_some h

theorem mem_select {t : Table ρ key} {p : ρ → Bool} {r : ρ} :
    r ∈ t.select p ↔ r ∈ t.rows ∧ p r = true := List.mem_filter

/-! ### The key identifies the row -/

/-- **A row is determined by its key.** -/
theorem eq_of_key {t : Table ρ key} {r r' : ρ} (hr : r ∈ t.rows) (hr' : r' ∈ t.rows)
    (h : key r = key r') : r = r' := List.inj_on_of_nodup_map t.nodup hr hr' h

/-- A query for a column that identifies the row finds the row. -/
theorem find_eq_some_of_unique {t : Table ρ key} {p : ρ → Bool} {r : ρ} (hr : r ∈ t.rows)
    (hp : p r = true) (huniq : ∀ r' ∈ t.rows, p r' = true → r' = r) : t.find p = some r := by
  cases hf : t.find p with
  | none => exact absurd hp (List.find?_eq_none.mp hf r hr)
  | some r' => rw [huniq r' (mem_of_find hf) (of_find hf)]

theorem get?_eq_some {t : Table ρ key} {k : ℕ} {r : ρ} :
    t.get? k = some r ↔ r ∈ t.rows ∧ key r = k := by
  constructor
  · intro h
    exact ⟨mem_of_find h, by simpa using of_find h⟩
  · rintro ⟨hr, rfl⟩
    exact find_eq_some_of_unique hr (by simp) fun r' hr' he => eq_of_key hr' hr (by simpa using he)

theorem get?_of_mem {t : Table ρ key} {r : ρ} (hr : r ∈ t.rows) : t.get? (key r) = some r :=
  get?_eq_some.mpr ⟨hr, rfl⟩

theorem get?_eq_none {t : Table ρ key} {k : ℕ} :
    t.get? k = none ↔ ∀ r ∈ t.rows, key r ≠ k := by
  simp [get?, find, List.find?_eq_none]

/-- A query returns the row of a key once, or not at all. -/
theorem countP_key (t : Table ρ key) (p : ρ → Bool) (k : ℕ) :
    (t.select p).countP (fun r => key r == k) = if (t.get? k).any p then 1 else 0 := by
  rw [select, List.countP_filter, get?, find]
  have hnd : (t.rows.map key).Nodup := t.nodup
  generalize t.rows = l at hnd
  induction l with
  | nil => rfl
  | cons r l ih =>
    obtain ⟨hr, hl⟩ := List.nodup_cons.mp hnd
    by_cases hk : key r = k
    · -- the key occurs nowhere else
      have hzero : l.countP (fun r' => key r' == k && p r') = 0 := by
        refine List.countP_eq_zero.mpr fun r' hr' => ?_
        have hne : key r' ≠ k := fun h => hr (List.mem_map.mpr ⟨r', hr', h.trans hk.symm⟩)
        simp [hne]
      by_cases hp : p r
      · simp [hk, hp, hzero]
      · simp [hk, hp, hzero]
    · simpa [hk] using ih hl

/-- **Counting a join** on the key from the other side: the rows of `l` whose partner
satisfies `p` are counted by their partners. -/
theorem countP_join {α : Type} (t : Table ρ key) (p : ρ → Bool) (g : α → ℕ) (l : List α) :
    l.countP (fun a => (t.get? (g a)).any p) =
      ((t.select p).map fun r => l.countP fun a => g a == key r).sum := by
  induction l with
  | nil => simp
  | cons a l ih =>
    -- the partner of `a` is counted once
    have hone : ((t.select p).map fun r => if g a == key r then 1 else 0).sum =
        if (t.get? (g a)).any p then 1 else 0 := by
      rw [← t.countP_key p (g a)]
      induction t.select p with
      | nil => rfl
      | cons r rows ih =>
        rw [List.map_cons, List.sum_cons, ih, List.countP_cons, Nat.add_comm]
        simp only [BEq.comm (a := key r)]
    simp only [List.countP_cons, List.sum_map_add, ih, hone]

/-- An update rewrites the row under each key, if it satisfies the condition. -/
@[simp] theorem get?_update (t : Table ρ key) (p : ρ → Bool) (c : Assignment key) (k : ℕ) :
    (t.update p c).get? k = (t.get? k).map fun r => if p r then c.set r else r := by
  cases hg : t.get? k with
  | none =>
    rw [Option.map_none, get?_eq_none]
    intro r' hr'
    obtain ⟨r, hr, rfl⟩ := mem_update.mp hr'
    have hne := get?_eq_none.mp hg r hr
    by_cases hp : p r
    · simpa [hp, c.key_set] using hne
    · simpa [hp] using hne
  | some r =>
    obtain ⟨hr, rfl⟩ := get?_eq_some.mp hg
    rw [Option.map_some, get?_eq_some]
    refine ⟨mem_update.mpr ⟨r, hr, rfl⟩, ?_⟩
    by_cases hp : p r
    · simp [hp, c.key_set]
    · simp [hp]

/-- An update rewrites the first row of a query, if it cannot change what is queried. -/
theorem find_update (t : Table ρ key) (p q : ρ → Bool) (c : Assignment key)
    (hq : ∀ r, q (c.set r) = q r) :
    (t.update p c).find q = (t.find q).map fun r => if p r then c.set r else r := by
  have hcomp : (q ∘ fun r => if p r then c.set r else r) = q := by
    funext r
    by_cases hp : p r
    · simp [hp, hq]
    · simp [hp]
  rw [find, update, List.find?_map, hcomp, find]

/-- An insertion adds one row, under the key it draws. -/
theorem get?_insert (t : Table ρ key) (row : ℕ → ρ) (hkey : ∀ n, key (row n) = n) (k : ℕ) :
    (t.insert row hkey).get? k = if k = t.seq then some (row t.seq) else t.get? k := by
  by_cases hk : k = t.seq
  · rw [if_pos hk, get?_eq_some]
    exact ⟨by simp, by rw [hkey, hk]⟩
  · rw [if_neg hk]
    cases hg : t.get? k with
    | none =>
      rw [get?_eq_none] at hg ⊢
      intro r hr
      rcases List.mem_append.mp hr with h | h
      · exact hg r h
      · rw [List.mem_singleton.mp h, hkey]
        exact fun he => hk he.symm
    | some r =>
      rw [get?_eq_some] at hg ⊢
      exact ⟨List.mem_append_left _ hg.1, hg.2⟩

/-- The next value of the sequence belongs to no row. -/
@[simp] theorem get?_seq (t : Table ρ key) : t.get? t.seq = none :=
  get?_eq_none.mpr fun r hr => Nat.ne_of_lt (t.key_lt r hr)

end Table
