import Mathlib

/-!
# Stores whose entries expire

A store maps keys to values, and each value comes with the point in time from which it is no
longer there: what `SET … EX`, `SET … NX EX`, `EXPIRE` and `DEL` do to the keys of a server, at
one point in time each. The operations that compare first
(`Expiring.Store.expireIf`, `Expiring.Store.delIf`) touch nothing but a key with the value that
they were given.
-/

namespace Expiring

/-- A value for each key, with the point in time at which it expires. -/
structure Store (κ α τ : Type*) where
  entry : κ → Option (α × τ)

variable {κ α τ : Type*} [DecidableEq κ] [LinearOrder τ]

namespace Store

/-- The store without keys. -/
def empty : Store κ α τ := ⟨fun _ => none⟩

variable (s : Store κ α τ)

/-- The value of a key, at a point in time. -/
def get? (now : τ) (k : κ) : Option α :=
  (s.entry k).bind fun e => if now < e.2 then some e.1 else none

/-- Write a key. -/
def set (k : κ) (v : α) (expiry : τ) : Store κ α τ :=
  ⟨Function.update s.entry k (some (v, expiry))⟩

/-- Delete a key. -/
def del (k : κ) : Store κ α τ := ⟨Function.update s.entry k none⟩

/-- Write a key that is not there. -/
def setNx (now : τ) (k : κ) (v : α) (expiry : τ) : Store κ α τ :=
  if (s.get? now k).isSome then s else s.set k v expiry

/-- Put off the expiry of a key that has a given value. -/
def expireIf [DecidableEq α] (now : τ) (k : κ) (v : α) (expiry : τ) : Store κ α τ :=
  if s.get? now k = some v then s.set k v expiry else s

/-- Delete a key that has a given value. -/
def delIf [DecidableEq α] (now : τ) (k : κ) (v : α) : Store κ α τ :=
  if s.get? now k = some v then s.del k else s

variable {s} {now now' expiry : τ} {k k' : κ} {v w : α}

/-! ### Reading after writing -/

omit [DecidableEq κ] in
@[simp] theorem get?_empty : (empty : Store κ α τ).get? now k = none := rfl

omit [DecidableEq κ] in
theorem get?_eq_some_iff :
    s.get? now k = some v ↔ ∃ expiry, s.entry k = some (v, expiry) ∧ now < expiry := by
  unfold get?
  rcases s.entry k with _ | ⟨w, expiry⟩
  · simp
  by_cases h : now < expiry
  · simp only [Option.bind_some, h, if_true, Option.some.injEq, Prod.mk.injEq]
    exact ⟨fun hw => ⟨expiry, ⟨hw, rfl⟩, h⟩, fun ⟨_, ⟨hw, _⟩, _⟩ => hw⟩
  · simp only [Option.bind_some, h, if_false, Option.some.injEq, Prod.mk.injEq]
    exact ⟨fun hw => absurd hw (by simp), fun ⟨_, ⟨_, he⟩, hlt⟩ => absurd (he ▸ hlt) h⟩

omit [LinearOrder τ] in
@[simp] theorem entry_set : (s.set k v expiry).entry k = some (v, expiry) := by
  simp [set]

omit [LinearOrder τ] in
theorem entry_set_of_ne (h : k' ≠ k) : (s.set k v expiry).entry k' = s.entry k' := by
  simp [set, Function.update_of_ne h]

theorem get?_set (h : now < expiry) : (s.set k v expiry).get? now k = some v := by
  simp [get?, h]

theorem get?_set_of_ne (h : k' ≠ k) : (s.set k v expiry).get? now k' = s.get? now k' := by
  simp [get?, entry_set_of_ne h]

@[simp] theorem get?_del : (s.del k).get? now k = none := by simp [get?, del]

omit [LinearOrder τ] in
theorem entry_del_of_ne (h : k' ≠ k) : (s.del k).entry k' = s.entry k' := by
  simp [del, Function.update_of_ne h]

theorem get?_del_of_ne (h : k' ≠ k) : (s.del k).get? now k' = s.get? now k' := by
  simp [get?, entry_del_of_ne h]

/-! ### The passing of time -/

omit [DecidableEq κ] in
/-- A value that is there was there before. -/
theorem get?_of_le (h : now ≤ now') (hv : s.get? now' k = some v) : s.get? now k = some v := by
  obtain ⟨expiry, he, hlt⟩ := get?_eq_some_iff.mp hv
  exact get?_eq_some_iff.mpr ⟨expiry, he, lt_of_le_of_lt h hlt⟩

omit [DecidableEq κ] in
/-- **A value stays until it expires.** -/
theorem get?_stays_or_expires (hv : s.get? now k = some v) :
    s.get? now' k = some v ∨
      s.get? now' k = none ∧ ∃ expiry, s.entry k = some (v, expiry) ∧ expiry ≤ now' := by
  obtain ⟨expiry, he, -⟩ := get?_eq_some_iff.mp hv
  by_cases h : now' < expiry
  · exact Or.inl (get?_eq_some_iff.mpr ⟨expiry, he, h⟩)
  · exact Or.inr ⟨by simp [get?, he, h], expiry, he, not_lt.mp h⟩

/-! ### What the comparing operations leave alone -/

/-- `setNx` does nothing to a key that is there. -/
theorem setNx_of_some (hv : s.get? now k = some w) : s.setNx now k v expiry = s := by
  simp [setNx, hv]

/-- **After `setNx` a key is there**, with the new value or an older one. -/
theorem setNx_of_none (hv : s.get? now k = none) : s.setNx now k v expiry = s.set k v expiry := by
  simp [setNx, hv]

variable [DecidableEq α]

/-- `expireIf` does nothing to a key with another value. -/
theorem expireIf_of_ne (hv : s.get? now k ≠ some v) : s.expireIf now k v expiry = s :=
  if_neg hv

theorem expireIf_of_eq (hv : s.get? now k = some v) :
    s.expireIf now k v expiry = s.set k v expiry :=
  if_pos hv

/-- `delIf` does nothing to a key with another value. -/
theorem delIf_of_ne (hv : s.get? now k ≠ some v) : s.delIf now k v = s := if_neg hv

end Store

end Expiring
