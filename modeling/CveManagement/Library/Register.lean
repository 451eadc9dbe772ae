import Mathlib.Data.List.Basic

/-!
# Registers that keep the first entry of a key

A list of keys with values into which a key is entered with a given value unless it is there:
what `INSERT … ON CONFLICT DO NOTHING` does to a table, seen through its unique key. A batch
of entries adds exactly the keys that were missing (`Register.mem_enterAll`), so a property
that some value breaks is kept by a batch exactly if no missing key would take that value
(`Register.forall_enterAll_iff`).
-/

namespace Register

variable {κ ν : Type*} [DecidableEq κ]

/-- Enter a key with a value, unless the key is there. -/
def enter (v : ν) (l : List (κ × ν)) (k : κ) : List (κ × ν) :=
  if k ∈ l.map Prod.fst then l else l ++ [(k, v)]

/-- Enter keys one after the other. -/
def enterAll (v : ν) (l : List (κ × ν)) (ks : List κ) : List (κ × ν) := ks.foldl (enter v) l

variable {v : ν} {l : List (κ × ν)} {k : κ} {ks : List κ} {e : κ × ν}

@[simp] theorem enterAll_nil : enterAll v l [] = l := rfl

@[simp] theorem enterAll_cons : enterAll v l (k :: ks) = enterAll v (enter v l k) ks := rfl

theorem mem_enter : e ∈ enter v l k ↔ e ∈ l ∨ e = (k, v) ∧ k ∉ l.map Prod.fst := by
  rw [enter]
  split_ifs with h
  · simp [h]
  · simp [h]

theorem mem_keys_enter {k' : κ} :
    k' ∈ (enter v l k).map Prod.fst ↔ k' ∈ l.map Prod.fst ∨ k' = k := by
  rw [enter]
  split_ifs with h
  · constructor
    · exact .inl
    · rintro (hk | rfl)
      · exact hk
      · exact h
  · simp

/-- The keys after a batch. -/
theorem mem_keys_enterAll {k' : κ} :
    k' ∈ (enterAll v l ks).map Prod.fst ↔ k' ∈ l.map Prod.fst ∨ k' ∈ ks := by
  induction ks generalizing l with
  | nil => simp
  | cons k ks ih => rw [enterAll_cons, ih, mem_keys_enter, List.mem_cons, or_assoc]

/-- **A batch adds the keys that were missing**, each with the given value. -/
theorem mem_enterAll :
    e ∈ enterAll v l ks ↔ e ∈ l ∨ e.1 ∈ ks ∧ e.1 ∉ l.map Prod.fst ∧ e.2 = v := by
  -- over all registers: each key is entered into what the keys before it have left
  induction ks generalizing l with
  | nil => simp
  | cons k ks ih =>
    rw [enterAll_cons, ih, mem_enter, mem_keys_enter, List.mem_cons]
    constructor
    · rintro ((he | ⟨rfl, hk⟩) | ⟨hks, hnot, hv⟩)
      · exact .inl he
      · exact .inr ⟨.inl rfl, hk, rfl⟩
      · exact .inr ⟨.inr hks, fun h => hnot (.inl h), hv⟩
    · rintro (he | ⟨hks, hnot, hv⟩)
      · exact .inl (.inl he)
      · by_cases hk : e.1 = k
        · exact .inl (.inr ⟨Prod.ext hk hv, hk ▸ hnot⟩)
        · exact .inr ⟨hks.resolve_left hk, fun h => h.elim hnot hk, hv⟩

/-- **What a batch keeps of a property of all entries.** -/
theorem forall_enterAll_iff {P : κ × ν → Prop} (hl : ∀ e ∈ l, P e) :
    (∀ e ∈ enterAll v l ks, P e) ↔ ∀ k ∈ ks, k ∉ l.map Prod.fst → P (k, v) := by
  constructor
  · intro h k hk hnot
    exact h (k, v) (mem_enterAll.mpr (.inr ⟨hk, hnot, rfl⟩))
  · intro h e he
    rcases mem_enterAll.mp he with he | ⟨hks, hnot, hv⟩
    · exact hl e he
    · rw [show e = (e.1, v) from Prod.ext rfl hv]
      exact h e.1 hks hnot

end Register
