import Mathlib.Logic.Function.Basic
import Mathlib.Order.Lattice

/-!
# Maps that keep the latest value under each key

A store to which stamped values are *offered*: an offer under a free key is taken, and
an offer under an occupied key replaces what is there if its stamp is later – what
`INSERT … ON CONFLICT … DO UPDATE … WHERE old.stamp < new.stamp` does. What such a store
knows is monotone: `Latest.Covers` says that a key is present with a stamp at least the
given one, and a sequence of offers covers exactly what was covered before and what was
offered (`Latest.covers_foldl`).

What is under a key is either what was there or what some offer wrote
(`Latest.eq_or_written_foldl`). With the stamps this makes the store a last-writer-wins map:
the greatest of the offers decides, wherever it stands in the sequence
(`Latest.written_of_greatest`), and an offer that is covered changes nothing
(`Latest.foldl_take_of_covered`).
-/

namespace Latest

variable {κ ν τ : Type} (stamp : ν → τ)

/-- **An offer**: a key, a stamp, the value to create, and what to make of an older one. -/
structure Offer where
  /-- The key offered under. -/
  key : κ
  /-- The stamp of the offered value. -/
  time : τ
  /-- The value, if the key is free. -/
  create : ν
  /-- The value, if the key is occupied by an older one. -/
  replace : ν → ν
  /-- Both values carry the stamp of the offer. -/
  stamp_create : stamp create = time
  stamp_replace : ∀ old, stamp (replace old) = time

variable [DecidableEq κ] [LinearOrder τ] {stamp}

/-- The store after one offer. -/
def take (m : κ → Option ν) (o : Offer (κ := κ) stamp) : κ → Option ν :=
  match m o.key with
  | none => Function.update m o.key (some o.create)
  | some old => if stamp old < o.time then Function.update m o.key (some (o.replace old)) else m

variable (stamp) in
/-- The key is present with a stamp of `t` or later. -/
def Covers (m : κ → Option ν) (k : κ) (t : τ) : Prop := ∃ v, m k = some v ∧ t ≤ stamp v

variable {m : κ → Option ν} {k : κ} {t : τ}

/-- The value under a key, after it is rewritten. -/
theorem covers_update_self {v : ν} :
    Covers stamp (Function.update m k (some v)) k t ↔ t ≤ stamp v := by
  simp [Covers]

theorem covers_update_of_ne {k' : κ} {v : Option ν} (h : k ≠ k') :
    Covers stamp (Function.update m k' v) k t ↔ Covers stamp m k t := by
  rw [Covers, Function.update_of_ne h, Covers]

/-- **One offer** covers what was covered, and itself. -/
theorem covers_take (o : Offer (κ := κ) stamp) :
    Covers stamp (take m o) k t ↔ Covers stamp m k t ∨ o.key = k ∧ t ≤ o.time := by
  by_cases hk : o.key = k
  · subst hk
    rw [take]
    cases hm : m o.key with
    | none =>
      have hnot : ¬Covers stamp m o.key t := fun ⟨v, hv, _⟩ => by rw [hm] at hv; cases hv
      dsimp only
      rw [covers_update_self, o.stamp_create]
      simp [hnot]
    | some old =>
      have hold : Covers stamp m o.key t ↔ t ≤ stamp old := by simp [Covers, hm]
      dsimp only
      by_cases hlt : stamp old < o.time
      · rw [if_pos hlt, covers_update_self, o.stamp_replace, hold]
        exact ⟨fun h => .inr ⟨rfl, h⟩, fun h => h.elim (fun h => h.trans hlt.le) And.right⟩
      · rw [if_neg hlt, hold]
        exact ⟨.inl, fun h => h.elim id fun h => h.2.trans (not_lt.mp hlt)⟩
  · have hframe : Covers stamp (take m o) k t ↔ Covers stamp m k t := by
      rw [take]
      cases m o.key with
      | none => exact covers_update_of_ne (Ne.symm hk)
      | some old =>
        dsimp only
        by_cases hlt : stamp old < o.time
        · rw [if_pos hlt]
          exact covers_update_of_ne (Ne.symm hk)
        · rw [if_neg hlt]
    rw [hframe]
    simp [hk]

/-- **A sequence of offers** covers what was covered, and what was offered. -/
theorem covers_foldl (l : List (Offer (κ := κ) stamp)) :
    Covers stamp (l.foldl take m) k t ↔
      Covers stamp m k t ∨ ∃ o ∈ l, o.key = k ∧ t ≤ o.time := by
  induction l generalizing m with
  | nil => simp
  | cons o l ih =>
    rw [List.foldl_cons, ih, covers_take, or_assoc]
    simp only [List.mem_cons, exists_eq_or_imp]

/-! ### The greatest offer -/

/-- The value is one that the offer writes. -/
def Offer.Writes (o : Offer (κ := κ) stamp) (v : ν) : Prop :=
  v = o.create ∨ ∃ old, v = o.replace old

omit [DecidableEq κ] [LinearOrder τ] in
theorem Offer.Writes.stamp_eq {o : Offer (κ := κ) stamp} {v : ν} (h : o.Writes v) :
    stamp v = o.time := by
  rcases h with rfl | ⟨old, rfl⟩
  · exact o.stamp_create
  · exact o.stamp_replace old

/-- **What is covered is not taken.** -/
theorem take_of_covered {o : Offer (κ := κ) stamp} (h : Covers stamp m o.key o.time) :
    take m o = m := by
  obtain ⟨old, hold, hle⟩ := h
  simp only [take, hold, if_neg (not_lt.mpr hle)]

theorem foldl_take_of_covered {l : List (Offer (κ := κ) stamp)}
    (h : ∀ o ∈ l, Covers stamp m o.key o.time) : l.foldl take m = m := by
  induction l with
  | nil => rfl
  | cons o l ih =>
    rw [List.foldl_cons, take_of_covered (h o List.mem_cons_self)]
    exact ih fun o' ho' => h o' (List.mem_cons_of_mem _ ho')

/-- An offer leaves a key as it is, or writes it. -/
theorem eq_or_written_take (m : κ → Option ν) (o : Offer (κ := κ) stamp) (k : κ) :
    take m o k = m k ∨ o.key = k ∧ ∃ v, take m o k = some v ∧ o.Writes v := by
  by_cases hk : o.key = k
  · subst hk
    rw [take]
    cases hm : m o.key with
    | none =>
      dsimp only
      rw [Function.update_self]
      exact .inr ⟨rfl, o.create, rfl, .inl rfl⟩
    | some old =>
      dsimp only
      by_cases hlt : stamp old < o.time
      · rw [if_pos hlt, Function.update_self]
        exact .inr ⟨rfl, o.replace old, rfl, .inr ⟨old, rfl⟩⟩
      · rw [if_neg hlt, hm]
        exact .inl rfl
  · refine .inl ?_
    rw [take]
    cases m o.key with
    | none => exact Function.update_of_ne (Ne.symm hk) _ _
    | some old =>
      dsimp only
      by_cases hlt : stamp old < o.time
      · rw [if_pos hlt]
        exact Function.update_of_ne (Ne.symm hk) _ _
      · rw [if_neg hlt]

/-- **Who wrote**: what is under a key after a sequence of offers was there before it, or was
written by one of them. -/
theorem eq_or_written_foldl (l : List (Offer (κ := κ) stamp)) (m : κ → Option ν) (k : κ) :
    l.foldl take m k = m k ∨
      ∃ o ∈ l, o.key = k ∧ ∃ v, l.foldl take m k = some v ∧ o.Writes v := by
  induction l generalizing m with
  | nil => exact .inl rfl
  | cons o l ih =>
    rw [List.foldl_cons]
    rcases ih (take m o) with hrest | ⟨o', ho', hkey, hwrites⟩
    · -- the others leave the key alone, so the first one decides
      rw [hrest]
      rcases eq_or_written_take m o k with hkeep | ⟨hkey, hwrites⟩
      · exact .inl hkeep
      · exact .inr ⟨o, List.mem_cons_self, hkey, hwrites⟩
    · exact .inr ⟨o', List.mem_cons_of_mem _ ho', hkey, hwrites⟩

/-- **The greatest offer decides**: if it is later than what was there, the value at the end
carries its stamp and was written by an offer with that stamp. -/
theorem written_of_greatest {l : List (Offer (κ := κ) stamp)} {o : Offer (κ := κ) stamp}
    (ho : o ∈ l) (hgreatest : ∀ o' ∈ l, o'.key = o.key → o'.time ≤ o.time)
    (hlater : ∀ v, m o.key = some v → stamp v < o.time) :
    ∃ v, l.foldl take m o.key = some v ∧
      ∃ o' ∈ l, o'.key = o.key ∧ o'.time = o.time ∧ o'.Writes v := by
  obtain ⟨v, hv, hle⟩ := (covers_foldl (m := m) l).mpr (.inr ⟨o, ho, rfl, le_rfl⟩)
  refine ⟨v, hv, ?_⟩
  rcases eq_or_written_foldl l m o.key with hkeep | ⟨o', ho', hkey, v', hv', hwrites⟩
  · -- what was there is too early to cover the greatest offer
    exact absurd (hlater v (hkeep.symm.trans hv)) (not_lt.mpr hle)
  · obtain rfl : v = v' := Option.some.inj (hv.symm.trans hv')
    have htime : o.time ≤ o'.time := hwrites.stamp_eq ▸ hle
    exact ⟨o', ho', hkey, le_antisymm (hgreatest o' ho' hkey) htime, hwrites⟩

end Latest
