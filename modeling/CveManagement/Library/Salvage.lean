import Mathlib.Data.List.Basic

/-!
# Computations that may fail, and loops that go on after some failures

A computation that can fail in several ways is often run by a loop that expects some of them: it
leaves out the item at hand and goes on, where any other failure ends the loop.

`Salvage.Only c x` says that the computation `x` fails in no way but those of `c`; it is checked
step by step (`Salvage.only_bind_iff`). `Salvage.collect f` is the loop, where `f` says of an item
that it is kept, left out, or ends the loop; it gets through exactly if no item ends it, and then
has kept what there is to keep (`Salvage.collect_eq_iff`).
-/

namespace Salvage

variable {α β γ ε : Type}

/-! ### Failures that are expected -/

/-- **The computation fails in no way but the expected ones.** -/
def Only (c : ε → Prop) (x : Except ε α) : Prop := ∀ e, x = .error e → c e

section Only

variable {c : ε → Prop} {x : Except ε α} {f : α → Except ε β} {a : α} {e : ε}

@[simp] theorem only_ok : Only c (.ok a : Except ε α) ↔ True :=
  iff_of_true (fun _ h => by cases h) trivial

@[simp] theorem only_pure : Only c (pure a : Except ε α) ↔ True := only_ok

@[simp] theorem only_error : Only c (.error e : Except ε α) ↔ c e :=
  ⟨fun h => h e rfl, fun h _ he => Except.error.inj he ▸ h⟩

/-- **One step after the other**: the second one matters where the first one gets through. -/
theorem only_bind_iff : Only c (x >>= f) ↔ Only c x ∧ ∀ a, x = .ok a → Only c (f a) := by
  cases x with
  | error e =>
    have hbind : (.error e >>= f : Except ε β) = .error e := rfl
    rw [hbind, only_error, only_error]
    exact (and_iff_left fun a ha => by cases ha).symm
  | ok a =>
    constructor
    · intro h
      refine ⟨only_ok.mpr trivial, fun a' ha' => ?_⟩
      obtain rfl := Except.ok.inj ha'
      exact h
    · rintro ⟨-, h⟩
      exact h a rfl

end Only

/-! ### The loop -/

/-- **The loop**: what it has kept, and the failure that has ended it. -/
def collect (f : α → Except ε (Option β)) : List α → List β × Option ε
  | [] => ([], none)
  | a :: l =>
    match f a with
    | .error e => ([], some e)
    | .ok none => collect f l
    | .ok (some b) => (b :: (collect f l).1, (collect f l).2)

section Collect

variable {f : α → Except ε (Option β)} {g : α → Option β} {l : List α}

/-- It gets through if no item ends it. -/
theorem collect_snd_eq_none_iff : (collect f l).2 = none ↔ ∀ a ∈ l, ∃ o, f a = .ok o := by
  induction l with
  | nil => simp [collect]
  | cons a l ih =>
    rw [collect, List.forall_mem_cons, ← ih]
    rcases f a with e | _ | b <;> simp

/-- Then it has kept what there is. -/
theorem collect_of_forall_ok (h : ∀ a ∈ l, f a = .ok (g a)) :
    collect f l = (l.filterMap g, none) := by
  induction l with
  | nil => rfl
  | cons a l ih =>
    obtain ⟨ha, hl⟩ := List.forall_mem_cons.mp h
    rw [collect, ha, ih hl]
    cases hg : g a with
    | none => rw [List.filterMap_cons_none hg]
    | some b => rw [List.filterMap_cons_some hg]

/-- **The loop gets through with what there is to keep exactly if no item ends it.** -/
theorem collect_eq_iff (hg : ∀ a o, f a = .ok o → o = g a) :
    collect f l = (l.filterMap g, none) ↔ ∀ a ∈ l, ∃ o, f a = .ok o := by
  rw [← collect_snd_eq_none_iff]
  constructor
  · intro h
    rw [h]
  · intro h
    refine collect_of_forall_ok fun a ha => ?_
    obtain ⟨o, ho⟩ := collect_snd_eq_none_iff.mp h a ha
    rw [ho, hg a o ho]

end Collect

end Salvage
