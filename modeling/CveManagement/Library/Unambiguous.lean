import Mathlib.Data.List.DropRight
import Mathlib.Data.List.TakeWhile
import Mathlib.Logic.Function.Basic

/-!
# Writers whose texts can be told apart

A writer is unambiguous before a property of characters if two of its texts, each with something
behind it that is empty or begins with such a character, are the same only for the same value and
the same rest (`Written.Unambiguous`). Where the property is that of all characters, no text of the
writer begins another one.

What a format is made of is unambiguous for one of a few reasons: there is a reader
(`Written.Unambiguous.of_reader`), the texts stay within an alphabet
(`Written.Unambiguous.of_span`), or they are a list of such texts, with an end that none of them
begins with (`Written.Unambiguous.flatMap`).
-/

namespace Written

variable {α β γ : Type*} {p q : γ → Prop}

/-- Nothing comes, or something that begins with such a character. -/
def Follows (p : γ → Prop) (s : List γ) : Prop := ∀ c ∈ s.head?, p c

theorem follows_nil : Follows p [] := fun _ h => by cases h

theorem follows_cons {c : γ} {s : List γ} : Follows p (c :: s) ↔ p c :=
  ⟨fun h => h c rfl, fun h _ hc => Option.some.inj hc ▸ h⟩

/-- **A writer is unambiguous** before the characters with the property. -/
def Unambiguous (p : γ → Prop) (w : α → List γ) : Prop :=
  ∀ a b s t, Follows p s → Follows p t → w a ++ s = w b ++ t → a = b ∧ s = t

namespace Unambiguous

variable {w : α → List γ}

/-- **What can be read** is unambiguous. -/
theorem of_reader {read : List γ → Option (α × List γ)}
    (h : ∀ a s, Follows p s → read (w a ++ s) = some (a, s)) : Unambiguous p w := by
  intro a b s t hs ht hab
  have hread : some (a, s) = some (b, t) := by rw [← h a s hs, hab, h b t ht]
  exact Prod.mk.inj (Option.some.inj hread)

/-- **Texts of an alphabet**, before what is not in it. -/
theorem of_span (hw : Function.Injective w) (hmem : ∀ a, ∀ c ∈ w a, ¬ p c) : Unambiguous p w := by
  classical
  intro a b s t hs ht hab
  have htake : ∀ a s, Follows p s → (w a ++ s).takeWhile (fun c => decide (¬ p c)) = w a := by
    intro a s hs
    rw [List.takeWhile_append_of_pos fun c hc => decide_eq_true (hmem a c hc)]
    cases s with
    | nil => exact List.append_nil _
    | cons c s =>
      rw [List.takeWhile_cons_of_neg, List.append_nil]
      simpa using follows_cons.mp hs
  have heq : w a = w b := by rw [← htake a s hs, hab, htake b t ht]
  refine ⟨hw heq, ?_⟩
  rw [heq] at hab
  exact List.append_cancel_left hab

/-- **A list of texts**, with an end behind it that none of them begins with. -/
theorem flatMap {e : γ} (h : Unambiguous p w) (he : p e)
    (hw : ∀ a, ∃ c s, w a = c :: s ∧ p c ∧ c ≠ e) :
    Unambiguous (fun _ => True) fun l : List α => l.flatMap w ++ [e] := by
  have hfollows : ∀ (l : List α) (s : List γ), Follows p (l.flatMap w ++ (e :: s)) := by
    intro l s
    cases l with
    | nil => exact follows_cons.mpr he
    | cons a l =>
      obtain ⟨c, tail, htail, hc, -⟩ := hw a
      rw [List.flatMap_cons, htail]
      exact follows_cons.mpr hc
  have hcases : ∀ (l l' : List α) (s t : List γ),
      l.flatMap w ++ (e :: s) = l'.flatMap w ++ (e :: t) → l = l' ∧ s = t := by
    intro l
    induction l with
    | nil =>
      intro l' s t heq
      cases l' with
      | nil => exact ⟨rfl, (List.cons.inj heq).2⟩
      | cons b l' =>
        obtain ⟨c, tail, htail, -, hce⟩ := hw b
        rw [List.flatMap_cons, htail] at heq
        exact absurd (List.cons.inj heq).1.symm hce
    | cons a l ih =>
      intro l' s t heq
      cases l' with
      | nil =>
        obtain ⟨c, tail, htail, -, hce⟩ := hw a
        rw [List.flatMap_cons, htail] at heq
        exact absurd (List.cons.inj heq).1 hce
      | cons b l' =>
        rw [List.flatMap_cons, List.flatMap_cons, List.append_assoc, List.append_assoc] at heq
        obtain ⟨rfl, hrest⟩ := h a b _ _ (hfollows l s) (hfollows l' t) heq
        obtain ⟨rfl, hst⟩ := ih l' s t hrest
        exact ⟨rfl, hst⟩
  intro l l' s t _ _ heq
  refine hcases l l' s t ?_
  simpa only [List.append_assoc, List.singleton_append] using heq

end Unambiguous

end Written
