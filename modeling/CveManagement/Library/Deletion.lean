import CveManagement.Library.Table

/-!
# Deletions, and the rows that refer to what is deleted

`DELETE … WHERE …` on a table with a serial key (`Table.delete`): the sequence goes on where it was.

A column of another table may refer to the key of a row. `Deletion.Refers` is the foreign key: each
row has the row that it refers to. A deletion keeps it if the rows that refer to a deleted one are
deleted as well (`Deletion.Refers.cascade`, which is `ON DELETE CASCADE`), or if there are none
(`Deletion.Refers.restrict`, which is how a foreign key without such a clause refuses the others).
-/

namespace Table

variable {ρ : Type} {key : ρ → ℕ}

/-- `DELETE … WHERE …`: the rows that satisfy `p` are gone. -/
def delete (t : Table ρ key) (p : ρ → Bool) : Table ρ key where
  rows := t.rows.filter fun r => !p r
  seq := t.seq
  nodup := (List.filter_sublist.map key).nodup t.nodup
  key_lt r hr := t.key_lt r (List.mem_filter.mp hr).1

variable {t : Table ρ key} {p : ρ → Bool} {r : ρ}

theorem mem_delete : r ∈ (t.delete p).rows ↔ r ∈ t.rows ∧ p r = false := by
  rw [delete, List.mem_filter, Bool.not_eq_true']

end Table

namespace Deletion

variable {α β κ : Type} {parents : List α} {children : List β} {key : α → κ} {ref : β → κ}
  {p : α → Bool}

/-- **A foreign key**: each child refers to the key of a parent. -/
def Refers (ref : β → κ) (key : α → κ) (children : List β) (parents : List α) : Prop :=
  ∀ c ∈ children, ∃ a ∈ parents, key a = ref c

variable [DecidableEq κ]

/-- The row refers to a parent that satisfies the condition. -/
def refersTo (ref : β → κ) (key : α → κ) (parents : List α) (p : α → Bool) (c : β) : Bool :=
  parents.any fun a => p a && key a == ref c

theorem refersTo_iff {c : β} :
    refersTo ref key parents p c = true ↔ ∃ a ∈ parents, p a = true ∧ key a = ref c := by
  simp [refersTo]

/-- A parent that is not deleted is still there for the rows that refer to it. -/
theorem exists_kept {c : β} (h : ∃ a ∈ parents, key a = ref c)
    (hc : refersTo ref key parents p c = false) :
    ∃ a ∈ parents.filter fun a => !p a, key a = ref c := by
  obtain ⟨a, ha, hkey⟩ := h
  refine ⟨a, List.mem_filter.mpr ⟨ha, ?_⟩, hkey⟩
  by_contra hp
  rw [Bool.not_eq_true', Bool.not_eq_false] at hp
  exact Bool.false_ne_true (hc.symm.trans (refersTo_iff.mpr ⟨a, ha, hp, hkey⟩))

/-- **A cascade keeps the foreign key.** -/
theorem Refers.cascade (h : Refers ref key children parents) :
    Refers ref key (children.filter fun c => !refersTo ref key parents p c)
      (parents.filter fun a => !p a) := by
  intro c hc
  obtain ⟨hmem, hkept⟩ := List.mem_filter.mp hc
  exact exists_kept (h c hmem) (Bool.not_eq_true' _ ▸ hkept)

/-- **A deletion to which no row refers keeps the foreign key.** -/
theorem Refers.restrict (h : Refers ref key children parents)
    (hnone : ∀ c ∈ children, refersTo ref key parents p c = false) :
    Refers ref key children (parents.filter fun a => !p a) :=
  fun c hc => exists_kept (h c hc) (hnone c hc)

end Deletion
