import CveManagement.Library.Slices
import Mathlib.Data.List.Induction

/-!
# Filling batches

A loop puts one element after the other into a batch, hands the batch out when it is full, and hands
out what is left in it when there are no more elements. In every round the batches handed out are
full and the open one is not (`Batching.filled_foldl`), and at the end they are the slices of the
list (`Batching.batches_eq_slices`).
-/

namespace Batching

variable {α : Type*}

/-- The batches that have been handed out, and the one that is being filled. -/
structure State (α : Type*) where
  done : List (List α)
  batch : List α

/-- Nothing has been handed out yet. -/
def State.start : State α := ⟨[], []⟩

/-- The batch is handed out, unless it is empty. -/
def flush (s : State α) : State α := if s.batch = [] then s else ⟨s.done ++ [s.batch], []⟩

/-- **One more element**, with which the batch may be full. -/
def feed (size : ℕ) (s : State α) (a : α) : State α :=
  if size ≤ (s.batch ++ [a]).length then flush { s with batch := s.batch ++ [a] }
  else { s with batch := s.batch ++ [a] }

/-- **The batches of a list.** -/
def batches (size : ℕ) (l : List α) : List (List α) :=
  (flush (l.foldl (feed size) .start)).done

/-- **Where the loop stands after a list**: all that is handed out is full, and the open batch has
room. -/
structure Filled (size : ℕ) (l : List α) (s : State α) : Prop where
  full : ∀ b ∈ s.done, b.length = size
  room : s.batch.length < size
  flatten_eq : s.done.flatten ++ s.batch = l

variable {size : ℕ} {l : List α} {s : State α}

theorem flush_of_ne_nil (h : s.batch ≠ []) : flush s = ⟨s.done ++ [s.batch], []⟩ := if_neg h

/-- **One element keeps the batches filled.** -/
theorem Filled.feed (h : Filled size l s) (a : α) :
    Filled size (l ++ [a]) (Batching.feed size s a) := by
  have hlength : (s.batch ++ [a]).length = s.batch.length + 1 := by
    rw [List.length_append, List.length_singleton]
  have hroom := h.room
  have hflatten : s.done.flatten ++ (s.batch ++ [a]) = l ++ [a] := by
    rw [← List.append_assoc, h.flatten_eq]
  rw [Batching.feed]
  split_ifs with hfull
  · -- the batch has become full, and a new one is open
    rw [flush_of_ne_nil (by simp)]
    refine ⟨fun b hb => ?_, Nat.zero_lt_of_lt hroom, ?_⟩
    · rcases List.mem_append.mp hb with hdone | hnew
      · exact h.full b hdone
      · rw [List.mem_singleton.mp hnew]
        exact Nat.le_antisymm (hlength.trans_le hroom) hfull
    · simpa using hflatten
  · exact ⟨h.full, Nat.lt_of_not_le hfull, hflatten⟩

/-- **Every round keeps the batches filled.** -/
theorem filled_foldl (h : 0 < size) (l : List α) :
    Filled size l (l.foldl (feed size) .start) := by
  induction l using List.reverseRecOn with
  | nil => exact ⟨fun b hb => absurd hb List.not_mem_nil, h, rfl⟩
  | append_singleton l a ih =>
    rw [List.foldl_append]
    exact ih.feed a

/-- With the open batch the batches handed out are the slices of the list. -/
theorem Filled.done_flush (h : Filled size l s) : (flush s).done = l.slices size := by
  have hpos : 0 < size := Nat.zero_lt_of_lt h.room
  rw [← h.flatten_eq, List.slices_flatten_append hpos h.full, flush]
  split_ifs with hempty
  · rw [hempty, List.slices_nil hpos, List.append_nil]
  · rw [List.slices_of_length_le hempty (Nat.le_of_lt h.room)]

/-- **The batches of a list are its slices.** -/
theorem batches_eq_slices (h : 0 < size) (l : List α) : batches size l = l.slices size :=
  (filled_foldl h l).done_flush

end Batching
