import Mathlib.Data.List.Basic
import Mathlib.Data.List.Chain
import Mathlib.Algebra.Order.Ring.Int

/-!
# Covering a stretch of time by windows

A window is a closed interval of integers. `Coverage.Within` says that a list of windows
starts where a stretch starts, ends where it ends and does not leave it;
`Coverage.Covered` that every point of the stretch lies in some window; and
`Coverage.GapFree` that a list covers everything between its own first and last point.

Windows that follow each other end to end – a tiling, `Coverage.Tiles` – cover the whole
(`Coverage.Tiles.spans`), and of two lists in a row the question whether they do is decided by
the hole between them (`Coverage.covered_append_iff`).
-/

namespace Coverage

/-- Every point from `a` to `b` lies in some window. -/
def Covered (ws : List (ℤ × ℤ)) (a b : ℤ) : Prop :=
  ∀ t, a ≤ t → t ≤ b → ∃ w ∈ ws, w.1 ≤ t ∧ t ≤ w.2

/-- **The windows leave no gap** between the start of the first and the end of the last. -/
def GapFree (ws : List (ℤ × ℤ)) : Prop :=
  ∀ first last, ws.head? = some first → ws.getLast? = some last → Covered ws first.1 last.2

/-- **The windows stretch from `a` to `b`.** -/
structure Within (ws : List (ℤ × ℤ)) (a b : ℤ) : Prop where
  starts : ∃ w, ws.head? = some w ∧ w.1 = a
  ends : ∃ w, ws.getLast? = some w ∧ w.2 = b
  inside : ∀ w ∈ ws, a ≤ w.1 ∧ w.1 ≤ w.2 ∧ w.2 ≤ b

/-- **The windows stretch from `a` to `b`, and cover what is between.** -/
structure Spans (ws : List (ℤ × ℤ)) (a b : ℤ) : Prop extends Within ws a b where
  covered : Covered ws a b

variable {ws ws' : List (ℤ × ℤ)} {a b c d : ℤ}

theorem Within.le (h : Within ws a b) : a ≤ b := by
  obtain ⟨w, hw, rfl⟩ := h.starts
  have hin := h.inside w (List.mem_of_mem_head? hw)
  omega

/-- A stretch is free of gaps when it is covered. -/
theorem Within.gapFree_iff (h : Within ws a b) : GapFree ws ↔ Covered ws a b := by
  obtain ⟨first, hfirst, rfl⟩ := h.starts
  obtain ⟨last, hlast, rfl⟩ := h.ends
  constructor
  · intro hgap
    exact hgap first last hfirst hlast
  · intro hcov first' last' hfirst' hlast'
    obtain rfl := Option.some.inj (hfirst.symm.trans hfirst')
    obtain rfl := Option.some.inj (hlast.symm.trans hlast')
    exact hcov

/-- One stretch after another. -/
theorem Within.append (h : Within ws a b) (h' : Within ws' c d) (hbc : b ≤ c) :
    Within (ws ++ ws') a d where
  starts := by
    obtain ⟨w, hw, hwa⟩ := h.starts
    exact ⟨w, by rw [List.head?_append, hw]; rfl, hwa⟩
  ends := by
    obtain ⟨w, hw, hwd⟩ := h'.ends
    exact ⟨w, by rw [List.getLast?_append, hw]; rfl, hwd⟩
  inside w hw := by
    have hab := h.le
    have hcd := h'.le
    rcases List.mem_append.mp hw with hw | hw
    · have hin := h.inside w hw
      omega
    · have hin := h'.inside w hw
      omega

/-- One window. -/
theorem spans_singleton (hab : a ≤ b) : Spans [(a, b)] a b where
  starts := ⟨(a, b), rfl, rfl⟩
  ends := ⟨(a, b), rfl, rfl⟩
  inside w hw := by
    obtain rfl := List.mem_singleton.mp hw
    exact ⟨le_refl a, hab, le_refl b⟩
  covered t ha hb := ⟨(a, b), List.mem_singleton_self _, ha, hb⟩

/-- **One more window in front**, ending where the others start. -/
theorem spans_cons (hab : a ≤ b) (h : Spans ws b c) : Spans ((a, b) :: ws) a c where
  toWithin := (spans_singleton hab).toWithin.append h.toWithin (le_refl b)
  covered t ha hc := by
    rcases le_total t b with hb | hb
    · exact ⟨(a, b), List.mem_cons_self, ha, hb⟩
    · obtain ⟨w, hw, hin⟩ := h.covered t hb hc
      exact ⟨w, List.mem_cons_of_mem _ hw, hin⟩

/-- **The windows tile a stretch**: each starts where the one before it ends. -/
structure Tiles (ws : List (ℤ × ℤ)) (a b : ℤ) : Prop where
  starts : ∃ w, ws.head? = some w ∧ w.1 = a
  ends : ∃ w, ws.getLast? = some w ∧ w.2 = b
  ordered : ∀ w ∈ ws, w.1 ≤ w.2
  contiguous : ws.IsChain fun w w' => w.2 = w'.1

/-- One window is a tiling. -/
theorem tiles_singleton (hab : a ≤ b) : Tiles [(a, b)] a b where
  starts := ⟨(a, b), rfl, rfl⟩
  ends := ⟨(a, b), rfl, rfl⟩
  ordered w hw := by
    obtain rfl := List.mem_singleton.mp hw
    exact hab
  contiguous := List.isChain_singleton _

/-- One more window in front. -/
theorem tiles_cons (hab : a ≤ b) (h : Tiles ws b c) : Tiles ((a, b) :: ws) a c where
  starts := ⟨(a, b), rfl, rfl⟩
  ends := by
    obtain ⟨w, hw, hend⟩ := h.ends
    exact ⟨w, by rw [List.getLast?_cons, hw]; rfl, hend⟩
  ordered := List.forall_mem_cons.mpr ⟨hab, h.ordered⟩
  contiguous := by
    refine List.isChain_cons.mpr ⟨fun w hw => ?_, h.contiguous⟩
    obtain ⟨first, hfirst, hstart⟩ := h.starts
    obtain rfl := Option.some.inj (hfirst.symm.trans hw)
    exact hstart.symm

/-- **A tiling covers the stretch.** -/
theorem Tiles.spans (h : Tiles ws a b) : Spans ws a b := by
  induction ws generalizing a with
  | nil =>
    obtain ⟨w, hw, -⟩ := h.starts
    cases hw
  | cons w ws ih =>
    obtain ⟨first, hfirst, rfl⟩ := h.starts
    obtain rfl := Option.some.inj hfirst
    obtain ⟨hle, hordered⟩ := List.forall_mem_cons.mp h.ordered
    obtain ⟨last, hlast, hend⟩ := h.ends
    cases ws with
    | nil =>
      obtain rfl := Option.some.inj hlast
      rw [← hend]
      exact spans_singleton hle
    | cons w' ws =>
      obtain ⟨hnext, hchain⟩ := List.isChain_cons_cons.mp h.contiguous
      rw [List.getLast?_cons_cons] at hlast
      exact spans_cons hle (ih ⟨⟨w', rfl, hnext.symm⟩, ⟨last, hlast, hend⟩, hordered, hchain⟩)

/-- **Two lists of windows in a row cover the whole exactly when there is no hole between
them** and the second covers its own part. -/
theorem covered_append_iff (h : Spans ws a b) (h' : Within ws' c d) (hbc : b ≤ c) :
    Covered (ws ++ ws') a d ↔ c ≤ b + 1 ∧ Covered ws' c d := by
  have hab := h.le
  have hcd := h'.le
  constructor
  · intro hcov
    refine ⟨?_, fun t ht htd => ?_⟩
    · by_contra hhole
      -- the point after `b` is in no window
      obtain ⟨w, hw, hlo, hhi⟩ := hcov (b + 1) (by omega) (by omega)
      rcases List.mem_append.mp hw with hw | hw
      · have hin := h.inside w hw
        omega
      · have hin := h'.inside w hw
        omega
    · obtain ⟨w, hw, hlo, hhi⟩ := hcov t (by omega) htd
      rcases List.mem_append.mp hw with hw | hw
      · -- only the point `c = b` itself can lie in a window of the first list
        have hin := h.inside w hw
        obtain ⟨w', hw', hstart⟩ := h'.starts
        have hmem := List.mem_of_mem_head? hw'
        have hin' := h'.inside w' hmem
        exact ⟨w', hmem, by omega, by omega⟩
      · exact ⟨w, hw, hlo, hhi⟩
  · rintro ⟨hhole, hcov⟩ t ht htd
    rcases lt_or_ge t c with htc | htc
    · obtain ⟨w, hw, hin⟩ := h.covered t ht (by omega)
      exact ⟨w, List.mem_append_left _ hw, hin⟩
    · obtain ⟨w, hw, hin⟩ := hcov t htc htd
      exact ⟨w, List.mem_append_right _ hw, hin⟩

end Coverage
