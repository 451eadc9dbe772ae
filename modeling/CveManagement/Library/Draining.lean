import CveManagement.Library.Ties
import CveManagement.Library.Trajectory

/-!
# Serving a list from its top

A round takes the first elements of a sorted list, so many at a time, and those of them that can be
served leave the list; the others stay, and stand where they were in the next round. Among ties the
order is free in every round.

An element that can be served waits for ever exactly if it can be kept behind a whole round of
elements that cannot: `Draining.drained_iff` says so of the labelled steps of any system that serves
its pending elements in rounds.
-/

namespace Draining

variable {α : Type} {le : α → α → Prop} {served : α → Bool} {size : ℕ} {l l' sorted : List α}
  {a : α}

/-! ### Rounds -/

/-- **What a round leaves of a list**, given the order of it. -/
def RoundBy (served : α → Bool) (size : ℕ) (sorted l l' : List α) : Prop :=
  ∃ taken : α → Bool, (∀ a ∈ l, taken a = true ↔ served a = true ∧ a ∈ sorted.take size) ∧
    l' = l.filter fun a => !taken a

/-- A round in some order. -/
def Round (le : α → α → Prop) (served : α → Bool) (size : ℕ) (l l' : List α) : Prop :=
  ∃ sorted, Ties.Sorting le l sorted ∧ RoundBy served size sorted l l'

theorem RoundBy.sublist (h : RoundBy served size sorted l l') : l'.Sublist l := by
  obtain ⟨taken, -, rfl⟩ := h
  exact List.filter_sublist

theorem RoundBy.mem_iff (h : RoundBy served size sorted l l') :
    a ∈ l' ↔ a ∈ l ∧ ¬(served a = true ∧ a ∈ sorted.take size) := by
  obtain ⟨taken, htaken, rfl⟩ := h
  rw [List.mem_filter]
  refine and_congr_right fun ha => ?_
  rw [← htaken a ha]
  simp

/-- **What cannot be served stays.** -/
theorem RoundBy.countP_eq (h : RoundBy served size sorted l l') {p : α → Bool}
    (hp : ∀ a, p a = true → served a = false) : l'.countP p = l.countP p := by
  obtain ⟨taken, htaken, rfl⟩ := h
  rw [List.countP_filter]
  refine List.countP_congr fun a ha => ?_
  constructor
  · intro hboth
    exact (Bool.and_eq_true_iff.mp hboth).1
  · intro hpa
    have hnot : ¬taken a = true := by
      rw [htaken a ha, hp a hpa]
      exact fun hno => Bool.false_ne_true hno.1
    rw [hpa, Bool.eq_false_iff.mpr hnot]
    rfl

/-! ### Who is served -/

section Served

variable [DecidableRel le]

/-- Those that cannot be served and can stand before an element. -/
def blockers (le : α → α → Prop) [DecidableRel le] (served : α → Bool) (l : List α) (a : α) : ℕ :=
  l.countP fun b => !served b && decide (le b a)

theorem RoundBy.blockers_eq (h : RoundBy served size sorted l l') (a : α) :
    blockers le served l' a = blockers le served l a :=
  h.countP_eq fun b hb => by simpa using (Bool.and_eq_true_iff.mp hb).1

/-- **A round serves some element**, if one that can be served has fewer blockers than it takes. -/
theorem exists_served (hsorted : Ties.Sorting le l sorted) (ha : a ∈ l) (hserved : served a = true)
    (hblockers : blockers le served l a < size) :
    ∃ b ∈ l, served b = true ∧ b ∈ sorted.take size := by
  by_cases htop : a ∈ sorted.take size
  · exact ⟨a, ha, hserved, htop⟩
  by_contra hnone
  -- the first elements all stand before this one, and cannot be served
  have hblock : ∀ b ∈ sorted.take size, (!served b && decide (le b a)) = true := by
    intro b hb
    have hb_mem : b ∈ l := hsorted.perm.mem_iff.mp (List.mem_of_mem_take hb)
    have hle : le b a := by
      have hrest : a ∈ sorted.drop size := by
        have hmem := hsorted.perm.mem_iff.mpr ha
        rw [← List.take_append_drop size sorted, List.mem_append] at hmem
        exact hmem.resolve_left htop
      have hpairwise := hsorted.pairwise
      rw [← List.take_append_drop size sorted, List.pairwise_append] at hpairwise
      exact hpairwise.2.2 b hb a hrest
    have hnot : served b = false := Bool.eq_false_iff.mpr fun hyes => hnone ⟨b, hb_mem, hyes, hb⟩
    rw [hnot, decide_eq_true hle]
    rfl
  have hfull : size ≤ sorted.length := by
    by_contra hshort
    rw [List.take_of_length_le (by omega)] at htop
    exact htop (hsorted.perm.mem_iff.mpr ha)
  have hcount : size ≤ blockers le served l a := by
    calc size = (sorted.take size).length := by rw [List.length_take, Nat.min_eq_left hfull]
      _ = (sorted.take size).countP fun b => !served b && decide (le b a) :=
        (List.countP_eq_length.mpr hblock).symm
      _ ≤ sorted.countP fun b => !served b && decide (le b a) :=
        (List.take_sublist size sorted).countP_le
      _ = blockers le served l a := hsorted.perm.countP_eq _
  omega

/-- Then fewer are left that can be served. -/
theorem Round.countP_lt (h : Round le served size l l') (ha : a ∈ l) (hserved : served a = true)
    (hblockers : blockers le served l a < size) : l'.countP served < l.countP served := by
  obtain ⟨sorted, hsorted, hround⟩ := h
  obtain ⟨b, hb, hb_served, hb_top⟩ := exists_served hsorted ha hserved hblockers
  have hgone : b ∉ l' := fun hb' => (hround.mem_iff.mp hb').2 ⟨hb_served, hb_top⟩
  obtain ⟨taken, -, rfl⟩ := hround
  rw [List.countP_eq_length_filter, List.countP_eq_length_filter]
  refine Nat.lt_of_le_of_ne (List.filter_sublist.filter served).length_le fun heq => hgone ?_
  have hsame := (List.filter_sublist.filter served).eq_of_length heq
  have hb_filter : b ∈ l.filter served := List.mem_filter.mpr ⟨hb, hb_served⟩
  rw [← hsame] at hb_filter
  exact (List.mem_filter.mp hb_filter).1

/-- **The blockers can stand before an element** that can be served, so many that a round does not
reach it. -/
theorem exists_sorting_behind [Std.Total le] [IsTrans α le] (hserved : served a = true)
    (hblockers : size ≤ blockers le served l a) :
    ∃ sorted, Ties.Sorting le l sorted ∧ a ∉ sorted.take size := by
  obtain ⟨sorted, hsorted, hfirst⟩ := Ties.exists_sorting_first le (fun b => !served b) l
  refine ⟨sorted, hsorted, fun htop => ?_⟩
  obtain ⟨pre, post, htake⟩ := List.append_of_mem htop
  have hsplit : sorted = pre ++ a :: (post ++ sorted.drop size) := by
    conv_lhs => rw [← List.take_append_drop size sorted, htake, List.append_assoc, List.cons_append]
  have hshort : pre.length < size := by
    have hlength := congrArg List.length htake
    rw [List.length_append, List.length_cons, List.length_take] at hlength
    omega
  rw [hsplit] at hsorted hfirst
  -- no blocker stands behind the element
  have hpost : (post ++ sorted.drop size).countP (fun b => !served b && decide (le b a)) = 0 := by
    refine List.countP_eq_zero.mpr fun b hb hboth => ?_
    obtain ⟨hb_not, hle⟩ := Bool.and_eq_true_iff.mp hboth
    have hself := (List.pairwise_cons.mp (List.pairwise_append.mp hfirst).2.1).1 b hb
      (of_decide_eq_true hle) hb_not
    rw [hserved] at hself
    exact Bool.false_ne_true hself
  have hcount : blockers le served l a ≤ pre.length := by
    rw [blockers, hsorted.countP_eq, hpost, hserved]
    exact List.countP_le_length
  omega

end Served

/-! ### Systems -/

section Systems

variable {σ β : Type} {step : σ → β → σ} {Available : σ → β → Prop} {Inv : σ → Prop}
  {pending : σ → List α} {s : σ}

/-- **A system serves its pending elements in rounds**: as long as what it needs is available, each
step is a round, and the order of the round can be any. -/
structure Serves (step : σ → β → σ) (Available : σ → β → Prop) (Inv : σ → Prop)
    (pending : σ → List α) (le : α → α → Prop) (served : α → Bool) (size : ℕ) : Prop where
  inv : ∀ s b, Inv s → Available s b → Inv (step s b)
  round : ∀ s b, Inv s → Available s b → Round le served size (pending s) (pending (step s b))
  free : ∀ s sorted, Inv s → Ties.Sorting le (pending s) sorted →
    ∃ b, Available s b ∧ RoundBy served size sorted (pending s) (pending (step s b))

theorem Serves.sublist (h : Serves step Available Inv pending le served size) {labels : List β}
    (hinv : Inv s) (hrun : Trajectory.AllSteps step Available s labels) :
    (pending (Trajectory.run step s labels)).Sublist (pending s) := by
  induction labels generalizing s with
  | nil => exact List.Sublist.refl _
  | cons b labels ih =>
    obtain ⟨havailable, hrest⟩ := Trajectory.allSteps_cons.mp hrun
    obtain ⟨sorted, -, hround⟩ := h.round s b hinv havailable
    exact (ih (h.inv s b hinv havailable) hrest).trans hround.sublist

variable [DecidableRel le]

/-- **As long as an element waits**, each step serves another one. -/
theorem Serves.countP_add_le (h : Serves step Available Inv pending le served size)
    {labels : List β} (hinv : Inv s) (hrun : Trajectory.AllSteps step Available s labels)
    (ha : a ∈ pending (Trajectory.run step s labels)) (hserved : served a = true)
    (hblockers : blockers le served (pending s) a < size) :
    (pending (Trajectory.run step s labels)).countP served + labels.length ≤
      (pending s).countP served := by
  induction labels generalizing s with
  | nil => exact Nat.le_refl _
  | cons b labels ih =>
    obtain ⟨havailable, hrest⟩ := Trajectory.allSteps_cons.mp hrun
    rw [Trajectory.run_cons] at ha ⊢
    have hinv' := h.inv s b hinv havailable
    obtain ⟨sorted, hsorted, hby⟩ := h.round s b hinv havailable
    have hlater := ih hinv' hrest ha (by rwa [hby.blockers_eq a])
    have ha_now : a ∈ pending s := hby.sublist.subset ((h.sublist hinv' hrest).subset ha)
    have hfewer := Round.countP_lt ⟨sorted, hsorted, hby⟩ ha_now hserved hblockers
    rw [List.length_cons]
    omega

/-- **What waits for ever.** -/
theorem Serves.exists_waiting (h : Serves step Available Inv pending le served size)
    [Std.Total le] [IsTrans α le] (hinv : Inv s) (ha : a ∈ pending s) (hserved : served a = true)
    (hblockers : size ≤ blockers le served (pending s) a) (n : ℕ) :
    ∃ labels : List β, labels.length = n ∧ Trajectory.AllSteps step Available s labels ∧
      a ∈ pending (Trajectory.run step s labels) := by
  induction n generalizing s with
  | zero => exact ⟨[], rfl, trivial, ha⟩
  | succ n ih =>
    obtain ⟨sorted, hsorted, hbehind⟩ := exists_sorting_behind hserved hblockers
    obtain ⟨b, havailable, hround⟩ := h.free s sorted hinv hsorted
    obtain ⟨labels, hlength, hrun, hwaits⟩ := ih (h.inv s b hinv havailable)
      (hround.mem_iff.mpr ⟨ha, fun htop => hbehind htop.2⟩) (by rwa [hround.blockers_eq a])
    exact ⟨b :: labels, congrArg (· + 1) hlength, ⟨havailable, hrun⟩, hwaits⟩

/-- **A number of steps serves all that is wanted**, whatever the orders are, exactly if each such
element has fewer blockers than a round takes. -/
theorem Serves.drained_iff (h : Serves step Available Inv pending le served size)
    [Std.Total le] [IsTrans α le] (wanted : α → Prop) (hinv : Inv s)
    (hwanted : ∀ a, wanted a → served a = true) :
    (∃ n, ∀ labels : List β, labels.length = n → Trajectory.AllSteps step Available s labels →
        ∀ a ∈ pending (Trajectory.run step s labels), ¬wanted a) ↔
      ∀ a ∈ pending s, wanted a → blockers le served (pending s) a < size := by
  constructor
  · rintro ⟨n, hn⟩ a ha hwant
    by_contra hblockers
    obtain ⟨labels, hlength, hrun, hwaits⟩ :=
      h.exists_waiting hinv ha (hwanted a hwant) (not_lt.mp hblockers) n
    exact hn labels hlength hrun a hwaits hwant
  · intro hblockers
    refine ⟨(pending s).countP served, fun labels hlength hrun a ha hwant => ?_⟩
    have hserved := hwanted a hwant
    have hleft : 0 < (pending (Trajectory.run step s labels)).countP served :=
      List.countP_pos_iff.mpr ⟨a, ha, hserved⟩
    have hcount := h.countP_add_le hinv hrun ha hserved
      (hblockers a ((h.sublist hinv hrun).subset ha) hwant)
    omega

end Systems

end Draining
