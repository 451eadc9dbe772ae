import CveManagement.Library.Select
import CveManagement.Library.Table
import Mathlib

/-!
# What an order leaves open

A list that is sorted by keys stands in one of several ways, as elements with the same key can stand
in any order among themselves: `Ties.Sorting` says that a list is one of them. Where an element
stands is known up to its ties – after `Ties.before` others at least, and among the first
`Ties.upTo` – and every place between is taken in some sorting.

If a list is read in pages of a fixed size, and each page is cut out of a sorting of its own, the
pages together are the list whatever the sortings are exactly if no tie reaches over the end of a
page (`Ties.pages_perm_iff`).
-/

namespace Ties

variable {α : Type} {le : α → α → Prop}

/-! ### Sortings -/

/-- **A sorting of a list.** -/
structure Sorting (le : α → α → Prop) (l sorted : List α) : Prop where
  perm : sorted.Perm l
  pairwise : sorted.Pairwise le

/-- Whatever order a query meets the rows in, it sorts them. -/
theorem sorting_insertionSort [DecidableRel le] [Std.Total le] [IsTrans α le] (order : RowOrder α)
    (l : List α) : Sorting le l ((order.arrange l).insertionSort le) :=
  ⟨(List.perm_insertionSort _ _).trans (order.perm l), List.pairwise_insertionSort le _⟩

section Comparison

variable {cmp : α → α → Ordering} [Std.TransCmp cmp]

instance total_isLE : Std.Total fun a b => (cmp a b).isLE = true :=
  ⟨fun a b => by
    rw [(Std.OrientedCmp.eq_swap : cmp b a = (cmp a b).swap)]
    cases cmp a b <;> simp⟩

instance trans_isLE : IsTrans α fun a b => (cmp a b).isLE = true :=
  ⟨fun _ _ _ => Std.TransCmp.isLE_trans⟩

end Comparison

/-- **Every sorting comes out of some order** of the rows. -/
theorem Sorting.exists_order [DecidableRel le] {l sorted : List α} (h : Sorting le l sorted) :
    ∃ order : RowOrder α, (order.arrange l).insertionSort le = sorted := by
  classical
  refine ⟨⟨fun rows => if rows = l then sorted else rows, fun rows => ?_⟩, ?_⟩
  · split_ifs with heq
    · rw [heq]
      exact h.perm
    · exact List.Perm.refl rows
  · change (if l = l then sorted else l).insertionSort le = sorted
    rw [if_pos rfl]
    exact h.pairwise.insertionSort_eq

/-- **Among those that are tied, some can stand first.** -/
theorem exists_sorting_first (le : α → α → Prop) [DecidableRel le] [Std.Total le] [IsTrans α le]
    (p : α → Bool) (l : List α) : ∃ sorted, Sorting le l sorted ∧
      sorted.Pairwise fun b c => le c b → p c = true → p b = true := by
  -- the order with the ties broken
  let refined : α → α → Prop := fun b c => le b c ∧ (le c b → p c = true → p b = true)
  have htotal : Std.Total refined := ⟨fun b c => by
    rcases Std.Total.total (r := le) b c with hbc | hcb
    · by_cases hcb : le c b
      · cases hb : p b with
        | true => exact .inl ⟨hbc, fun _ _ => hb⟩
        | false => exact .inr ⟨hcb, fun _ hno => by rw [hb] at hno; cases hno⟩
      · exact .inl ⟨hbc, fun h => absurd h hcb⟩
    · by_cases hbc : le b c
      · cases hb : p b with
        | true => exact .inl ⟨hbc, fun _ _ => hb⟩
        | false => exact .inr ⟨hcb, fun _ hno => by rw [hb] at hno; cases hno⟩
      · exact .inr ⟨hcb, fun h => absurd h hbc⟩⟩
  have htrans : IsTrans α refined := ⟨fun b c d hbc hcd =>
    ⟨IsTrans.trans b c d hbc.1 hcd.1, fun hdb hd =>
      hbc.2 (IsTrans.trans c d b hcd.1 hdb) (hcd.2 (IsTrans.trans d b c hdb hbc.1) hd)⟩⟩
  classical
  have hsorted := List.pairwise_insertionSort refined l
  exact ⟨l.insertionSort refined, ⟨List.perm_insertionSort _ _, hsorted.imp fun h => h.1⟩,
    hsorted.imp fun h => h.2⟩

/-! ### Places -/

section Places

variable [DecidableRel le]

/-- The elements that come before one in every sorting. -/
def before (le : α → α → Prop) [DecidableRel le] (l : List α) (a : α) : ℕ :=
  l.countP fun b => decide (¬le a b)

/-- Those that come before it, itself, and those that are tied with it. -/
def upTo (le : α → α → Prop) [DecidableRel le] (l : List α) (a : α) : ℕ :=
  l.countP fun b => decide (le b a)

variable {l pre post : List α} {a : α}

omit [DecidableRel le] in
/-- What stands before an element of a sorting, and what stands after it. -/
theorem Sorting.sides (h : Sorting le l (pre ++ a :: post)) :
    (∀ b ∈ pre, le b a) ∧ ∀ b ∈ post, le a b := by
  obtain ⟨-, hrest, hpre⟩ := List.pairwise_append.mp h.pairwise
  exact ⟨fun b hb => hpre b hb a List.mem_cons_self, (List.pairwise_cons.mp hrest).1⟩

omit [DecidableRel le] in
theorem Sorting.countP_eq (h : Sorting le l (pre ++ a :: post)) (p : α → Bool) :
    l.countP p = pre.countP p + ((if p a = true then 1 else 0) + post.countP p) := by
  rw [← h.perm.countP_eq, List.countP_append, List.countP_cons, Nat.add_comm (post.countP p)]

variable [Std.Total le]

theorem before_eq (h : Sorting le l (pre ++ a :: post)) :
    before le l a = pre.countP fun b => decide (¬le a b) := by
  have hself : le a a := (Std.Total.total (r := le) a a).elim id id
  have hpost : (post.countP fun b => decide (¬le a b)) = 0 :=
    List.countP_eq_zero.mpr fun b hb => by simpa using h.sides.2 b hb
  rw [before, h.countP_eq, hpost]
  simp [hself]

theorem upTo_eq (h : Sorting le l (pre ++ a :: post)) :
    upTo le l a = pre.length + 1 + post.countP fun b => decide (le b a) := by
  have hself : le a a := (Std.Total.total (r := le) a a).elim id id
  have hpre : (pre.countP fun b => decide (le b a)) = pre.length :=
    List.countP_eq_length.mpr fun b hb => by simpa using h.sides.1 b hb
  rw [upTo, h.countP_eq, hpre]
  simp only [hself, decide_true, if_true]
  omega

/-- **An element stands between its first place and its last.** -/
theorem Sorting.before_le (h : Sorting le l (pre ++ a :: post)) : before le l a ≤ pre.length := by
  rw [before_eq h]
  exact List.countP_le_length

theorem Sorting.lt_upTo (h : Sorting le l (pre ++ a :: post)) : pre.length < upTo le l a := by
  rw [upTo_eq h]
  omega

/-- **Some sorting has it at its first place.** -/
theorem exists_sorting_before (le : α → α → Prop) [DecidableRel le] [Std.Total le] [IsTrans α le]
    (ha : a ∈ l) : ∃ pre post, Sorting le l (pre ++ a :: post) ∧ pre.length = before le l a := by
  classical
  obtain ⟨sorted, hsorted, hfirst⟩ := exists_sorting_first le (fun b => decide (b = a)) l
  obtain ⟨pre, post, rfl, hpre⟩ :=
    List.eq_append_cons_of_mem (hsorted.perm.mem_iff.mpr ha)
  refine ⟨pre, post, hsorted, ?_⟩
  rw [before_eq hsorted]
  refine (List.countP_eq_length.mpr fun b hb => ?_).symm
  rw [decide_eq_true_eq]
  intro hle
  have heq := (List.pairwise_append.mp hfirst).2.2 b hb a List.mem_cons_self hle (by simp)
  exact hpre (of_decide_eq_true heq ▸ hb)

theorem before_lt [IsTrans α le] (ha : a ∈ l) : before le l a < l.length := by
  obtain ⟨pre, post, hsorting, hpre⟩ := exists_sorting_before le ha
  rw [← hpre, ← hsorting.perm.length_eq, List.length_append, List.length_cons]
  omega

/-- **And some has it at its last.** -/
theorem exists_sorting_upTo (le : α → α → Prop) [DecidableRel le] [Std.Total le] [IsTrans α le]
    (hl : l.Nodup) (ha : a ∈ l) :
    ∃ pre post, Sorting le l (pre ++ a :: post) ∧ pre.length + 1 = upTo le l a := by
  classical
  obtain ⟨sorted, hsorted, hfirst⟩ := exists_sorting_first le (fun b => decide (b ≠ a)) l
  obtain ⟨pre, post, rfl⟩ := List.append_of_mem (hsorted.perm.mem_iff.mpr ha)
  refine ⟨pre, post, hsorted, ?_⟩
  have hnot : a ∉ post :=
    (List.nodup_cons.mp (List.nodup_append.mp (hsorted.perm.nodup_iff.mpr hl)).2.1).1
  have hpost : (post.countP fun b => decide (le b a)) = 0 := by
    refine List.countP_eq_zero.mpr fun b hb => ?_
    rw [decide_eq_true_eq]
    intro hle
    have hne : b ≠ a := fun heq => hnot (heq ▸ hb)
    have hself := (List.pairwise_cons.mp (List.pairwise_append.mp hfirst).2.1).1 b hb hle
      (decide_eq_true hne)
    exact of_decide_eq_true hself rfl
  rw [upTo_eq hsorted, hpost, Nat.add_zero]

end Places

/-! ### Pages -/

section Pages

variable {l sorted : List α} {a : α} {k size : ℕ}

/-- A page, the first being page zero. -/
def page (size k : ℕ) (sorted : List α) : List α := (sorted.drop (k * size)).take size

/-- **The page of an element** is given by what stands before it. -/
theorem mem_page_iff (hsize : 0 < size) :
    a ∈ page size k sorted ↔ ∃ pre post, sorted = pre ++ a :: post ∧ pre.length / size = k := by
  constructor
  · intro ha
    obtain ⟨i, hi, rfl⟩ := List.mem_iff_getElem.mp ha
    have hlength : i < size ∧ k * size + i < sorted.length := by
      simp only [page, List.length_take, List.length_drop] at hi
      omega
    refine ⟨sorted.take (k * size + i), sorted.drop (k * size + i + 1), ?_, ?_⟩
    · simp only [page, List.getElem_take, List.getElem_drop]
      rw [← List.drop_eq_getElem_cons hlength.2, List.take_append_drop]
    · rw [List.length_take, Nat.min_eq_left hlength.2.le, Nat.add_comm,
        Nat.add_mul_div_right _ _ hsize, Nat.div_eq_of_lt hlength.1, Nat.zero_add]
  · rintro ⟨pre, post, rfl, rfl⟩
    have hmod := Nat.mod_lt pre.length hsize
    have hdiv := Nat.div_add_mod' pre.length size
    have hplace : (page size (pre.length / size) (pre ++ a :: post))[pre.length % size]? =
        some a := by
      rw [page, List.getElem?_take_of_lt hmod, List.getElem?_drop, hdiv]
      simp
    exact List.mem_of_getElem? hplace

theorem nodup_page (h : sorted.Nodup) : (page size k sorted).Nodup :=
  h.sublist ((List.take_sublist _ _).trans (List.drop_sublist _ _))

variable [DecidableRel le] [Std.Total le]

/-- **The page of an element is known** if its ties are on one page. -/
theorem Sorting.mem_page_iff (h : Sorting le l sorted) (hsize : 0 < size) (ha : a ∈ l)
    (htie : before le l a / size = (upTo le l a - 1) / size) :
    a ∈ page size k sorted ↔ before le l a / size = k := by
  have hwhere : ∀ pre post, sorted = pre ++ a :: post →
      pre.length / size = before le l a / size := by
    rintro pre post rfl
    have hlast := h.lt_upTo
    refine Nat.le_antisymm ?_ (Nat.div_le_div_right h.before_le)
    rw [htie]
    exact Nat.div_le_div_right (by omega)
  rw [Ties.mem_page_iff hsize]
  constructor
  · rintro ⟨pre, post, hsplit, hk⟩
    rw [← hk, hwhere pre post hsplit]
  · intro hk
    obtain ⟨pre, post, hsplit⟩ := List.append_of_mem (h.perm.mem_iff.mpr ha)
    exact ⟨pre, post, hsplit, (hwhere pre post hsplit).trans hk⟩

variable [IsTrans α le]

/-- An element whose ties reach over the end of a page can be missed by every page. -/
theorem exists_missed (hsize : 0 < size) (hl : l.Nodup) (ha : a ∈ l)
    (htie : before le l a / size ≠ (upTo le l a - 1) / size) :
    ∃ sortings : ℕ → List α, (∀ k, Sorting le l (sortings k)) ∧
      ∀ k, a ∉ page size k (sortings k) := by
  obtain ⟨pre, post, hfirst, hbefore⟩ := exists_sorting_before le ha
  obtain ⟨pre', post', hlast, hupTo⟩ := exists_sorting_upTo le hl ha
  -- in a list without duplicates, an element stands in one place
  have hplace : ∀ {pre post : List α}, Sorting le l (pre ++ a :: post) →
      ∀ k, a ∈ page size k (pre ++ a :: post) → pre.length / size = k := by
    intro pre post hsorting k hmem
    obtain ⟨pre₁, post₁, hsplit, hk⟩ := (Ties.mem_page_iff hsize).mp hmem
    have hnodup := List.nodup_append.mp (hsorting.perm.nodup_iff.mpr hl)
    have hpre : a ∉ pre := fun hin => hnodup.2.2 a hin a List.mem_cons_self rfl
    have hpost : a ∉ post := (List.nodup_cons.mp hnodup.2.1).1
    obtain ⟨hunique, -, -⟩ := (List.append_cons_inj_of_notMem hpre hpost).mp hsplit
    rw [← hk, hunique]
  refine ⟨fun k => if k = before le l a / size then pre' ++ a :: post' else pre ++ a :: post,
    fun k => ?_, fun k hmem => ?_⟩
  · dsimp only
    split_ifs
    · exact hlast
    · exact hfirst
  · dsimp only at hmem
    split_ifs at hmem with hk
    · refine htie ?_
      rw [← hk, ← hplace hlast k hmem]
      congr 1
      omega
    · refine hk ?_
      rw [← hplace hfirst k hmem, hbefore]

/-- **Pages of sortings are the list** if no tie reaches over the end of a page, and only then. -/
theorem pages_perm_iff {pages : ℕ} (hsize : 0 < size) (hl : l.Nodup)
    (hpages : l.length ≤ pages * size) :
    (∀ sortings : ℕ → List α, (∀ k, Sorting le l (sortings k)) →
        ((List.range pages).flatMap fun k => page size k (sortings k)).Perm l) ↔
      ∀ a ∈ l, before le l a / size = (upTo le l a - 1) / size := by
  constructor
  · intro h a ha
    by_contra htie
    obtain ⟨sortings, hsortings, hmissed⟩ := exists_missed hsize hl ha htie
    obtain ⟨k, -, hk⟩ := List.mem_flatMap.mp ((h sortings hsortings).mem_iff.mpr ha)
    exact hmissed k hk
  · intro h sortings hsortings
    have hmem : ∀ k, ∀ a, a ∈ page size k (sortings k) ↔ a ∈ l ∧ before le l a / size = k := by
      intro k a
      constructor
      · intro ha
        have hin : a ∈ l := (hsortings k).perm.mem_iff.mp
          (List.mem_of_mem_drop (List.mem_of_mem_take ha))
        exact ⟨hin, ((hsortings k).mem_page_iff hsize hin (h a hin)).mp ha⟩
      · rintro ⟨ha, hk⟩
        exact ((hsortings k).mem_page_iff hsize ha (h a ha)).mpr hk
    refine (List.perm_ext_iff_of_nodup ?_ hl).mpr fun a => ?_
    · refine List.nodup_flatMap.mpr
        ⟨fun k _ => nodup_page ((hsortings k).perm.nodup_iff.mpr hl), ?_⟩
      refine List.nodup_range.imp fun {k k'} hne a hk hk' => hne ?_
      rw [← ((hmem k a).mp hk).2, ← ((hmem k' a).mp hk').2]
    · rw [List.mem_flatMap]
      constructor
      · rintro ⟨k, -, hk⟩
        exact ((hmem k a).mp hk).1
      · intro ha
        refine ⟨before le l a / size, List.mem_range.mpr ?_, (hmem _ a).mpr ⟨ha, rfl⟩⟩
        rw [Nat.div_lt_iff_lt_mul hsize]
        exact (before_lt ha).trans_le hpages

/-- **So it is with the pages of a query**, whose order among ties is free in every request. -/
theorem orders_perm_iff {pages : ℕ} (hsize : 0 < size) (hl : l.Nodup)
    (hpages : l.length ≤ pages * size) :
    (∀ orders : ℕ → RowOrder α, ((List.range pages).flatMap fun k =>
        page size k (((orders k).arrange l).insertionSort le)).Perm l) ↔
      ∀ a ∈ l, before le l a / size = (upTo le l a - 1) / size := by
  rw [← pages_perm_iff hsize hl hpages]
  constructor
  · intro h sortings hsortings
    choose orders horders using fun k => (hsortings k).exists_order
    have hperm := h orders
    simpa only [horders] using hperm
  · intro h orders
    exact h _ fun k => sorting_insertionSort (orders k) l

end Pages

/-- Rows that differ in what is shown of them can be told apart. -/
theorem perm_map_iff {β : Type} {f : α → β} {l l' : List α} (hl : (l.map f).Nodup)
    (hsubset : l' ⊆ l) : (l'.map f).Perm (l.map f) ↔ l'.Perm l := by
  refine ⟨fun h => ?_, fun h => h.map f⟩
  refine (List.perm_ext_iff_of_nodup (h.nodup_iff.mpr hl).of_map hl.of_map).mpr fun a => ?_
  refine ⟨fun ha => hsubset ha, fun ha => ?_⟩
  obtain ⟨b, hb, heq⟩ := List.mem_map.mp (h.mem_iff.mpr (List.mem_map_of_mem ha))
  rwa [← List.inj_on_of_nodup_map hl (hsubset hb) ha heq]

end Ties
