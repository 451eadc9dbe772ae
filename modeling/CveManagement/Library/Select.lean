import Mathlib

/-!
# Queries on lists of rows

The clauses of a `SELECT` as functions of lists: joins, groups, `ORDER BY` with nulls, and `LIMIT`
with `OFFSET`. A table is the list of its rows; the order in which a query returns rows that its
`ORDER BY` leaves tied is that of the list it sorts.
-/

namespace Select

variable {α β κ ρ : Type*}

/-! ### Joins -/

/-- `a JOIN b ON …`. -/
def innerJoin (on : α → β → Bool) (as : List α) (bs : List β) : List (α × β) :=
  as.flatMap fun a => (bs.filter (on a)).map (a, ·)

/-- **A join with exactly one partner for each row** keeps the rows of the left table. -/
theorem map_fst_innerJoin {on : α → β → Bool} {as : List α} {bs : List β}
    (h : ∀ a ∈ as, (bs.filter (on a)).length = 1) :
    (innerJoin on as bs).map Prod.fst = as := by
  induction as with
  | nil => rfl
  | cons a as ih =>
    obtain ⟨ha, has⟩ := List.forall_mem_cons.mp h
    obtain ⟨b, hb⟩ := List.length_eq_one_iff.mp ha
    have hrest : (innerJoin on as bs).map Prod.fst = as := ih has
    rw [innerJoin, List.flatMap_cons, hb, List.map_append]
    exact congrArg (a :: ·) hrest

/-- With at most one partner for each, some of them. -/
theorem map_fst_innerJoin_sublist {on : α → β → Bool} {as : List α} {bs : List β}
    (h : ∀ a ∈ as, (bs.filter (on a)).length ≤ 1) :
    ((innerJoin on as bs).map Prod.fst).Sublist as := by
  induction as with
  | nil => exact List.Sublist.refl _
  | cons a as ih =>
    obtain ⟨ha, has⟩ := List.forall_mem_cons.mp h
    have hrest : ((innerJoin on as bs).map Prod.fst).Sublist as := ih has
    rw [innerJoin, List.flatMap_cons, List.map_append]
    rcases Nat.le_one_iff_eq_zero_or_eq_one.mp ha with hnone | hone
    · rw [List.length_eq_zero_iff.mp hnone]
      exact hrest.cons a
    · obtain ⟨b, hb⟩ := List.length_eq_one_iff.mp hone
      rw [hb]
      exact hrest.cons_cons a

/-- **A condition that gives the key** of a row holds of one row at most. -/
theorem length_filter_le_one {κ : Type} {key : β → κ} {bs : List β} (hnodup : (bs.map key).Nodup)
    {p : β → Bool} {k : κ} (h : ∀ b, p b = true → key b = k) : (bs.filter p).length ≤ 1 := by
  have hsame : ∀ k' ∈ (bs.filter p).map key, k' = k := by
    intro k' hk'
    obtain ⟨b, hb, rfl⟩ := List.mem_map.mp hk'
    exact h b (List.mem_filter.mp hb).2
  have hfound : ((bs.filter p).map key).Nodup :=
    hnodup.sublist (List.filter_sublist.map key)
  rwa [List.eq_replicate_of_mem hsame, List.nodup_replicate, List.length_map] at hfound

/-- And of exactly one, if some row has the key. -/
theorem length_filter_eq_one {κ : Type} [DecidableEq κ] {key : β → κ} {bs : List β}
    (hnodup : (bs.map key).Nodup) {k : κ} (h : ∃ b ∈ bs, key b = k) :
    (bs.filter fun b => key b == k).length = 1 := by
  obtain ⟨b, hb, hk⟩ := h
  refine le_antisymm (length_filter_le_one hnodup fun b' hb' => eq_of_beq hb') ?_
  exact List.length_pos_of_mem (List.mem_filter.mpr ⟨hb, by simpa using hk⟩)

/-- The rows of a left join for one row of the left table: those that match, or one with nulls. -/
def leftRows (on : α → β → Bool) (bs : List β) (a : α) : List (α × Option β) :=
  let found := bs.filter (on a)
  if found.isEmpty then [(a, none)] else found.map fun b => (a, some b)

/-- `a LEFT JOIN b ON …`. -/
def leftJoin (on : α → β → Bool) (as : List α) (bs : List β) : List (α × Option β) :=
  as.flatMap (leftRows on bs)

section LeftJoin

variable {on : α → β → Bool} {as : List α} {bs : List β} {a : α} {row : α × Option β}

theorem fst_of_mem_leftRows (h : row ∈ leftRows on bs a) : row.1 = a := by
  unfold leftRows at h
  dsimp only at h
  split_ifs at h
  · rw [List.mem_singleton.mp h]
  · obtain ⟨b, -, rfl⟩ := List.mem_map.mp h
    rfl

/-- A row of a left join begins with a row of the left table. -/
theorem fst_mem_of_mem_leftJoin (h : row ∈ leftJoin on as bs) : row.1 ∈ as := by
  obtain ⟨a, ha, hrow⟩ := List.mem_flatMap.mp h
  rw [fst_of_mem_leftRows hrow]
  exact ha

/-- **A condition on the left table** can be put before the join. -/
theorem filter_leftJoin (p : α → Bool) (on : α → β → Bool) (as : List α) (bs : List β) :
    (leftJoin on as bs).filter (fun row => p row.1) = leftJoin on (as.filter p) bs := by
  unfold leftJoin
  induction as with
  | nil => rfl
  | cons a as ih =>
    rw [List.flatMap_cons, List.filter_append, ih, List.filter_cons]
    -- all rows of `a` are kept, or none
    split_ifs with hp
    · rw [List.flatMap_cons, List.filter_eq_self.mpr fun row hrow => ?_]
      rw [fst_of_mem_leftRows hrow]
      exact hp
    · rw [List.filter_eq_nil_iff.mpr fun row hrow => ?_, List.nil_append]
      rw [fst_of_mem_leftRows hrow]
      exact hp

end LeftJoin

/-! ### Groups -/

/-- `GROUP BY`: the groups, each with its key, in the order of their first rows. -/
def groupBy [DecidableEq κ] (key : ρ → κ) (rows : List ρ) : List (κ × List ρ) :=
  (rows.map key).dedup.map fun k => (k, rows.filter fun r => key r = k)

section GroupBy

variable {α ρ κ : Type} [DecidableEq κ]

/-- **Each row is in the group of its key**, and in no other one. -/
theorem sum_countP_of_nodup {key : ρ → κ} {keys : List κ} (hkeys : keys.Nodup) (p : ρ → Bool)
    {rows : List ρ} (hrows : ∀ r ∈ rows, key r ∈ keys) :
    (keys.map fun k => (rows.filter fun r => key r = k).countP p).sum = rows.countP p := by
  induction rows with
  | nil => simp
  | cons r rows ih =>
    rw [List.forall_mem_cons] at hrows
    have hone : (keys.map fun k => if key r = k then (if p r = true then 1 else 0) else 0).sum =
        if p r = true then 1 else 0 := by
      rw [← List.sum_toFinset _ hkeys, Finset.sum_ite_eq, if_pos (List.mem_toFinset.mpr hrows.1)]
    rw [List.countP_cons, ← ih hrows.2, ← hone, ← List.sum_map_add]
    refine congrArg List.sum (List.map_congr_left fun k _ => ?_)
    by_cases hk : key r = k
    · rw [List.filter_cons_of_pos (by simpa using hk), List.countP_cons, if_pos hk]
    · rw [List.filter_cons_of_neg (by simpa using hk), if_neg hk, Nat.add_zero]

/-- **The groups have the rows**: what is counted in each of them adds up. -/
theorem sum_countP_groupBy (key : ρ → κ) (p : ρ → Bool) (rows : List ρ) :
    ((groupBy key rows).map fun group => group.2.countP p).sum = rows.countP p := by
  rw [groupBy, List.map_map]
  exact sum_countP_of_nodup (List.nodup_dedup _) p fun r hr =>
    List.mem_dedup.mpr (List.mem_map_of_mem hr)

end GroupBy

/-! ### Orders -/

/-- `ORDER BY … DESC`. -/
def desc [LinearOrder κ] (a b : κ) : Ordering := compare b a

/-- `ORDER BY … DESC NULLS LAST`. -/
def descNullsLast [LinearOrder κ] : Option κ → Option κ → Ordering
  | some a, some b => compare b a
  | some _, none => .lt
  | none, some _ => .gt
  | none, none => .eq

/-- A comparison with the nulls last, `NULLS LAST`. -/
def nullsLast (cmp : κ → κ → Ordering) : Option κ → Option κ → Ordering
  | some a, some b => cmp a b
  | some _, none => .lt
  | none, some _ => .gt
  | none, none => .eq

theorem descNullsLast_eq [LinearOrder κ] :
    (descNullsLast : Option κ → Option κ → Ordering) = nullsLast desc := by
  funext a b
  cases a <;> cases b <;> rfl

/-! The comparisons of an `ORDER BY` are transitive. -/

instance transCmp_desc [LinearOrder κ] : Std.TransCmp (desc : κ → κ → Ordering) :=
  inferInstanceAs (Std.TransCmp fun a b : κ => compare b a)

instance transCmp_nullsLast {cmp : κ → κ → Ordering} [Std.TransCmp cmp] :
    Std.TransCmp (nullsLast cmp) where
  eq_swap {a b} := by
    cases a with
    | none => cases b <;> rfl
    | some a =>
      cases b with
      | none => rfl
      | some b => exact (Std.OrientedCmp.eq_swap : cmp a b = (cmp b a).swap)
  isLE_trans {a b c} hab hbc := by
    -- nothing but a null stands after a null
    cases c with
    | none => cases a <;> rfl
    | some c =>
      cases b with
      | none => cases hbc
      | some b =>
        cases a with
        | none => cases hab
        | some a =>
          have htrans : (cmp a c).isLE = true := Std.TransCmp.isLE_trans (b := b) hab hbc
          exact htrans

instance transCmp_descNullsLast [LinearOrder κ] :
    Std.TransCmp (descNullsLast : Option κ → Option κ → Ordering) := by
  rw [descNullsLast_eq]
  infer_instance

/-- A comparison of keys. -/
theorem transCmp_on {cmp : κ → κ → Ordering} [Std.TransCmp cmp] (key : ρ → κ) :
    Std.TransCmp fun a b => cmp (key a) (key b) where
  eq_swap := Std.OrientedCmp.eq_swap
  isLE_trans := Std.TransCmp.isLE_trans

/-- One key after the other. -/
theorem transCmp_then {cmp cmp' : ρ → ρ → Ordering} (h : Std.TransCmp cmp)
    (h' : Std.TransCmp cmp') : Std.TransCmp fun a b => (cmp a b).then (cmp' a b) :=
  inferInstanceAs (Std.TransCmp (compareLex cmp cmp'))

/-- `ORDER BY`; rows that are tied stay in their order. -/
def orderBy (cmp : ρ → ρ → Ordering) (rows : List ρ) : List ρ :=
  rows.insertionSort fun a b => (cmp a b).isLE = true

theorem perm_orderBy (cmp : ρ → ρ → Ordering) (rows : List ρ) : (orderBy cmp rows).Perm rows :=
  List.perm_insertionSort _ _

@[simp] theorem length_orderBy (cmp : ρ → ρ → Ordering) (rows : List ρ) :
    (orderBy cmp rows).length = rows.length := List.length_insertionSort _ _

/-- The rows are in order. -/
theorem pairwise_orderBy {cmp : ρ → ρ → Ordering} (h : Std.TransCmp cmp) (rows : List ρ) :
    (orderBy cmp rows).Pairwise fun a b => (cmp a b).isLE = true := by
  have htotal : Std.Total fun a b : ρ => (cmp a b).isLE = true := ⟨fun a b => by
    rw [show cmp b a = (cmp a b).swap from Std.OrientedCmp.eq_swap]
    cases cmp a b <;> simp⟩
  have htrans : IsTrans ρ fun a b : ρ => (cmp a b).isLE = true :=
    ⟨fun _ _ _ => Std.TransCmp.isLE_trans⟩
  exact List.pairwise_insertionSort _ _

/-! ### The first matches -/

/-- A loop over rows that makes something of each match, until there are enough. -/
def firstMatches {β : Type} (p : ρ → Bool) (f : ρ → β) (limit : ℕ) :
    List ρ → List β → List β
  | [], out => out
  | row :: rows, out =>
    if p row then
      if limit ≤ (out ++ [f row]).length then out ++ [f row]
      else firstMatches p f limit rows (out ++ [f row])
    else firstMatches p f limit rows out

/-- **What the loop returns**: the first matches. -/
theorem firstMatches_eq {β : Type} (p : ρ → Bool) (f : ρ → β) {limit : ℕ} (rows : List ρ)
    {out : List β} (h : out.length < limit) : firstMatches p f limit rows out =
      out ++ ((rows.filter p).take (limit - out.length)).map f := by
  induction rows generalizing out with
  | nil => simp [firstMatches]
  | cons row rows ih =>
    obtain ⟨n, hn⟩ := Nat.exists_eq_add_of_lt h
    have hsub : limit - out.length = n + 1 := by omega
    rw [firstMatches]
    split_ifs with hp hlimit
    · -- the last one
      have hzero : n = 0 := by
        rw [List.length_append, List.length_singleton] at hlimit
        omega
      rw [List.filter_cons_of_pos hp, hsub, hzero]
      rfl
    · rw [ih (not_le.mp hlimit), List.filter_cons_of_pos hp, hsub, List.take_succ_cons,
        List.map_cons, List.append_assoc, List.length_append, List.length_singleton]
      have hrest : limit - (out.length + 1) = n := by omega
      rw [hrest]
      rfl
    · rw [ih h, List.filter_cons_of_neg hp]

/-! ### Pages -/

/-- The arguments of `LIMIT` and `OFFSET` are numbers of type `bigint` that are not negative. -/
def ValidPage (limit offset : ℤ) : Prop :=
  0 ≤ limit ∧ limit < 2 ^ 63 ∧ 0 ≤ offset ∧ offset < 2 ^ 63

instance (limit offset : ℤ) : Decidable (ValidPage limit offset) :=
  inferInstanceAs (Decidable (_ ∧ _))

/-- `LIMIT … OFFSET …`. -/
def page (limit offset : ℤ) (rows : List ρ) : Except String (List ρ) :=
  if ValidPage limit offset then .ok ((rows.drop offset.toNat).take limit.toNat)
  else if limit < -2 ^ 63 ∨ 2 ^ 63 ≤ limit ∨ offset < -2 ^ 63 ∨ 2 ^ 63 ≤ offset then
    .error "value out of int64 range"
  else if offset < 0 then .error "OFFSET must not be negative"
  else .error "LIMIT must not be negative"

theorem page_of_valid {limit offset : ℤ} (h : ValidPage limit offset) (rows : List ρ) :
    page limit offset rows = .ok ((rows.drop offset.toNat).take limit.toNat) := if_pos h

theorem page_of_not_valid {limit offset : ℤ} (h : ¬ValidPage limit offset) (rows : List ρ) :
    ∃ e, page limit offset rows = .error e := by
  rw [page, if_neg h]
  split_ifs <;> exact ⟨_, rfl⟩

end Select
