import CveManagement.Library.FormUrlencoded
import CveManagement.Library.LastWrite
import CveManagement.Payload.Python

/-!
# The filters of a dashboard in its URL

`useUrlState` of `src/lib/url-state.js` keeps the filters of a page in the query of its URL, and
nowhere else: what is set is written to the query of the URL that was rendered, and what is shown is
read from the one that the router has then. A value that is empty, or the default, is left out.

So the query is written and read once for every change. Nothing is lost on the way, whatever the
characters: over any run of changes and resets the page shows, under each key, what was set last
(`CveManagement.UrlState.state_run`), and what a query has under other keys stays.
-/

namespace CveManagement

/-! ### `URLSearchParams` -/

namespace SearchParams

/-- `params.get(k)`. -/
def get (params : List (Text × Text)) (k : Text) : Option Text :=
  (params.find? fun p => p.1 == k).map Prod.snd

/-- `params.delete(k)`. -/
def delete (params : List (Text × Text)) (k : Text) : List (Text × Text) :=
  params.filter fun p => !p.1 == k

/-- `params.set(k, v)`: the first pair with the name is replaced, and the others are removed. -/
def set (k v : Text) : List (Text × Text) → List (Text × Text)
  | [] => [(k, v)]
  | p :: params => if p.1 = k then (k, v) :: delete params k else p :: set k v params

section Params

variable {params : List (Text × Text)} {k k' v : Text}

theorem get_delete_self (params : List (Text × Text)) (k : Text) :
    get (delete params k) k = none := by
  refine Option.map_eq_none_iff.mpr (List.find?_eq_none.mpr fun p hp heq => ?_)
  have hne : (!p.1 == k) = true := (List.mem_filter.mp hp).2
  rw [heq] at hne
  cases hne

theorem get_delete_of_ne (h : k' ≠ k) : get (delete params k) k' = get params k' := by
  rw [get, get, delete, List.find?_filter]
  refine congrArg (Option.map Prod.snd) (congrArg (List.find? · params) (funext fun p => ?_))
  by_cases hp : p.1 = k'
  · simp [hp, h]
  · simp [hp]

@[simp] theorem get_set_self (params : List (Text × Text)) (k v : Text) :
    get (set k v params) k = some v := by
  induction params with
  | nil => simp [set, get]
  | cons p params ih =>
    rw [set]
    split_ifs with hp
    · simp [get]
    · rw [get, List.find?_cons, beq_eq_false_iff_ne.mpr hp]
      exact ih

theorem get_set_of_ne (h : k' ≠ k) : get (set k v params) k' = get params k' := by
  induction params with
  | nil => simp [set, get, Ne.symm h]
  | cons p params ih =>
    rw [set]
    split_ifs with hp
    · have hskip : (k == k') = false := beq_eq_false_iff_ne.mpr (Ne.symm h)
      rw [get, get, List.find?_cons, List.find?_cons, hp, hskip]
      exact get_delete_of_ne h
    · rw [get, get, List.find?_cons, List.find?_cons]
      cases p.1 == k' with
      | true => rfl
      | false => exact ih

end Params

end SearchParams

/-! ### The state of a page -/

/-- An object, of which a key has one value. -/
structure JsObject (α : Type) where
  entries : List (Text × α)
  nodup : (entries.map Prod.fst).Nodup

/-- `object[k]`. -/
def JsObject.get {α : Type} (object : JsObject α) (k : Text) : Option α :=
  (object.entries.find? fun e => e.1 == k).map Prod.snd

namespace UrlState

open SearchParams

/-- What is shown under a key with a default. -/
def shown (params : List (Text × Text)) (k default : Text) : Text :=
  match get params k with
  | some v => if v ≠ [] then v else default
  | none => default

/-- **The state**, of the pairs of a query. -/
def state (defaults : JsObject Text) (params : List (Text × Text)) : JsObject Text where
  entries := defaults.entries.map fun e => (e.1, shown params e.1 e.2)
  nodup := by
    rw [List.map_map]
    exact defaults.nodup

/-- A round of the loop of `setState`, for an entry of the patch; `none` is `null`. -/
def patchEntry (defaults : JsObject Text) (next : List (Text × Text)) (e : Text × Option Text) :
    List (Text × Text) :=
  match e.2 with
  | none => delete next e.1
  | some v => if v = [] ∨ some v = defaults.get e.1 then delete next e.1 else set e.1 v next

/-- What happens to the page. -/
inductive Change
  | setState (patch : JsObject (Option Text))
  | reset

/-- **The query after a change**, of a page that was rendered with a query. -/
def step (coder : FormUrlencoded.Coder Text) (defaults : JsObject Text) (query : List UInt8) :
    Change → List UInt8
  | .setState patch =>
    -- `new URLSearchParams(params.toString())`
    let params := FormUrlencoded.parse coder query
    let next := FormUrlencoded.parse coder (FormUrlencoded.serialize coder params)
    FormUrlencoded.serialize coder (patch.entries.foldl (patchEntry defaults) next)
  | .reset => []

/-- **`hasActiveState`.** -/
def hasActiveState (state defaults : JsObject Text) : Bool :=
  defaults.entries.any fun e => (state.get e.1).any fun cur => cur ≠ [] && cur ≠ e.2

/-! ### One change -/

variable {coder : FormUrlencoded.Coder Text} {defaults : JsObject Text}

theorem find?_of_nodup {α : Type} {entries : List (Text × α)} (h : (entries.map Prod.fst).Nodup)
    {e : Text × α} (he : e ∈ entries) : entries.find? (fun e' => e'.1 == e.1) = some e := by
  induction entries with
  | nil => cases he
  | cons first rest ih =>
    rw [List.map_cons, List.nodup_cons] at h
    rcases List.mem_cons.mp he with rfl | he
    · exact List.find?_cons_of_pos (by simp)
    · have hne : (first.1 == e.1) = false := by
        refine beq_eq_false_iff_ne.mpr fun heq => h.1 ?_
        rw [heq]
        exact List.mem_map_of_mem he
      rw [List.find?_cons, hne]
      exact ih h.2 he

theorem get_of_mem {α : Type} (object : JsObject α) {e : Text × α} (he : e ∈ object.entries) :
    object.get e.1 = some e.2 := by
  rw [JsObject.get, find?_of_nodup object.nodup he]
  rfl

/-- What a patch sets a key to, if it has the key: an empty value stands for the default. -/
def patched (default : Text) (v : Option Text) : Text :=
  match v with
  | some v => if v ≠ [] then v else default
  | none => default

section Entry

variable {k default : Text} {next : List (Text × Text)}

/-- **An entry of a patch** sets what is shown under its key, and nothing else. -/
theorem get_patchEntry_of_ne {e : Text × Option Text} (h : k ≠ e.1) :
    get (patchEntry defaults next e) k = get next k := by
  obtain ⟨k', v⟩ := e
  cases v with
  | none => exact get_delete_of_ne h
  | some v =>
    rw [patchEntry]
    dsimp only
    split_ifs
    · exact get_delete_of_ne h
    · exact get_set_of_ne h

@[inherit_doc get_patchEntry_of_ne]
theorem shown_patchEntry_self (hk : (k, default) ∈ defaults.entries) (v : Option Text) :
    shown (patchEntry defaults next (k, v)) k default = patched default v := by
  cases v with
  | none =>
    rw [shown, patchEntry, get_delete_self]
    rfl
  | some v =>
    rw [patchEntry, get_of_mem defaults hk]
    dsimp only
    by_cases hdrop : v = [] ∨ some v = some default
    · rw [if_pos hdrop, shown, get_delete_self, patched]
      rcases hdrop with rfl | heq
      · rfl
      · rw [Option.some.inj heq, ite_self]
    · rw [if_neg hdrop, shown, get_set_self]
      rfl

/-- **A patch** sets what is shown under the keys that it has, each of them once. -/
theorem shown_foldl_patchEntry (hk : (k, default) ∈ defaults.entries)
    {entries : List (Text × Option Text)} (hnodup : (entries.map Prod.fst).Nodup)
    (next : List (Text × Text)) :
    shown (entries.foldl (patchEntry defaults) next) k default =
      (((entries.find? fun e => e.1 == k).map Prod.snd).map (patched default)).getD
        (shown next k default) := by
  induction entries generalizing next with
  | nil => rfl
  | cons e entries ih =>
    rw [List.map_cons, List.nodup_cons] at hnodup
    rw [List.foldl_cons, ih hnodup.2, List.find?_cons]
    by_cases he : e.1 = k
    · -- no later entry has the key
      have hlater : entries.find? (fun e' => e'.1 == k) = none := by
        refine List.find?_eq_none.mpr fun e' he' heq => hnodup.1 ?_
        rw [he, ← eq_of_beq heq]
        exact List.mem_map_of_mem he'
      obtain ⟨k', v⟩ := e
      obtain rfl : k' = k := he
      rw [hlater, beq_self_eq_true]
      exact shown_patchEntry_self hk v
    · have hsame : shown (patchEntry defaults next e) k default = shown next k default := by
        rw [shown, shown, get_patchEntry_of_ne (Ne.symm he)]
      rw [beq_eq_false_iff_ne.mpr he, hsame]

/-- A patch leaves the other keys alone. -/
theorem get_foldl_patchEntry {entries : List (Text × Option Text)}
    (h : ∀ e ∈ entries, k ≠ e.1) (next : List (Text × Text)) :
    get (entries.foldl (patchEntry defaults) next) k = get next k := by
  induction entries generalizing next with
  | nil => rfl
  | cons e entries ih =>
    rw [List.forall_mem_cons] at h
    rw [List.foldl_cons, ih h.2, get_patchEntry_of_ne h.1]

end Entry

/-! ### Any run of changes -/

/-- What a change sets a key to, if it does. -/
def written (k default : Text) : Change → Option Text
  | .setState patch => (patch.get k).map (patched default)
  | .reset => some default

/-- The change does not concern the key. -/
def Spares (k : Text) : Change → Prop
  | .setState patch => ∀ e ∈ patch.entries, k ≠ e.1
  | .reset => False

/-- **What is shown after a change.** -/
theorem shown_step {k default : Text} (hk : (k, default) ∈ defaults.entries)
    (query : List UInt8) (change : Change) :
    shown (FormUrlencoded.parse coder (step coder defaults query change)) k default =
      (written k default change).getD (shown (FormUrlencoded.parse coder query) k default) := by
  cases change with
  | setState patch =>
    rw [step, FormUrlencoded.parse_serialize, FormUrlencoded.parse_serialize,
      shown_foldl_patchEntry hk patch.nodup]
    rfl
  | reset => rfl

/-- What is shown is empty only if the default is. -/
theorem shown_ne_nil {params : List (Text × Text)} {k default : Text}
    (h : shown params k default ≠ default) : shown params k default ≠ [] := by
  rw [shown] at h ⊢
  cases hget : get params k with
  | none =>
    rw [hget] at h
    exact absurd rfl h
  | some v =>
    rw [hget] at h
    dsimp only at h ⊢
    split_ifs at h ⊢ with hv
    · exact hv
    · exact absurd rfl h

/-- **A reset is offered** if the state is not the default. -/
theorem hasActiveState_iff (defaults : JsObject Text) (params : List (Text × Text)) :
    hasActiveState (state defaults params) defaults = true ↔
      (state defaults params).entries ≠ defaults.entries := by
  have hget : ∀ e ∈ defaults.entries,
      (state defaults params).get e.1 = some (shown params e.1 e.2) := fun e he =>
    get_of_mem (state defaults params) (e := (e.1, shown params e.1 e.2)) (List.mem_map_of_mem he)
  have hsame : (state defaults params).entries = defaults.entries ↔
      ∀ e ∈ defaults.entries, shown params e.1 e.2 = e.2 := by
    have hid : defaults.entries = defaults.entries.map id := (List.map_id _).symm
    rw [state]
    dsimp only
    conv_lhs => rhs; rw [hid]
    rw [List.map_inj_left]
    exact forall₂_congr fun e _ => by rw [Prod.ext_iff]; exact and_iff_right rfl
  rw [hasActiveState, List.any_eq_true, Ne, hsame]
  push Not
  refine exists_congr fun e => and_congr_right fun he => ?_
  rw [hget e he, Option.any_some, Bool.and_eq_true, decide_eq_true_eq, decide_eq_true_eq]
  exact ⟨And.right, fun h => ⟨shown_ne_nil h, h⟩⟩

/-- **The page shows what was set last**, over any run of changes, from any URL: under each of its
keys what the last change that concerns it has set – the default, where that is empty or was reset –
or else what the URL had there. It offers a reset if that is not the default everywhere; and what
the URL has under a key that no change concerns stays. -/
theorem state_run (coder : FormUrlencoded.Coder Text) (defaults : JsObject Text)
    (query : List UInt8) (changes : List Change) :
    (state defaults (FormUrlencoded.parse coder
        (Trajectory.run (step coder defaults) query changes))).entries =
      defaults.entries.map (fun e => (e.1, (Trajectory.lastWrite (written e.1 e.2) changes).getD
        (shown (FormUrlencoded.parse coder query) e.1 e.2))) ∧
      (hasActiveState (state defaults (FormUrlencoded.parse coder
          (Trajectory.run (step coder defaults) query changes))) defaults = true ↔
        (state defaults (FormUrlencoded.parse coder
          (Trajectory.run (step coder defaults) query changes))).entries ≠ defaults.entries) ∧
      ∀ k, (∀ change ∈ changes, Spares k change) →
        get (FormUrlencoded.parse coder (Trajectory.run (step coder defaults) query changes)) k =
          get (FormUrlencoded.parse coder query) k := by
  refine ⟨?_, hasActiveState_iff defaults _, fun k hspares => ?_⟩
  · refine List.map_congr_left fun e he => congrArg (Prod.mk e.1) ?_
    exact Trajectory.run_eq_lastWrite (fun query =>
      shown (FormUrlencoded.parse coder query) e.1 e.2) (shown_step he) query changes
  · induction changes generalizing query with
    | nil => rfl
    | cons change changes ih =>
      rw [List.forall_mem_cons] at hspares
      rw [Trajectory.run_cons, ih _ hspares.2]
      cases change with
      | setState patch =>
        rw [step, FormUrlencoded.parse_serialize, FormUrlencoded.parse_serialize,
          get_foldl_patchEntry hspares.1]
      | reset => exact hspares.1.elim

/-- A page with two filters. -/
def twoFilters : JsObject Text := ⟨[("keyword".toList, []), ("kev".toList, [])], by decide⟩

theorem state_run_twoFilters :
    (state twoFilters (FormUrlencoded.parse FormUrlencoded.utf8
        (Trajectory.run (step FormUrlencoded.utf8 twoFilters) []
          [.setState ⟨[("keyword".toList, some "50% & più".toList)], by decide⟩,
            .setState ⟨[("kev".toList, some "true".toList)], by decide⟩]))).entries =
      [("keyword".toList, "50% & più".toList), ("kev".toList, "true".toList)] :=
  (state_run FormUrlencoded.utf8 twoFilters [] _).1.trans (by decide)

end UrlState

end CveManagement
