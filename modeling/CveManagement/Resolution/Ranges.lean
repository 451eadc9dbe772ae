import CveManagement.Resolution.Ordering
import Mathlib

/-!
# Version ranges

`is_version_in_range` looks at the bounds of an entry in a fixed order, and only compares the
version with them. So for a version that is known it is a function of the sequence of the version
(`CveManagement.isVersionInRange_eq_rangeAt`), and what an entry has in its range is a convex set
of sequences (`CveManagement.ordConnected_rangeAt`).
-/

namespace CveManagement

open Comparison

/-! ### Versions that are stripped -/

section Strip

variable (py : PyText)

/-- A version is stripped before it is parsed. -/
theorem parseVersion_strip (v : Text) : parseVersion py (py.strip v) = parseVersion py v := by
  have hlower : py.lower [] = [] := py.lower_ascii [] (by simp)
  unfold parseVersion
  rw [py.strip_strip]
  by_cases hempty : py.strip v = []
  · rw [hempty, hlower]
    simp
  · have hne : v ≠ [] := by
      rintro rfl
      exact hempty rfl
    have hstripped : ¬(py.strip v).isEmpty = true := fun h => hempty (List.isEmpty_iff.mp h)
    have hgiven : ¬v.isEmpty = true := fun h => hne (List.isEmpty_iff.mp h)
    rw [if_neg hstripped, if_neg hgiven]

end Strip

/-! ### The range test, for any comparison -/

section RangeBy

/-- A member of an entry, `None` if it has none. -/
def entryField (members : List (String × Json)) (key : String) : Json :=
  (Json.member? key members).getD .null

/-- A bound, if there is one, with the comparisons that are on its wrong side. -/
def boundOf (j : Json) (wrong : ℤ → Bool) : List (Json × (ℤ → Bool)) :=
  ((bound j).map (·, wrong)).toList

/-- **The bounds of an entry**, in the order they are looked at. -/
def entryBounds (members : List (String × Json)) : List (Json × (ℤ → Bool)) :=
  let field := entryField members
  boundOf ((field "versionStartIncluding").or (field "versionStart")) (· < 0) ++
    (boundOf (field "versionStartExcluding") (· ≤ 0) ++
      (boundOf (field "versionEndIncluding") (0 < ·) ++
        boundOf ((field "versionEndExcluding").or (field "versionEnd")) (0 ≤ ·)))

/-- The version in the name of an entry, if it is one to compare with. -/
def entryVersion (members : List (String × Json)) : Except PyError (Option Text) := do
  let name := (entryField members "criteria").or (entryField members "cpe")
  let cpeVersion ← if name.truthy then extractCpeVersion <$> name.text else pure none
  return cpeVersion.filter fun v => !(v.isEmpty || v == ['*'] || v == ['-'])

variable (compare : Text → Except PyError ℤ)

/-- No bound has the comparison on its wrong side; they are looked at until one has. -/
def withinBounds : List (Json × (ℤ → Bool)) → Except PyError Bool
  | [] => .ok true
  | (j, wrong) :: bounds => do
    if wrong (← compare (← j.text)) then return false else withinBounds bounds

/-- **The range test**, by what the version compares to: the bounds, or if there are none the
version in the name. -/
def rangeBy (members : List (String × Json)) : Except PyError Bool :=
  if (entryBounds members).isEmpty then do
    match ← entryVersion members with
    | none => return true
    | some v => return (← compare v) == 0
  else withinBounds compare (entryBounds members)

end RangeBy

section Spec

variable {py : PyText} {v : Text} {parsed : Option (List VersionComponent)}

/-- One bound of the range test. -/
theorem violates_bind (hparse : parseVersion py v = .ok parsed) (j : Json) (wrong : ℤ → Bool)
    (bounds : List (Json × (ℤ → Bool))) :
    (do if ← violates py v (bound j) wrong then return false
        else withinBounds (compareVersions py v) bounds) =
      withinBounds (compareVersions py v) (boundOf j wrong ++ bounds) := by
  cases hbound : bound j with
  | none => simp [boundOf, hbound, violates, bind, Except.bind]
  | some j =>
    simp only [boundOf, hbound, violates, hparse, bind, Except.bind, Option.map_some,
      Option.toList_some, List.singleton_append, withinBounds]
    cases j.text with
    | error e => rfl
    | ok t =>
      dsimp only
      cases compareVersions py v t <;> rfl

/-- The last one. -/
theorem violates_not (hparse : parseVersion py v = .ok parsed) (j : Json) (wrong : ℤ → Bool) :
    (do return !(← violates py v (bound j) wrong)) =
      withinBounds (compareVersions py v) (boundOf j wrong) := by
  rw [← List.append_nil (boundOf j wrong), ← violates_bind hparse]
  cases violates py v (bound j) wrong with
  | error e => rfl
  | ok bad => cases bad <;> rfl

theorem boundOf_eq_nil_iff {j : Json} {wrong : ℤ → Bool} :
    boundOf j wrong = [] ↔ bound j = none := by
  rw [boundOf, Option.toList_eq_nil_iff, Option.map_eq_none_iff]

/-- **What `is_version_in_range` is** for a version that can be parsed. -/
theorem isVersionInRange_obj (hparse : parseVersion py v = .ok parsed) (hne : py.strip v ≠ [])
    (hstar : py.strip v ≠ ['*']) (members : List (String × Json)) :
    isVersionInRange py v (.obj members) =
      rangeBy (compareVersions py (py.strip v)) members := by
  have hparse' : parseVersion py (py.strip v) = .ok parsed := (parseVersion_strip py v).trans hparse
  have hget : ∀ key, (Json.obj members).get key = .ok (entryField members key) := fun _ => rfl
  have hok : ∀ {α β : Type} (a : α) (f : α → Except PyError β), (Except.ok a >>= f) = f a :=
    fun _ _ => rfl
  have hwild : ¬((py.strip v).isEmpty || py.strip v == ['*']) = true := by
    simp [hne, hstar]
  unfold isVersionInRange rangeBy entryBounds entryVersion
  simp only [hget, hok]
  rw [if_neg hwild, ← violates_bind hparse', ← violates_bind hparse', ← violates_bind hparse',
    ← violates_not hparse']
  refine if_congr ?_ ?_ rfl
  · simp only [List.isEmpty_iff, List.append_eq_nil_iff, boundOf_eq_nil_iff, Bool.and_eq_true,
      Option.isNone_iff_eq_none, and_assoc]
  · -- no bounds: the version in the name
    cases hname : ((entryField members "criteria").or (entryField members "cpe")).truthy with
    | false => rfl
    | true =>
      cases ((entryField members "criteria").or (entryField members "cpe")).text with
      | error e => rfl
      | ok name =>
        cases hversion : extractCpeVersion name with
        | none => simp [bind, Except.bind, pure, Except.pure, Functor.map, Except.map, hversion]
        | some version =>
          cases hwild : (version.isEmpty || version == ['*'] || version == ['-']) <;>
            simp [bind, Except.bind, pure, Except.pure, Functor.map, Except.map, hversion, hwild,
              Option.filter, -Bool.not_or]

end Spec

/-! ### Ranges of sequences -/

section Sequences

variable (py : PyText)

/-- A known version is compared by its sequence, and equals every version that is not known. -/
noncomputable def compareAt (s : Lex (ℕ → ℤ ×ₗ ℕ ×ₗ Text)) (v : Text) : Except PyError ℤ := do
  match ← parseVersion py v with
  | some cs => return sgn s (versionSequence cs)
  | none => return 0

/-- **The range of an entry**, on sequences. -/
noncomputable def rangeAt (entry : Json) (s : Lex (ℕ → ℤ ×ₗ ℕ ×ₗ Text)) : Except PyError Bool :=
  match entry with
  | .obj members => rangeBy (compareAt py s) members
  | _ => .error .attributeError

variable {py} {v : Text} {cs : List VersionComponent} {s : Lex (ℕ → ℤ ×ₗ ℕ ×ₗ Text)}

theorem compareVersions_eq_compareAt (h : parseVersion py v = .ok (some cs)) :
    compareVersions py v = compareAt py (versionSequence cs) := by
  funext w
  simp only [compareVersions, compareAt, h, bind, Except.bind]
  cases parseVersion py w with
  | error e => rfl
  | ok parsed =>
    cases parsed with
    | none => rfl
    | some cw => simp [compareLists_eq_sgn]

/-- **The range test is a function of the sequence.** -/
theorem isVersionInRange_eq_rangeAt (h : parseVersion py v = .ok (some cs)) (entry : Json) :
    isVersionInRange py v entry = rangeAt py entry (versionSequence cs) := by
  obtain ⟨hne, hwild, -⟩ := parseVersion_eq_some_iff.mp h
  have hstar : py.strip v ≠ ['*'] := by
    intro hstar
    have hlower : py.lower ['*'] = ['*'] :=
      py.lower_ascii ['*'] (List.forall_mem_singleton.mpr (by decide))
    rw [hstar, hlower] at hwild
    exact hwild (by decide)
  cases entry with
  | obj members =>
    rw [isVersionInRange_obj h hne hstar, rangeAt,
      compareVersions_eq_compareAt ((parseVersion_strip py v).trans h)]
  | _ =>
    have hwild : ¬((py.strip v).isEmpty || py.strip v == ['*']) = true := by
      simp [hne, hstar]
    unfold isVersionInRange
    rw [if_neg hwild]
    rfl

/-- **The comparison with one version is monotone**: it lands in a convex set on a convex set of
sequences. -/
theorem ordConnected_compareAt (w : Text) {Z : Set ℤ} (hZ : Z.OrdConnected) :
    {s | ∃ r ∈ Z, compareAt py s w = .ok r}.OrdConnected := by
  cases hw : parseVersion py w with
  | error e =>
    convert Set.ordConnected_empty
    simp [compareAt, hw, bind, Except.bind]
  | ok parsed =>
    cases parsed with
    | none =>
      by_cases hzero : 0 ∈ Z
      · convert Set.ordConnected_univ
        simp [compareAt, hw, bind, Except.bind, pure, Except.pure, hzero]
      · convert Set.ordConnected_empty
        simp [compareAt, hw, bind, Except.bind, pure, Except.pure, hzero]
    | some cs =>
      convert hZ.preimage_mono (sgn_monotone (versionSequence cs)) using 1
      ext s
      simp [compareAt, hw, bind, Except.bind, pure, Except.pure]

/-- Bounds whose good sides are convex are kept by a convex set. -/
theorem ordConnected_withinBounds {bounds : List (Json × (ℤ → Bool))}
    (h : ∀ b ∈ bounds, {r | b.2 r = false}.OrdConnected) :
    {s | withinBounds (compareAt py s) bounds = .ok true}.OrdConnected := by
  induction bounds with
  | nil =>
    convert Set.ordConnected_univ
    simp [withinBounds]
  | cons b bounds ih =>
    obtain ⟨hb, hrest⟩ := List.forall_mem_cons.mp h
    obtain ⟨j, wrong⟩ := b
    cases hj : j.text with
    | error e =>
      convert Set.ordConnected_empty
      simp [withinBounds, hj, bind, Except.bind]
    | ok w =>
      convert (@ordConnected_compareAt py w _ hb).inter (ih hrest) using 1
      ext s
      cases hcompare : compareAt py s w with
      | error e => simp [withinBounds, hj, hcompare, bind, Except.bind]
      | ok r =>
        cases hwrong : wrong r <;>
          simp [withinBounds, hj, hcompare, hwrong, bind, Except.bind, pure, Except.pure]

/-- The bounds of an entry are such. -/
theorem ordConnected_entryBounds (members : List (String × Json)) :
    ∀ b ∈ entryBounds members, {r | b.2 r = false}.OrdConnected := by
  have hboundOf : ∀ (j : Json) (wrong : ℤ → Bool), {r | wrong r = false}.OrdConnected →
      ∀ b ∈ boundOf j wrong, {r | b.2 r = false}.OrdConnected := by
    intro j wrong hwrong b hb
    obtain ⟨j', -, rfl⟩ := Option.map_eq_some_iff.mp (Option.mem_toList.mp hb)
    exact hwrong
  intro b hb
  simp only [entryBounds, List.mem_append] at hb
  rcases hb with hb | hb | hb | hb
  · refine hboundOf _ _ ?_ b hb
    convert Set.ordConnected_Ici (a := (0 : ℤ)) using 1
    ext r
    simp
  · refine hboundOf _ _ ?_ b hb
    convert Set.ordConnected_Ioi (a := (0 : ℤ)) using 1
    ext r
    simp
  · refine hboundOf _ _ ?_ b hb
    convert Set.ordConnected_Iic (a := (0 : ℤ)) using 1
    ext r
    simp
  · refine hboundOf _ _ ?_ b hb
    convert Set.ordConnected_Iio (a := (0 : ℤ)) using 1
    ext r
    simp

/-- **What an entry has in its range is convex.** -/
theorem ordConnected_rangeAt (entry : Json) : {s | rangeAt py entry s = .ok true}.OrdConnected := by
  cases entry with
  | obj members =>
    simp only [rangeAt, rangeBy]
    split_ifs
    · cases hversion : entryVersion members with
      | error e =>
        convert Set.ordConnected_empty
        simp [bind, Except.bind]
      | ok version =>
        cases version with
        | none =>
          convert Set.ordConnected_univ
          simp [bind, Except.bind, pure, Except.pure]
        | some w =>
          convert @ordConnected_compareAt py w _ (Set.ordConnected_singleton (a := (0 : ℤ))) using 1
          ext s
          cases hcompare : compareAt py s w <;>
            simp [hcompare, bind, Except.bind, pure, Except.pure]
    · exact ordConnected_withinBounds (ordConnected_entryBounds members)
  | _ =>
    convert Set.ordConnected_empty
    simp [rangeAt]

end Sequences

/-- The version compares below another, or equal to it. -/
def VersionLe (py : PyText) (a b : Text) : Prop := ∃ r ≤ 0, compareVersions py a b = .ok r

/-- **The range of an entry** has every known version between two that it has, and does not tell
apart versions that compare equal. -/
structure RangeLaws (py : PyText) (entry : Json) : Prop where
  convex : ∀ a b c, IsKnown py a → IsKnown py b → IsKnown py c → VersionLe py a b →
    VersionLe py b c → isVersionInRange py a entry = .ok true →
      isVersionInRange py c entry = .ok true → isVersionInRange py b entry = .ok true
  congr : ∀ a b, IsKnown py a → IsKnown py b → compareVersions py a b = .ok 0 →
    isVersionInRange py a entry = isVersionInRange py b entry

/-- **Ranges are convex and respect the equality of versions**, whatever the entry. -/
theorem rangeLaws (py : PyText) (entry : Json) : RangeLaws py entry := by
  refine ⟨?_, ?_⟩
  · rintro a b c ⟨ca, ha⟩ ⟨cb, hb⟩ ⟨cc, hc⟩ ⟨ab, hab, hcompareab⟩ ⟨bc, hbc, hcomparebc⟩ hina hinc
    obtain rfl := Except.ok.inj ((compareVersions_of_parse ha hb).symm.trans hcompareab)
    obtain rfl := Except.ok.inj ((compareVersions_of_parse hb hc).symm.trans hcomparebc)
    rw [isVersionInRange_eq_rangeAt ha] at hina
    rw [isVersionInRange_eq_rangeAt hc] at hinc
    rw [isVersionInRange_eq_rangeAt hb]
    exact (ordConnected_rangeAt entry).out hina hinc
      ⟨sgn_nonpos_iff.mp hab, sgn_nonpos_iff.mp hbc⟩
  · rintro a b ⟨ca, ha⟩ ⟨cb, hb⟩ hcompare
    have hzero := Except.ok.inj ((compareVersions_of_parse ha hb).symm.trans hcompare)
    rw [isVersionInRange_eq_rangeAt ha, isVersionInRange_eq_rangeAt hb, sgn_eq_zero_iff.mp hzero]

end CveManagement
