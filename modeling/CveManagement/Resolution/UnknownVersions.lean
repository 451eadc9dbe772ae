import CveManagement.Resolution.Verdicts
import Mathlib

/-!
# Versions that are not known

`is_version_in_range` takes a version for unknown if it is blank or `*`, and then lets no bound
disprove a match. The spellings `-`, `n/a` and `none` are unknown only to `_parse_version`: they
compare equal to every bound, so that an exclusive bound excludes them
(`CveManagement.neverDisproved_iff`).
-/

namespace CveManagement

section Unknown

variable (py : PyText)

/-- A bound that can be compared with: a text that `_parse_version` takes. -/
def Readable (j : Json) : Prop := ∃ v parsed, j.text = .ok v ∧ parseVersion py v = .ok parsed

/-- **The entry has an exclusive bound**, and it and the bounds looked at before it are readable:
that of the start, or if there is none that of the end. -/
def ExcludesUnknown (entry : Json) : Prop :=
  ∃ members, entry = .obj members ∧
    let field := entryField members
    (∀ j, bound ((field "versionStartIncluding").or (field "versionStart")) = some j →
        Readable py j) ∧
      ((∃ j, bound (field "versionStartExcluding") = some j ∧ Readable py j) ∨
        bound (field "versionStartExcluding") = none ∧
          (∀ j, bound (field "versionEndIncluding") = some j → Readable py j) ∧
          ∃ j, bound ((field "versionEndExcluding").or (field "versionEnd")) = some j ∧
            Readable py j)

variable {py} {v : Text}

/-- An unknown version equals every bound that can be read. -/
theorem compareVersions_eq_ok_of_unknown (h : parseVersion py v = .ok none) {w : Text} {r : ℤ} :
    compareVersions py v w = .ok r ↔ r = 0 ∧ ∃ parsed, parseVersion py w = .ok parsed := by
  rw [compareVersions, h]
  cases hw : parseVersion py w with
  | error e => simp [bind, Except.bind]
  | ok parsed => simp [bind, Except.bind, pure, Except.pure, eq_comm]

/-- A bound that is reached: it raises if it cannot be read. -/
theorem withinBounds_cons (h : parseVersion py v = .ok none) {j : Json} {wrong : ℤ → Bool}
    {bounds : List (Json × (ℤ → Bool))} :
    withinBounds (compareVersions py v) ((j, wrong) :: bounds) = .ok false ↔ Readable py j ∧
      (wrong 0 = true ∨ withinBounds (compareVersions py v) bounds = .ok false) := by
  cases hj : j.text with
  | error e => simp [withinBounds, Readable, hj, bind, Except.bind]
  | ok w =>
    cases hw : parseVersion py w with
    | error e =>
      have hcompare : compareVersions py v w = .error e := by
        simp only [compareVersions, h, hw, bind, Except.bind]
      simp [withinBounds, Readable, hj, hw, hcompare, bind, Except.bind]
    | ok parsed =>
      have hcompare := (compareVersions_eq_ok_of_unknown h).mpr ⟨rfl, parsed, hw⟩
      cases hwrong : wrong 0 <;>
        simp [withinBounds, Readable, hj, hw, hcompare, hwrong, bind, Except.bind, pure,
          Except.pure]

/-- An inclusive bound is passed. -/
theorem withinBounds_inclusive (h : parseVersion py v = .ok none) {j : Json} {wrong : ℤ → Bool}
    (hwrong : wrong 0 = false) {bounds : List (Json × (ℤ → Bool))} :
    withinBounds (compareVersions py v) (boundOf j wrong ++ bounds) = .ok false ↔
      (∀ b, bound j = some b → Readable py b) ∧
        withinBounds (compareVersions py v) bounds = .ok false := by
  cases hbound : bound j with
  | none => simp [boundOf, hbound]
  | some b =>
    rw [boundOf, hbound, Option.map_some, Option.toList_some, List.singleton_append,
      withinBounds_cons h]
    simp [hwrong]

/-- An exclusive one excludes. -/
theorem withinBounds_exclusive (h : parseVersion py v = .ok none) {j : Json} {wrong : ℤ → Bool}
    (hwrong : wrong 0 = true) {bounds : List (Json × (ℤ → Bool))} :
    withinBounds (compareVersions py v) (boundOf j wrong ++ bounds) = .ok false ↔
      (∃ b, bound j = some b ∧ Readable py b) ∨
        bound j = none ∧ withinBounds (compareVersions py v) bounds = .ok false := by
  cases hbound : bound j with
  | none => simp [boundOf, hbound]
  | some b =>
    rw [boundOf, hbound, Option.map_some, Option.toList_some, List.singleton_append,
      withinBounds_cons h]
    simp [hwrong]

/-- The bounds of an entry, for an unknown version. -/
theorem withinBounds_entryBounds_iff (h : parseVersion py v = .ok none)
    {members : List (String × Json)} :
    withinBounds (compareVersions py v) (entryBounds members) = .ok false ↔
      ExcludesUnknown py (.obj members) := by
  have hobj : ∀ {P : List (String × Json) → Prop},
      (∃ members', Json.obj members = .obj members' ∧ P members') ↔ P members := by
    intro P
    constructor
    · rintro ⟨_, heq, hP⟩
      rwa [Json.obj.inj heq]
    · exact fun hP => ⟨members, rfl, hP⟩
  have hend : withinBounds (compareVersions py v) [] ≠ .ok false := by
    simp [withinBounds]
  rw [ExcludesUnknown, hobj, entryBounds, withinBounds_inclusive h (by decide),
    withinBounds_exclusive h (by decide), withinBounds_inclusive h (by decide),
    ← List.append_nil (boundOf (_ : Json) fun r => decide (0 ≤ r)),
    withinBounds_exclusive h (by decide)]
  simp only [hend, and_false, or_false]

/-- **What has an unknown version out of its range**: an exclusive bound, for the spellings that
only `_parse_version` takes for unknown. -/
theorem isVersionInRange_unknown_iff (h : parseVersion py v = .ok none) {entry : Json} :
    isVersionInRange py v entry = .ok false ↔
      py.strip v ∉ [[], ['*']] ∧ ExcludesUnknown py entry := by
  by_cases hwild : py.strip v ∈ [[], ['*']]
  · have hblank : (py.strip v).isEmpty || py.strip v == ['*'] := by
      simpa using hwild
    unfold isVersionInRange
    rw [if_pos hblank]
    exact iff_of_false (by simp) fun hnot => hnot.1 hwild
  · rw [and_iff_right hwild]
    obtain ⟨hne, hstar⟩ : py.strip v ≠ [] ∧ py.strip v ≠ ['*'] := by
      simpa using hwild
    cases entry with
    | obj members =>
      have hparse := (parseVersion_strip py v).trans h
      rw [isVersionInRange_obj h hne hstar, ← withinBounds_entryBounds_iff hparse, rangeBy]
      split_ifs with hempty
      · -- a version in the name equals an unknown one
        rw [List.isEmpty_iff.mp hempty]
        refine iff_of_false ?_ (by simp [withinBounds])
        cases entryVersion members with
        | error e => simp [bind, Except.bind]
        | ok version =>
          cases version with
          | none => simp [bind, Except.bind, pure, Except.pure]
          | some w =>
            cases hcompare : compareVersions py (py.strip v) w with
            | error e => simp [hcompare, bind, Except.bind]
            | ok r =>
              obtain ⟨rfl, -⟩ := (compareVersions_eq_ok_of_unknown hparse).mp hcompare
              simp [hcompare, bind, Except.bind, pure, Except.pure]
      · exact Iff.rfl
    | _ =>
      have hblank : ¬((py.strip v).isEmpty || py.strip v == ['*']) = true := by
        simpa using hwild
      unfold isVersionInRange
      rw [if_neg hblank]
      refine iff_of_false (by simp [Json.get, bind, Except.bind]) ?_
      rintro ⟨members, heq, -⟩
      cases heq

end Unknown

/-! ### The verdict -/

/-- **A match is never disproved**: whatever the matcher returns, the CVE affects the product. -/
def NeverDisproved (py : PyText) (product : Product) (cpes : List Json) : Prop :=
  ∀ r, isCveAffectingProduct py product cpes = .ok r → r.affected = true

/-- **When an unknown version disproves a match**: it is spelt in one of the ways that only
`_parse_version` takes for unknown, and some entry matches, and each one has another name or an
exclusive bound. -/
theorem neverDisproved_iff {py : PyText} {product : Product} (cpes : List Json)
    (hunknown : parseVersion py (columnText product.version) = .ok none) :
    NeverDisproved py product cpes ↔
      installedVersion py product ∈ [[], ['*']] ∨
        ¬((∃ e ∈ cpes, MatchesProduct py product e) ∧ ∀ e ∈ cpes, MatchesOther py product e ∨
          MatchesProduct py product e ∧ ExcludesUnknown py e) := by
  have hinstalled : parseVersion py (installedVersion py product) = .ok none :=
    (parseVersion_strip py _).trans hunknown
  have hnever : NeverDisproved py product cpes ↔
      ¬∃ confidence, verdict py product cpes = some (false, confidence) := by
    rw [NeverDisproved, verdict]
    cases isCveAffectingProduct py product cpes with
    | error e => simp [Except.toOption]
    | ok r => simp [Except.toOption]
  have hout : ∀ e, OutOfRange py product e ↔
      installedVersion py product ∉ [[], ['*']] ∧ ExcludesUnknown py e := by
    intro e
    rw [OutOfRange, isVersionInRange_unknown_iff hinstalled, installedVersion, py.strip_strip]
  rw [hnever, verdict_not_affected_iff]
  simp only [hout]
  by_cases hwild : installedVersion py product ∈ [[], ['*']]
  · refine iff_of_true ?_ (.inl hwild)
    rintro ⟨⟨e, he, hmatch⟩, hall⟩
    rcases hall e he with hother | ⟨-, hnot, -⟩
    · exact hmatch.not_matchesOther hother
    · exact hnot hwild
  · rw [or_iff_right hwild]
    simp only [hwild, not_false_eq_true, true_and]

/-- A product whose version is not applicable. -/
def Product.nginxNA : Product := { Product.nginx with version := some "n/a" }

/-- **An unknown version disproves a match** if the bound is exclusive: it equals the bound. -/
theorem unknown_disproves :
    parseVersion .ascii (columnText Product.nginxNA.version) = .ok none ∧
      isCveAffectingProduct .ascii .nginxNA
          [nginxEntry [("versionEndExcluding", .str "1.20")]] =
        .ok ⟨false, .certain, "version_outside_all_ranges:n/a"⟩ ∧
      ¬NeverDisproved .ascii .nginxNA [nginxEntry [("versionEndExcluding", .str "1.20")]] := by
  have hresult : isCveAffectingProduct .ascii .nginxNA
      [nginxEntry [("versionEndExcluding", .str "1.20")]] =
        .ok ⟨false, .certain, "version_outside_all_ranges:n/a"⟩ := by
    decide +kernel
  refine ⟨rfl, hresult, fun h => ?_⟩
  have haffected := h _ hresult
  cases haffected

/-- An inclusive bound does not. -/
theorem neverDisproved_inclusive :
    NeverDisproved .ascii .nginxNA [nginxEntry [("versionEndIncluding", .str "1.20")]] ↔
      installedVersion .ascii .nginxNA ∈ [[], ['*']] ∨
        ¬((∃ e ∈ [nginxEntry [("versionEndIncluding", .str "1.20")]],
            MatchesProduct .ascii .nginxNA e) ∧
          ∀ e ∈ [nginxEntry [("versionEndIncluding", .str "1.20")]],
            MatchesOther .ascii .nginxNA e ∨
              MatchesProduct .ascii .nginxNA e ∧ ExcludesUnknown .ascii e) :=
  neverDisproved_iff _ rfl

end CveManagement
