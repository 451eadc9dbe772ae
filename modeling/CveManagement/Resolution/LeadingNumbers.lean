import CveManagement.Resolution.Parts
import Mathlib

/-!
# Leading numbers

Where the parts of two versions begin with digits, and the versions are alike up to a position at
which the leading integers differ, these should decide. They do where `_parse_component` takes a
part for its leading integer; it takes the parts that it does not recognise for a pre-release of
zero, and `int` reads digits across an underscore
(`CveManagement.compareVersions_leading_iff`).
-/

namespace CveManagement

open Comparison

section Numbers

variable (py : PyText)

/-- The fallback is left for the part: it has no suffix that is recognised, and `int` does not
read it. -/
def isUnread (p : Text) : Bool := !hasTag py p && (py.int p).isNone

/-- The number of a part that is read. -/
def partNumber (p : Text) : ℤ := (py.int p).getD (leadingInteger py p)

/-- **The part with the smaller leading integer sorts below the other.** -/
def SortsBelow (x y : Text) : Prop :=
  if isUnread py y then
    -- the greater one counts as a pre-release of zero, and so has to be compared as one
    isUnread py x = true ∧ x < y ∨
      isPreRelease (afterDigits py x) = true ∧ leadingInteger py x = 0 ∧
        afterDigits py x < '-' :: y
  else
    -- the smaller one is greater than its leading integer if it has underscores
    ∀ n, py.int x = some n →
      n < partNumber py y ∨ n = partNumber py y ∧ isPatch py (afterDigits py y) = true

/-- `int` reads the parts as the same number. -/
def SameNumber (x y : Text) : Prop := ∃ n, py.int x = some n ∧ py.int y = some n

/-- What a version goes on with after a position. -/
def versionRest (v : Text) (i : ℕ) : Lex (ℕ → ℤ ×ₗ ℕ ×ₗ Text) :=
  toLex fun j => (partComponent py (partAt py v (i + 1 + j))).key

/-- **What makes the leading integers decide**, at the position where they differ: no part is too
long, and the smaller one sorts below the other; or `int` reads both as the same number, and what
follows is in order. -/
structure LeadingDecides (a b : Text) (i : ℕ) : Prop where
  readable : ∀ p ∈ versionParts py a ++ versionParts py b, tooLong py p = false
  ordered : SortsBelow py (partAt py a i) (partAt py b i) ∨
    SameNumber py (partAt py a i) (partAt py b i) ∧ versionRest py a i < versionRest py b i

end Numbers

section Parts

variable {py : PyText} {x y : Text}

/-- A part that is read has at least its leading integer for a number. -/
theorem partNumber_cases (hy : leadingDigits py y ≠ []) (hread : isUnread py y = false) :
    (leadingInteger py y : ℤ) ≤ partNumber py y ∧
      ((partComponent py y).n = partNumber py y) ∧
      (isPatch py (afterDigits py y) = true ↔ (partComponent py y).type = 2) ∧
      ((partComponent py y).type = 1 → (partComponent py y).pre = none ∧
        (partComponent py y).patch = none) := by
  rcases part_cases hy with ⟨hpre, hint, hc⟩ | ⟨hpre, hpatch, hint, hc⟩ |
    ⟨hpre, hpatch, n, hint, hle, hc⟩ | ⟨hpre, hpatch, hint, hc⟩
  · have hpatch : isPatch py (afterDigits py y) = false := by
      unfold isPreRelease at hpre
      split at hpre
      · rename_i c s heq
        rw [heq]
        rfl
      · cases hpre
    simp [partNumber, hint, hc, VersionComponent.type, hpatch]
  · simp [partNumber, hint, hc, VersionComponent.type, hpatch]
  · simp [partNumber, hint, hc, VersionComponent.type, hpatch, hle]
  · simp [isUnread, hasTag, hpre, hpatch, hint] at hread

/-- A part that is not read is a pre-release of zero. -/
theorem partComponent_of_unread (hy : leadingDigits py y ≠ []) (hread : isUnread py y = true) :
    partComponent py y = ⟨0, some ('-' :: y), none⟩ := by
  rcases part_cases hy with ⟨hpre, -, -⟩ | ⟨-, hpatch, -, -⟩ | ⟨-, -, n, hint, -, -⟩ |
    ⟨-, -, -, hc⟩
  · simp [isUnread, hasTag, hpre] at hread
  · simp [isUnread, hasTag, hpatch] at hread
  · simp [isUnread, hint] at hread
  · exact hc

/-- **The order of two parts whose leading integers differ.** -/
theorem key_lt_iff_sortsBelow (hx : leadingDigits py x ≠ []) (hy : leadingDigits py y ≠ [])
    (hlt : leadingInteger py x < leadingInteger py y) :
    (partComponent py x).key < (partComponent py y).key ↔ SortsBelow py x y := by
  have hpos : (0 : ℤ) ≤ leadingInteger py x := Int.natCast_nonneg _
  have hlt' : (leadingInteger py x : ℤ) < leadingInteger py y := Int.ofNat_lt.mpr hlt
  rw [VersionComponent.key_lt_key_iff, SortsBelow]
  cases hread : isUnread py y with
  | true =>
    rw [if_pos rfl]
    have hcy := partComponent_of_unread hy hread
    rcases part_cases hx with ⟨hpre, hint, hc⟩ | ⟨hpre, hpatch, hint, hc⟩ |
      ⟨hpre, hpatch, n, hint, hle, hc⟩ | ⟨hpre, hpatch, hint, hc⟩
    · simp [hc, hcy, VersionComponent.type, isUnread, hasTag, hpre]
    · simp [hc, hcy, VersionComponent.type, isUnread, hasTag, hpre, hpatch]
    · have hzero : ¬n < 0 := not_lt.mpr (hpos.trans hle)
      simp [hc, hcy, VersionComponent.type, isUnread, hasTag, hpre, hint, hzero]
    · simp [hc, hcy, VersionComponent.type, isUnread, hasTag, hpre, hpatch, hint]
  | false =>
    rw [if_neg Bool.false_ne_true]
    obtain ⟨hle, hn, hpatchType, hplain⟩ := partNumber_cases hy hread
    rcases part_cases hx with ⟨-, hint, hc⟩ | ⟨-, -, hint, hc⟩ | ⟨-, -, n, hint, -, hc⟩ |
      ⟨-, -, hint, hc⟩
    · refine iff_of_true (.inl ?_) fun n hsome => by simp [hint] at hsome
      rw [hc, hn]
      exact hlt'.trans_le hle
    · refine iff_of_true (.inl ?_) fun n hsome => by simp [hint] at hsome
      rw [hc, hn]
      exact hlt'.trans_le hle
    · -- a number that is not less has to be followed by a patch
      have htype : (partComponent py x).type = 1 := by rw [hc]; rfl
      have hsuffix : ((partComponent py x).pre <|> (partComponent py x).patch).getD [] = [] := by
        rw [hc]
        rfl
      rw [hpatchType, htype, hsuffix, hn, hint, hc]
      simp only [Option.some.injEq, forall_eq']
      refine or_congr_right (and_congr_right fun _ => ?_)
      constructor
      · rintro (h | ⟨htype', hlt''⟩)
        · have htwo : (partComponent py y).type ≤ 2 := by
            unfold VersionComponent.type
            split_ifs <;> omega
          omega
        · obtain ⟨hpre', hpatch'⟩ := hplain htype'.symm
          rw [hpre', hpatch'] at hlt''
          exact absurd hlt'' (lt_irrefl _)
      · intro h
        rw [h]
        exact .inl one_lt_two
    · refine iff_of_true (.inl ?_) fun n hsome => by simp [hint] at hsome
      rw [hc, hn]
      exact (hpos.trans_lt hlt').trans_le hle

/-- A pre-release suffix is no part that begins with a digit, after a hyphen. -/
theorem afterDigits_ne_cons (hx : isPreRelease (afterDigits py x) = true)
    (hy : leadingDigits py y ≠ []) : afterDigits py x ≠ '-' :: y := by
  intro heq
  rw [heq] at hx
  cases y with
  | nil => exact hy rfl
  | cons c s =>
    have hlower : isLower c = true := (Bool.and_eq_true_iff.mp hx).1
    refine hy (List.takeWhile_cons_of_neg ?_)
    rw [py.isDigit_of_isLower hlower]
    exact Bool.false_ne_true

/-- **Two parts whose leading integers differ compare as equal** only if `int` reads both. -/
theorem key_eq_iff_sameNumber (hx : leadingDigits py x ≠ []) (hy : leadingDigits py y ≠ [])
    (hlt : leadingInteger py x < leadingInteger py y) :
    (partComponent py x).key = (partComponent py y).key ↔ SameNumber py x y := by
  have hlt' : (leadingInteger py x : ℤ) < leadingInteger py y := Int.ofNat_lt.mpr hlt
  have hne : x ≠ y := fun h => hlt.ne (congrArg _ h)
  rw [VersionComponent.key_eq_key_iff]
  rcases part_cases hx with ⟨hpreX, hintX, hcx⟩ | ⟨-, -, hintX, hcx⟩ | ⟨-, -, m, hintX, -, hcx⟩ |
      ⟨-, -, hintX, hcx⟩ <;>
    rcases part_cases hy with ⟨hpreY, hintY, hcy⟩ | ⟨-, -, hintY, hcy⟩ |
      ⟨-, -, n, hintY, -, hcy⟩ | ⟨-, -, hintY, hcy⟩ <;>
    simp [hcx, hcy, VersionComponent.type, SameNumber, hintX, hintY, hlt'.ne, hne, eq_comm]
  · exact fun _ => afterDigits_ne_cons hpreX hy
  · exact fun _ => afterDigits_ne_cons hpreY hx

end Parts

/-- **When leading numbers dominate**: the parts of two versions begin with digits, and are equal
up to a position at which the first has the smaller leading integer; then the versions compare in
that order exactly if the leading integers decide. -/
theorem compareVersions_leading_iff {py : PyText} {a b : Text} {i : ℕ} (ha : IsDotted py a)
    (hb : IsDotted py b) (hagree : ∀ j < i, partAt py a j = partAt py b j)
    (hlt : leadingInteger py (partAt py a i) < leadingInteger py (partAt py b i)) :
    compareVersions py a b = .ok (-1) ∧ compareVersions py b a = .ok 1 ↔
      LeadingDecides py a b i := by
  have hswap : ((versionParts py b ++ versionParts py a).any (tooLong py)) =
      (versionParts py a ++ versionParts py b).any (tooLong py) := by
    rw [List.any_append, List.any_append, Bool.or_comm]
  rw [compareVersions_of_dotted ha hb, compareVersions_of_dotted hb ha, hswap]
  cases hlong : (versionParts py a ++ versionParts py b).any (tooLong py) with
  | true =>
    refine iff_of_false (by simp) fun h => ?_
    obtain ⟨p, hp, hlongp⟩ := List.any_eq_true.mp hlong
    rw [h.readable p hp] at hlongp
    cases hlongp
  | false =>
    have hreadable : ∀ p ∈ versionParts py a ++ versionParts py b, tooLong py p = false :=
      fun p hp => Bool.eq_false_iff.mpr (List.any_eq_false.mp hlong p hp)
    rw [if_neg Bool.false_ne_true, if_neg Bool.false_ne_true, Except.ok.injEq, Except.ok.injEq,
      sgn_eq_neg_one_iff, sgn_eq_one_iff, and_self]
    have hkeys : ∀ j < i, (partComponent py (partAt py a j)).key =
        (partComponent py (partAt py b j)).key := fun j hj => by rw [hagree j hj]
    refine (lt_iff_of_agree hkeys).trans ?_
    rw [key_lt_iff_sortsBelow (leadingDigits_partAt ha i) (leadingDigits_partAt hb i) hlt,
      key_eq_iff_sameNumber (leadingDigits_partAt ha i) (leadingDigits_partAt hb i) hlt]
    exact ⟨fun h => ⟨hreadable, h⟩, fun h => h.ordered⟩

/-! ### A suffix of a distribution -/

/-- The version of a distribution. -/
def fipsVersion : Text := "1.0.2k-fips".toList

theorem versionParts_fipsVersion :
    versionParts .ascii fipsVersion = ["1".toList, "0".toList, "2k-fips".toList] := rfl

/-- **It sorts below the versions before it**, as its last part is not recognised. -/
theorem leading_not_dominant :
    IsDotted .ascii "1.0.1".toList ∧ IsDotted .ascii fipsVersion ∧
      (∀ j < 2, partAt .ascii "1.0.1".toList j = partAt .ascii fipsVersion j) ∧
      leadingInteger .ascii (partAt .ascii "1.0.1".toList 2) <
        leadingInteger .ascii (partAt .ascii fipsVersion 2) ∧
      compareVersions .ascii "1.0.1".toList fipsVersion = .ok 1 := by
  refine ⟨?_, ?_, ?_, by decide, rfl⟩
  · have hparts : versionParts .ascii "1.0.1".toList = ["1".toList, "0".toList, "1".toList] := rfl
    rw [IsDotted, hparts]
    decide
  · rw [IsDotted, versionParts_fipsVersion]
    decide
  · decide

/-- Without that suffix it is above them. -/
theorem leading_dominant :
    compareVersions .ascii "1.0.1".toList "1.0.2k".toList = .ok (-1) ∧
        compareVersions .ascii "1.0.2k".toList "1.0.1".toList = .ok 1 ↔
      LeadingDecides .ascii "1.0.1".toList "1.0.2k".toList 2 := by
  have hpartsA : versionParts .ascii "1.0.1".toList = ["1".toList, "0".toList, "1".toList] := rfl
  have hpartsB : versionParts .ascii "1.0.2k".toList = ["1".toList, "0".toList, "2k".toList] := rfl
  refine compareVersions_leading_iff ?_ ?_ (by decide) (by decide)
  · rw [IsDotted, hpartsA]
    decide
  · rw [IsDotted, hpartsB]
    decide

end CveManagement
