import CveManagement.Library.Comparison
import CveManagement.Resolution.VersionMatcher
import Mathlib

/-!
# The order of versions

`compare_versions` compares two lists of components position by position, and a component by its
number, its type and its suffix. So it is the three-way comparison of a linear order – that of the
sequences of `CveManagement.VersionComponent.key`, a list being continued with zeros – and with it
a total preorder on the versions that are known (`CveManagement.compareVersions_preorder`). It is
no order, as versions that differ in trailing zeros are equal in it.
-/

namespace CveManagement

open Comparison

/-! ### Components -/

/-- The component of a position that a version does not have: `_zero`. -/
def VersionComponent.zero : VersionComponent := ⟨0, none, none⟩

/-- What a component is compared by: its number, its type and its suffix. -/
def VersionComponent.key (c : VersionComponent) : ℤ ×ₗ ℕ ×ₗ Text :=
  toLex (c.n, toLex (c.type, (c.pre <|> c.patch).getD []))

/-- The order of the keys, by their entries. -/
theorem VersionComponent.key_lt_key_iff {ca cb : VersionComponent} : ca.key < cb.key ↔
    ca.n < cb.n ∨ ca.n = cb.n ∧ (ca.type < cb.type ∨ ca.type = cb.type ∧
      (ca.pre <|> ca.patch).getD [] < (cb.pre <|> cb.patch).getD []) := by
  rw [key, key, Prod.Lex.toLex_lt_toLex, Prod.Lex.toLex_lt_toLex]

/-- Keys are equal if their entries are. -/
theorem VersionComponent.key_eq_key_iff {ca cb : VersionComponent} : ca.key = cb.key ↔
    ca.n = cb.n ∧ ca.type = cb.type ∧
      (ca.pre <|> ca.patch).getD [] = (cb.pre <|> cb.patch).getD [] := by
  rw [key, key, toLex_inj, Prod.mk.injEq, toLex_inj, Prod.mk.injEq]

/-- **Components compare by their keys.** -/
theorem compareComponents_eq_sgn (ca cb : VersionComponent) :
    compareComponents ca cb = sgn ca.key cb.key := by
  have hsgn : ∀ {κ : Type} [LinearOrder κ] (a b : κ), a ≠ b →
      sgn a b = if a > b then 1 else -1 := by
    intro κ _ a b hne
    rcases lt_or_gt_of_ne hne with h | h
    · rw [sgn_of_lt h, if_neg h.not_gt]
    · rw [sgn_of_gt h, if_pos h]
  rw [VersionComponent.key, VersionComponent.key, sgn_toLex, sgn_toLex, compareComponents]
  by_cases hn : ca.n = cb.n
  · rw [if_neg (not_not.mpr hn), if_pos hn]
    by_cases ht : ca.type = cb.type
    · rw [if_neg (not_not.mpr ht), if_pos ht]
      by_cases hs : (ca.pre <|> ca.patch).getD [] = (cb.pre <|> cb.patch).getD []
      · dsimp only
        rw [if_pos hs, hs, sgn_self]
      · dsimp only
        rw [if_neg hs, hsgn _ _ hs]
        simp only [gt_iff_lt]
    · rw [if_pos ht, if_neg ht, hsgn _ _ ht]
  · rw [if_pos hn, if_neg hn, hsgn _ _ hn]

/-! ### Versions -/

/-- A list of components, continued with zeros, as the sequence of their keys. -/
def versionSequence (cs : List VersionComponent) : Lex (ℕ → ℤ ×ₗ ℕ ×ₗ Text) :=
  sequence VersionComponent.key .zero cs

/-- **Lists compare as their sequences.** -/
theorem compareLists_eq_sgn (pa pb : List VersionComponent) :
    compareLists pa pb = sgn (versionSequence pa) (versionSequence pb) := by
  refine Eq.trans ?_ (firstDifference_eq_sgn pa pb)
  unfold compareLists firstDifference
  simp only [compareComponents_eq_sgn]
  rfl

section Known

variable (py : PyText)

/-- **The version is known**: `_parse_version` accepts it, and takes it for no wildcard. -/
def IsKnown (v : Text) : Prop := ∃ cs, parseVersion py v = .ok (some cs)

variable {py} {a b : Text} {ca cb : List VersionComponent}

/-- Known versions compare as the sequences of their components. -/
theorem compareVersions_of_parse (ha : parseVersion py a = .ok (some ca))
    (hb : parseVersion py b = .ok (some cb)) :
    compareVersions py a b = .ok (sgn (versionSequence ca) (versionSequence cb)) := by
  rw [compareVersions, ha, hb, ← compareLists_eq_sgn]
  rfl

end Known

/-! ### Texts -/

section Strip

variable (py : PyText) {s t : Text}

/-- White space at the end is stripped. -/
theorem PyText.strip_append_of_isSpace (s : Text) (h : ∀ c ∈ t, py.isSpace c = true) :
    py.strip (s ++ t) = py.strip s := by
  rw [PyText.strip, PyText.strip, List.dropWhile_append]
  split_ifs with hs
  · rw [List.isEmpty_iff.mp hs, List.dropWhile_eq_nil_iff.mpr h]
  · rw [List.reverse_append, List.dropWhile_append_of_pos]
    exact fun c hc => h c (List.mem_reverse.mp hc)

/-- **What follows a text keeps the white space between**: the text has a character that is not
white space, and what follows it ends with one. -/
theorem PyText.exists_strip_append (hs : py.strip s ≠ []) (ht : t ≠ [])
    (hlast : py.isSpace (t.getLast ht) = false) :
    ∃ between : Text, (∀ c ∈ between, py.isSpace c = true) ∧
      py.strip (s ++ t) = py.strip s ++ (between ++ t) := by
  have hdrop : s.dropWhile py.isSpace ≠ [] := by
    intro h
    rw [PyText.strip, h] at hs
    exact hs rfl
  refine ⟨(s.dropWhile py.isSpace).rtakeWhile py.isSpace, fun c hc => List.mem_rtakeWhile_imp hc,
    ?_⟩
  have hsplit : py.strip s ++ (s.dropWhile py.isSpace).rtakeWhile py.isSpace =
      s.dropWhile py.isSpace := List.rdropWhile_append_rtakeWhile
  have hkeep : (s.dropWhile py.isSpace ++ t).rdropWhile py.isSpace =
      s.dropWhile py.isSpace ++ t := by
    rw [List.rdropWhile_eq_self_iff]
    intro hne
    rw [List.getLast_append_of_ne_nil _ ht, hlast]
    exact Bool.false_ne_true
  rw [← List.append_assoc, hsplit, PyText.strip, List.dropWhile_append,
    if_neg (by simpa using hdrop)]
  exact hkeep

/-- **Splitting a text that is continued** without the separator continues its last part. -/
theorem exists_splitOn_append {t : Text} (sep : Char) (s : Text) (h : sep ∉ t) :
    ∃ parts last, s.splitOn sep = parts ++ [last] ∧
      (s ++ t).splitOn sep = parts ++ [last ++ t] := by
  induction s with
  | nil => exact ⟨[], [], rfl, List.splitOn_eq_singleton h⟩
  | cons c s ih =>
    obtain ⟨parts, last, hs, hst⟩ := ih
    rw [List.cons_append, List.splitOn_cons_eq_if_modifyHead, List.splitOn_cons_eq_if_modifyHead,
      hs, hst]
    split_ifs
    · exact ⟨[] :: parts, last, rfl, rfl⟩
    · cases parts with
      | nil => exact ⟨[], c :: last, rfl, rfl⟩
      | cons part parts => exact ⟨(c :: part) :: parts, last, rfl, rfl⟩

end Strip

/-! ### Components that are appended -/

/-- **What has no case is kept by `lower`**: white space, and the characters of ASCII that are no
letters, where they follow a text. -/
structure PyText.KeepsCaseless (py : PyText) : Prop where
  lower_append : ∀ s t : Text,
    (∀ c ∈ t, py.isSpace c = true ∨ c.toNat < 128 ∧ c.isAlpha = false) →
      py.lower (s ++ t) = py.lower s ++ t

/-- The text of some components `.0`. -/
def zeroSuffix (n : ℕ) : Text := (List.replicate n ['.', '0']).flatten

theorem zeroSuffix_succ (n : ℕ) : zeroSuffix (n + 1) = zeroSuffix n ++ ['.', '0'] := by
  rw [zeroSuffix, zeroSuffix, List.replicate_succ', List.flatten_append, List.flatten_singleton]

section Zeros

variable {py : PyText} {v : Text} {cs : List VersionComponent}

/-- White space after a part does not change its component. -/
theorem parseComponent_append_of_isSpace (hpy : py.KeepsCaseless) (part : Text) {between : Text}
    (h : ∀ c ∈ between, py.isSpace c = true) :
    parseComponent py (part ++ between) = parseComponent py part := by
  have hlower : py.lower (part ++ between) = py.lower part ++ between :=
    hpy.lower_append part between fun c hc => .inl (h c hc)
  unfold parseComponent
  rw [hlower, py.strip_append_of_isSpace _ h]

/-- The component of the part `0`. -/
theorem parseComponent_zero (py : PyText) : parseComponent py ['0'] = .ok .zero := by
  have hlower : py.lower ['0'] = ['0'] :=
    py.lower_ascii ['0'] (List.forall_mem_singleton.mpr (by decide))
  have hspace : py.isSpace '0' = false := by
    rw [py.isSpace_ascii '0' (by decide)]
    decide
  have hdigit : py.digit '0' = some 0 := by
    rw [py.digit_ascii '0' (by decide)]
    decide
  simp [parseComponent, hlower, PyText.strip, hspace, PyText.isDigit, hdigit, isPreRelease, isPatch,
    PyText.int, PyText.ungroup, PyText.maxStrDigits, PyText.digitsValue, VersionComponent.zero]

/-- What a known version consists of. -/
theorem parseVersion_eq_some_iff : parseVersion py v = .ok (some cs) ↔
    py.strip v ≠ [] ∧
      py.lower (py.strip v) ∉ ["*".toList, "-".toList, [], "n/a".toList, "none".toList] ∧
      ((py.lower (py.strip v)).splitOn '.').mapM (parseComponent py) = .ok cs := by
  have hstrip : ∀ s : Text, s = [] → py.strip s = [] := by
    rintro _ rfl
    rfl
  have hlower : py.lower [] = [] := py.lower_ascii [] (by simp)
  unfold parseVersion
  dsimp only
  by_cases hempty : v.isEmpty = true
  · rw [if_pos hempty]
    exact iff_of_false (by simp) fun h => h.1 (hstrip v (List.isEmpty_iff.mp hempty))
  rw [if_neg hempty]
  by_cases hwild : (["*".toList, "-".toList, [], "n/a".toList, "none".toList].contains
      (py.lower (py.strip v))) = true
  · rw [if_pos hwild]
    exact iff_of_false (by simp) fun h => h.2.1 (List.contains_iff_mem.mp hwild)
  · rw [if_neg hwild]
    have hne : py.strip v ≠ [] := by
      intro h
      rw [h, hlower] at hwild
      exact hwild (by decide)
    rw [and_iff_right hne, and_iff_right fun h => hwild (List.contains_iff_mem.mpr h)]
    cases ((py.lower (py.strip v)).splitOn '.').mapM (parseComponent py) with
    | error e => simp [bind, Except.bind]
    | ok parsed => simp [bind, Except.bind, pure, Except.pure]

/-- **A component `.0` is one more zero.** -/
theorem parseVersion_append_zero (hpy : py.KeepsCaseless) (h : parseVersion py v = .ok (some cs)) :
    parseVersion py (v ++ ['.', '0']) = .ok (some (cs ++ [.zero])) := by
  obtain ⟨hne, -, hparts⟩ := parseVersion_eq_some_iff.mp h
  have hspace : py.isSpace '0' = false := by
    rw [py.isSpace_ascii '0' (by decide)]
    decide
  obtain ⟨between, hbetween, hstrip⟩ := py.exists_strip_append (t := ['.', '0']) hne
    (List.cons_ne_nil _ _) hspace
  have hplain : ∀ c ∈ ['.', '0'], c.toNat < 128 ∧ c.isAlpha = false :=
    List.forall_mem_cons.mpr ⟨by decide, List.forall_mem_singleton.mpr (by decide)⟩
  have hlower : py.lower (py.strip (v ++ ['.', '0'])) =
      py.lower (py.strip v) ++ (between ++ ['.', '0']) := by
    rw [hstrip]
    refine hpy.lower_append _ _ fun c hc => ?_
    rcases List.mem_append.mp hc with hc | hc
    · exact .inl (hbetween c hc)
    · exact .inr (hplain c hc)
  refine parseVersion_eq_some_iff.mpr ⟨?_, ?_, ?_⟩
  · rw [hstrip]
    simp [hne]
  · -- no wildcard ends with a zero
    intro hwild
    have hlast : (py.lower (py.strip (v ++ ['.', '0']))).getLast? = some '0' := by
      rw [hlower, ← List.append_assoc]
      simp
    exact (by decide : ∀ w ∈ ["*".toList, "-".toList, [], "n/a".toList, "none".toList],
      w.getLast? ≠ some '0') _ hwild hlast
  · -- the last part is followed by white space, and a part `0` comes after it
    have hdot : '.' ∉ between := by
      intro hmem
      exact absurd (hbetween '.' hmem) (by rw [py.isSpace_ascii '.' (by decide)]; decide)
    obtain ⟨parts, last, hsplit, hcont⟩ :=
      exists_splitOn_append '.' (py.lower (py.strip v)) hdot
    rw [hsplit] at hparts
    have hzero : (py.lower (py.strip v) ++ (between ++ ['.', '0'])).splitOn '.' =
        parts ++ [last ++ between] ++ [['0']] := by
      rw [← List.append_assoc, ← hcont]
      exact List.splitOn_append_cons_self _ _
    rw [hlower, hzero, List.mapM_append, List.mapM_append]
    rw [List.mapM_append] at hparts
    simp only [List.mapM_cons, List.mapM_nil, parseComponent_append_of_isSpace hpy last hbetween,
      parseComponent_zero] at hparts ⊢
    rw [hparts]
    rfl

/-- **Components `.0` are zeros at the end.** -/
theorem parseVersion_append_zeros (hpy : py.KeepsCaseless) (h : parseVersion py v = .ok (some cs))
    (n : ℕ) : parseVersion py (v ++ zeroSuffix n) =
      .ok (some (cs ++ List.replicate n .zero)) := by
  induction n with
  | zero =>
    rw [zeroSuffix, List.replicate_zero, List.flatten_nil, List.append_nil, List.replicate_zero,
      List.append_nil]
    exact h
  | succ n ih =>
    rw [zeroSuffix_succ, ← List.append_assoc, List.replicate_succ', ← List.append_assoc]
    exact parseVersion_append_zero hpy ih

end Zeros

/-! ### The preorder -/

/-- **`compare_versions` is a total preorder on the known versions**: a version equals itself,
arguments that are exchanged change the sign, the relation is transitive, versions that are equal
compare alike with every other, and components `.0` at the end of either change nothing. -/
theorem compareVersions_preorder {py : PyText} (hpy : py.KeepsCaseless) {a b c : Text}
    (ha : IsKnown py a) (hb : IsKnown py b) (hc : IsKnown py c) :
    compareVersions py a a = .ok 0 ∧
      ∃ ab bc ac : ℤ, compareVersions py a b = .ok ab ∧ compareVersions py b c = .ok bc ∧
        compareVersions py a c = .ok ac ∧ compareVersions py b a = .ok (-ab) ∧
        (ab ≤ 0 → bc ≤ 0 → ac ≤ 0) ∧ (ab = 0 → ac = bc) ∧
        ∀ m n, compareVersions py (a ++ zeroSuffix m) (b ++ zeroSuffix n) = .ok ab := by
  obtain ⟨ca, ha⟩ := ha
  obtain ⟨cb, hb⟩ := hb
  obtain ⟨cc, hc⟩ := hc
  refine ⟨?_, _, _, _, compareVersions_of_parse ha hb, compareVersions_of_parse hb hc,
    compareVersions_of_parse ha hc, ?_, ?_, ?_, ?_⟩
  · rw [compareVersions_of_parse ha ha, sgn_self]
  · rw [compareVersions_of_parse hb ha, sgn_swap]
  · rw [sgn_nonpos_iff, sgn_nonpos_iff, sgn_nonpos_iff]
    exact le_trans
  · intro hab
    rw [sgn_eq_zero_iff.mp hab]
  · intro m n
    rw [compareVersions_of_parse (parseVersion_append_zeros hpy ha m)
      (parseVersion_append_zeros hpy hb n)]
    unfold versionSequence
    rw [sequence_append_replicate, sequence_append_replicate]

/-- The operations that know no character but ASCII keep what has no case. -/
theorem PyText.keepsCaseless_ascii : PyText.ascii.KeepsCaseless := by
  refine ⟨fun s t h => ?_⟩
  have ht : t.map Char.toLower = t := by
    refine (List.map_congr_left fun c hc => ?_).trans (List.map_id t)
    have hupper : ¬(c.val ≥ 'A'.val ∧ c.val ≤ 'Z'.val) := by
      rcases h c hc with hspace | ⟨-, halpha⟩
      · rintro ⟨hA, -⟩
        have hlarge : 65 ≤ c.toNat := UInt32.le_iff_toNat_le.mp hA
        simp only [PyText.ascii, isAsciiSpace, Bool.or_eq_true, Bool.and_eq_true,
          decide_eq_true_eq] at hspace
        omega
      · have hnot := (Bool.or_eq_false_iff.mp halpha).1
        simpa [Char.isUpper] using hnot
    exact dif_neg hupper
  exact (List.map_append ..).trans (congrArg _ ht)

/-- A pre-release, its release, and a patch of it. -/
theorem compareVersions_preorder_openssl :
    compareVersions .ascii "1.0.2-beta9".toList "1.0.2-beta9".toList = .ok 0 ∧
      ∃ ab bc ac : ℤ, compareVersions .ascii "1.0.2-beta9".toList "1.0.2".toList = .ok ab ∧
        compareVersions .ascii "1.0.2".toList "1.0.2k".toList = .ok bc ∧
        compareVersions .ascii "1.0.2-beta9".toList "1.0.2k".toList = .ok ac ∧
        compareVersions .ascii "1.0.2".toList "1.0.2-beta9".toList = .ok (-ab) ∧
        (ab ≤ 0 → bc ≤ 0 → ac ≤ 0) ∧ (ab = 0 → ac = bc) ∧
        ∀ m n, compareVersions .ascii ("1.0.2-beta9".toList ++ zeroSuffix m)
          ("1.0.2".toList ++ zeroSuffix n) = .ok ab :=
  compareVersions_preorder PyText.keepsCaseless_ascii ⟨_, rfl⟩ ⟨_, rfl⟩ ⟨_, rfl⟩

end CveManagement
