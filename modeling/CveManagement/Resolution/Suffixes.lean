import CveManagement.Library.Decimal
import CveManagement.Resolution.Parts
import Mathlib

/-!
# Numbered suffixes

Pre-releases such as `rc2` and `rc10`, and patches such as `p9` and `p10`, of one version. A
pre-release is below its version and a patch above it; but the suffixes themselves compare as
texts, so that the order of their numbers is kept only where that of their decimal texts is
(`CveManagement.compareVersions_numbered_iff`).
-/

namespace CveManagement

open Comparison

/-! ### Plain texts -/

/-- A character of ASCII that is neither white space nor upper case. -/
def isPlain (c : Char) : Bool := decide (c.toNat < 128) && c.toLower == c && !isAsciiSpace c

section Plain

variable {py : PyText} {v : Text}

/-- A plain text is in lower case, and has nothing to strip. -/
theorem lower_strip_of_isPlain (h : ∀ c ∈ v, isPlain c = true) :
    py.lower v = v ∧ py.strip v = v := by
  have hc : ∀ c ∈ v, c.toNat < 128 ∧ c.toLower = c ∧ isAsciiSpace c = false := by
    intro c hmem
    have hplain := h c hmem
    simp only [isPlain, Bool.and_eq_true, decide_eq_true_eq, beq_iff_eq,
      Bool.not_eq_true'] at hplain
    exact ⟨hplain.1.1, hplain.1.2, hplain.2⟩
  have hspace : ∀ c ∈ v, py.isSpace c = false := by
    intro c hmem
    rw [py.isSpace_ascii c (hc c hmem).1]
    exact (hc c hmem).2.2
  have hdrop : ∀ w : Text, (∀ c ∈ w, py.isSpace c = false) → w.dropWhile py.isSpace = w := by
    intro w hw
    cases w with
    | nil => rfl
    | cons c w =>
      refine List.dropWhile_cons_of_neg ?_
      rw [hw c List.mem_cons_self]
      exact Bool.false_ne_true
  constructor
  · rw [py.lower_ascii v fun c hmem => (hc c hmem).1]
    exact (List.map_congr_left fun c hmem => (hc c hmem).2.1).trans (List.map_id v)
  · rw [PyText.strip, hdrop v hspace, hdrop _ fun c hmem => hspace c (List.mem_reverse.mp hmem),
      List.reverse_reverse]

/-- The characters of the parts of a text are those of the text, but for the separators. -/
theorem mem_splitOn_iff {sep : Char} {s : Text} {c : Char} (hc : c ≠ sep) :
    (∃ part ∈ s.splitOn sep, c ∈ part) ↔ c ∈ s := by
  induction s with
  | nil => simp
  | cons d s ih =>
    rw [List.splitOn_cons_eq_if_modifyHead, List.mem_cons]
    obtain ⟨part, parts, hparts⟩ := List.exists_cons_of_ne_nil (List.splitOn_ne_nil sep s)
    rw [hparts] at ih ⊢
    simp only [List.exists_mem_cons_iff] at ih
    by_cases hd : d = sep
    · subst hd
      simp [hc, ← ih]
    · simp [hd, ← ih, or_assoc]

/-- **The parts of a plain text** are what it splits into. -/
theorem versionParts_of_isPlain (h : ∀ c ∈ v, isPlain c = true) :
    versionParts py v = v.splitOn '.' := by
  obtain ⟨hlower, hstrip⟩ := @lower_strip_of_isPlain py _ h
  rw [versionParts, hstrip, hlower]
  refine (List.map_congr_left fun part hpart => ?_).trans (List.map_id _)
  have hplain : ∀ c ∈ part, isPlain c = true := by
    intro c hc
    by_cases hdot : c = '.'
    · rw [hdot]
      decide
    · exact h c ((mem_splitOn_iff hdot).mp ⟨part, hpart, hc⟩)
  obtain ⟨hlower', hstrip'⟩ := @lower_strip_of_isPlain py _ hplain
  rw [hlower', hstrip', id]

end Plain

/-! ### Characters -/

section Characters

variable {c : Char}

theorem isPlain_of_toNat (hspace : 32 < c.toNat) (hascii : c.toNat < 128)
    (hupper : c.toNat < 65 ∨ 90 < c.toNat) : isPlain c = true := by
  have hlower : c.toLower = c := by
    refine dif_neg fun h => ?_
    have hA : 65 ≤ c.toNat := UInt32.le_iff_toNat_le.mp h.1
    have hZ : c.toNat ≤ 90 := UInt32.le_iff_toNat_le.mp h.2
    omega
  have hnot : isAsciiSpace c = false := by
    simp only [isAsciiSpace, Bool.or_eq_false_iff, Bool.and_eq_false_iff, decide_eq_false_iff_not]
    omega
  simp [isPlain, hascii, hlower, hnot]

theorem toNat_of_isDigit (h : c.isDigit = true) : 48 ≤ c.toNat ∧ c.toNat ≤ 57 := by
  simp only [Char.isDigit, Bool.and_eq_true, decide_eq_true_eq] at h
  exact ⟨UInt32.le_iff_toNat_le.mp h.1, UInt32.le_iff_toNat_le.mp h.2⟩

theorem toNat_of_isLower (h : isLower c = true) : 97 ≤ c.toNat ∧ c.toNat ≤ 122 := by
  simp only [isLower, Bool.and_eq_true, decide_eq_true_eq] at h
  exact ⟨UInt32.le_iff_toNat_le.mp h.1, UInt32.le_iff_toNat_le.mp h.2⟩

theorem PyText.isDigit_of_isDigit (py : PyText) (h : c.isDigit = true) : py.isDigit c = true := by
  obtain ⟨-, hle⟩ := toNat_of_isDigit h
  rw [PyText.isDigit, py.digit_ascii c (by omega), asciiDigit, if_pos h]
  rfl

theorem isLower_of_isDigit (h : c.isDigit = true) : isLower c = false := by
  refine Bool.eq_false_iff.mpr fun hlower => ?_
  have hdigit := toNat_of_isDigit h
  have hletter := toNat_of_isLower hlower
  omega

end Characters

/-! ### Numeric versions with a suffix -/

/-- **A dotted numeric version**: all its parts are digits. -/
def IsNumeric (v : Text) : Prop := ∀ part ∈ v.splitOn '.', part ≠ [] ∧ ∀ c ∈ part, c.isDigit = true

/-- A tag: lower-case letters. -/
def IsTag (tag : Text) : Prop := tag ≠ [] ∧ ∀ c ∈ tag, isLower c = true

/-- The last part of a version. -/
def lastPart (v : Text) : Text := (v.splitOn '.').getLastD []

/-- A numbered pre-release of a version. -/
def preRelease (v tag : Text) (i : ℕ) : Text := v ++ '-' :: (tag ++ Nat.toDigits 10 i)

/-- A numbered patch of a version. -/
def patched (v tag : Text) (i : ℕ) : Text := v ++ (tag ++ Nat.toDigits 10 i)

/-- **Numbered suffixes are ordered by number**: of the two suffixes the one with the smaller number
is below the other, pre-releases being below the version and patches above it. -/
structure SuffixesOrdered (py : PyText) (v tag : Text) (i j : ℕ) : Prop where
  preRelease_lt : compareVersions py (preRelease v tag i) (preRelease v tag j) = .ok (-1)
  preRelease_lt_version : compareVersions py (preRelease v tag j) v = .ok (-1)
  version_lt_patched : compareVersions py v (patched v tag i) = .ok (-1)
  patched_lt : compareVersions py (patched v tag i) (patched v tag j) = .ok (-1)

section Suffix

variable {py : PyText} {v suffix : Text}

/-- A suffix that can follow a numeric version: plain, without a dot, and no digit at first. -/
structure IsSuffix (suffix : Text) : Prop where
  plain : ∀ c ∈ suffix, isPlain c = true
  dot_notMem : '.' ∉ suffix
  head_isDigit : ∀ c s, suffix = c :: s → c.isDigit = false

/-- **The parts of a numeric version with a suffix**: the suffix follows the last part. -/
theorem exists_versionParts_append (py : PyText) (hv : IsNumeric v) :
    ∃ parts, (∀ p ∈ parts, p ≠ [] ∧ ∀ c ∈ p, c.isDigit = true) ∧
      (lastPart v ≠ [] ∧ ∀ c ∈ lastPart v, c.isDigit = true) ∧
      ∀ suffix, IsSuffix suffix →
        versionParts py (v ++ suffix) = parts ++ [lastPart v ++ suffix] := by
  obtain ⟨parts, last, hsplit, -⟩ := exists_splitOn_append (t := []) '.' v List.not_mem_nil
  have hlast : lastPart v = last := by
    rw [lastPart, hsplit, List.getLastD_concat]
  rw [hlast]
  unfold IsNumeric at hv
  rw [hsplit] at hv
  refine ⟨parts, fun p hp => hv p (List.mem_append_left _ hp),
    hv last (List.mem_append_right _ (List.mem_singleton_self _)), fun suffix hsuffix => ?_⟩
  have hplain : ∀ c ∈ v ++ suffix, isPlain c = true := by
    intro c hc
    rcases List.mem_append.mp hc with hc | hc
    · by_cases hdot : c = '.'
      · rw [hdot]
        decide
      · obtain ⟨part, hpart, hmem⟩ := (mem_splitOn_iff hdot).mpr hc
        obtain ⟨hge, hle⟩ := toNat_of_isDigit ((hv part (hsplit ▸ hpart)).2 c hmem)
        exact isPlain_of_toNat (by omega) (by omega) (by omega)
    · exact hsuffix.plain c hc
  obtain ⟨parts', last', hsplit', hcont⟩ := exists_splitOn_append '.' v hsuffix.dot_notMem
  rw [versionParts_of_isPlain hplain, hcont]
  obtain ⟨rfl, hlast'⟩ := List.append_inj' (hsplit'.symm.trans hsplit) rfl
  rw [List.singleton_inj.mp hlast']

/-- The digits of a part are those before the suffix. -/
theorem digits_append (py : PyText) {digits : Text} (hdigits : ∀ c ∈ digits, c.isDigit = true)
    (hsuffix : IsSuffix suffix) :
    leadingDigits py (digits ++ suffix) = digits ∧ afterDigits py (digits ++ suffix) = suffix := by
  have hall : ∀ c ∈ digits, py.isDigit c = true := fun c hc => py.isDigit_of_isDigit (hdigits c hc)
  rw [leadingDigits, afterDigits, List.takeWhile_append_of_pos hall,
    List.dropWhile_append_of_pos hall]
  cases suffix with
  | nil => simp
  | cons c s =>
    have hplain := hsuffix.plain c List.mem_cons_self
    simp only [isPlain, Bool.and_eq_true, decide_eq_true_eq] at hplain
    have hc : py.isDigit c = false := py.isDigit_eq_false hplain.1.1
      (by simp [asciiDigit, hsuffix.head_isDigit c s rfl])
    simp [hc]

/-- **A numeric version with a suffix**: its parts begin with digits, and the last one alone can be
too long, as the others have no suffix. -/
theorem isDotted_append (py : PyText) (hv : IsNumeric v) (hsuffix : IsSuffix suffix) :
    IsDotted py (v ++ suffix) ∧
      (versionParts py (v ++ suffix)).any (tooLong py) = tooLong py (lastPart v ++ suffix) := by
  obtain ⟨parts, hparts, ⟨hne, hlast⟩, hversion⟩ := exists_versionParts_append py hv
  have hnil : IsSuffix [] := ⟨by simp, List.not_mem_nil, by simp⟩
  constructor
  · intro p hp
    rw [hversion suffix hsuffix] at hp
    rcases List.mem_append.mp hp with hp | hp
    · have h := (digits_append py (hparts p hp).2 hnil).1
      rw [List.append_nil] at h
      rw [h]
      exact (hparts p hp).1
    · rw [List.mem_singleton.mp hp, (digits_append py hlast hsuffix).1]
      exact hne
  · have hshort : parts.any (tooLong py) = false := by
      refine List.any_eq_false.mpr fun p hp => ?_
      have h := (digits_append py (hparts p hp).2 hnil).2
      rw [List.append_nil] at h
      simp [tooLong, hasTag, h, isPreRelease, isPatch]
    rw [hversion suffix hsuffix, List.any_append, hshort, Bool.false_or]
    simp

/-- **Two suffixes of a numeric version** compare as the parts that they end; the comparison
raises if one of these parts is too long. -/
theorem compareVersions_suffixes (py : PyText) (hv : IsNumeric v) {s t : Text} (hs : IsSuffix s)
    (ht : IsSuffix t) : compareVersions py (v ++ s) (v ++ t) =
      if tooLong py (lastPart v ++ s) || tooLong py (lastPart v ++ t) then .error .valueError
      else .ok (sgn (partComponent py (lastPart v ++ s)).key
        (partComponent py (lastPart v ++ t)).key) := by
  obtain ⟨parts, -, -, hversion⟩ := exists_versionParts_append py hv
  obtain ⟨hdottedS, hlongS⟩ := isDotted_append py hv hs
  obtain ⟨hdottedT, hlongT⟩ := isDotted_append py hv ht
  have hpart : ∀ u, IsSuffix u → ∀ i, partAt py (v ++ u) i =
      if i = parts.length then lastPart v ++ u else ((parts ++ [lastPart v])[i]?).getD ['0'] := by
    intro u hu i
    rw [partAt, hversion u hu]
    rcases lt_trichotomy i parts.length with h | rfl | h
    · rw [if_neg h.ne, List.getElem?_append_left h, List.getElem?_append_left h]
    · simp
    · rw [if_neg h.ne', List.getElem?_eq_none (by simpa using h),
        List.getElem?_eq_none (by simpa using h)]
  rw [compareVersions_of_dotted hdottedS hdottedT, List.any_append, hlongS, hlongT]
  split_ifs with hlong
  · rfl
  · rw [sgn_eq_of_forall_ne (i := parts.length), hpart s hs, hpart t ht, if_pos rfl, if_pos rfl]
    intro j hj
    rw [hpart s hs, hpart t ht, if_neg hj, if_neg hj]

end Suffix

/-! ### The three kinds of parts -/

section Kinds

variable {py : PyText} {digits tag : Text} {n : ℕ}

/-- The decimal text of a number is plain, and without a dot. -/
theorem of_mem_toDigits {c : Char} (h : c ∈ Nat.toDigits 10 n) :
    c.isDigit = true ∧ isPlain c = true ∧ c ≠ '.' ∧ c ≠ '\n' := by
  have hdigit := Decimal.isDigit_of_mem_toDigits h
  obtain ⟨hge, hle⟩ := toNat_of_isDigit hdigit
  refine ⟨hdigit, isPlain_of_toNat (by omega) (by omega) (by omega), ?_, ?_⟩
  · rintro rfl
    exact absurd hdigit (by decide)
  · rintro rfl
    exact absurd hdigit (by decide)

/-- So is a letter. -/
theorem of_isLower {c : Char} (h : isLower c = true) :
    c.isDigit = false ∧ isPlain c = true ∧ c ≠ '.' ∧ c ≠ '\n' := by
  obtain ⟨hge, hle⟩ := toNat_of_isLower h
  refine ⟨?_, isPlain_of_toNat (by omega) (by omega) (by omega), ?_, ?_⟩
  · refine Bool.eq_false_iff.mpr fun hdigit => ?_
    have := toNat_of_isDigit hdigit
    omega
  · rintro rfl
    exact absurd h (by decide)
  · rintro rfl
    exact absurd h (by decide)

/-- A tag with its number is a suffix. -/
theorem isSuffix_patch (htag : IsTag tag) (n : ℕ) : IsSuffix (tag ++ Nat.toDigits 10 n) where
  plain := by
    intro c hc
    rcases List.mem_append.mp hc with hc | hc
    · exact (of_isLower (htag.2 c hc)).2.1
    · exact (of_mem_toDigits hc).2.1
  dot_notMem := by
    intro hc
    rcases List.mem_append.mp hc with hc | hc
    · exact (of_isLower (htag.2 _ hc)).2.2.1 rfl
    · exact (of_mem_toDigits hc).2.2.1 rfl
  head_isDigit := by
    intro c s heq
    obtain ⟨d, tag', rfl⟩ := List.exists_cons_of_ne_nil htag.1
    obtain ⟨rfl, -⟩ := List.cons_eq_cons.mp heq
    exact (of_isLower (htag.2 _ List.mem_cons_self)).1

/-- And so it is after a hyphen. -/
theorem isSuffix_preRelease (htag : IsTag tag) (n : ℕ) :
    IsSuffix ('-' :: (tag ++ Nat.toDigits 10 n)) where
  plain := List.forall_mem_cons.mpr ⟨by decide, (isSuffix_patch htag n).plain⟩
  dot_notMem := by
    rw [List.mem_cons, not_or]
    exact ⟨by decide, (isSuffix_patch htag n).dot_notMem⟩
  head_isDigit := by
    intro c s heq
    obtain ⟨rfl, -⟩ := List.cons_eq_cons.mp heq
    decide

theorem isSuffix_nil : IsSuffix [] := ⟨by simp, List.not_mem_nil, by simp⟩

/-- A hyphen and a tag make a pre-release. -/
theorem isPreRelease_preRelease (htag : IsTag tag) (n : ℕ) :
    isPreRelease ('-' :: (tag ++ Nat.toDigits 10 n)) = true := by
  obtain ⟨c, tag, rfl⟩ := List.exists_cons_of_ne_nil htag.1
  have hrest : '\n' ∉ tag ++ Nat.toDigits 10 n := by
    intro hc
    rcases List.mem_append.mp hc with hc | hc
    · exact (of_isLower (htag.2 _ (List.mem_cons_of_mem c hc))).2.2.2 rfl
    · exact (of_mem_toDigits hc).2.2.2 rfl
  rw [List.cons_append, isPreRelease, htag.2 c List.mem_cons_self, Bool.true_and,
    Bool.not_eq_true', List.contains_eq_mem, decide_eq_false hrest]

/-- A tag alone makes a patch. -/
theorem isPatch_patch (py : PyText) (htag : IsTag tag) (n : ℕ) :
    isPreRelease (tag ++ Nat.toDigits 10 n) = false ∧
      isPatch py (tag ++ Nat.toDigits 10 n) = true := by
  have htake : (tag ++ Nat.toDigits 10 n).takeWhile isLower = tag ∧
      (tag ++ Nat.toDigits 10 n).dropWhile isLower = Nat.toDigits 10 n := by
    rw [List.takeWhile_append_of_pos htag.2, List.dropWhile_append_of_pos htag.2]
    cases hdigits : Nat.toDigits 10 n with
    | nil => simp
    | cons d ds =>
      have hd : isLower d = false := isLower_of_isDigit
        (of_mem_toDigits (n := n) (hdigits ▸ List.mem_cons_self)).1
      simp [hd]
  constructor
  · obtain ⟨c, tag, rfl⟩ := List.exists_cons_of_ne_nil htag.1
    unfold isPreRelease
    split
    · rename_i d s heq
      obtain ⟨rfl, -⟩ := List.cons_eq_cons.mp heq
      exact absurd (htag.2 '-' List.mem_cons_self) (by decide)
    · rfl
  · rw [isPatch, htake.1, htake.2, Bool.and_eq_true, Bool.not_eq_true', List.isEmpty_eq_false_iff]
    exact ⟨htag.1, List.all_eq_true.mpr fun c hc => py.isDigit_of_isDigit (of_mem_toDigits hc).1⟩

/-- Digits without underscores are grouped already. -/
theorem PyText.ungroup_of_isDigit (py : PyText) {s : Text} (hne : s ≠ [])
    (h : ∀ c ∈ s, c.isDigit = true) : py.ungroup s = some s := by
  induction s with
  | nil => exact absurd rfl hne
  | cons c s ih =>
    obtain ⟨hc, hs⟩ := List.forall_mem_cons.mp h
    cases s with
    | nil => rw [PyText.ungroup, if_pos (py.isDigit_of_isDigit hc)]
    | cons d s =>
      rw [PyText.ungroup, if_pos (py.isDigit_of_isDigit hc), ih (List.cons_ne_nil d s) hs,
        Option.map_some]
      · exact fun h => absurd h (List.cons_ne_nil d s)
      · intro s' heq
        obtain ⟨rfl, -⟩ := List.cons_eq_cons.mp heq
        exact absurd (hs '_' List.mem_cons_self) (by decide)

variable (hdigits : ∀ c ∈ digits, c.isDigit = true)
include hdigits

/-- The part of a pre-release. -/
theorem part_preRelease (py : PyText) (htag : IsTag tag) (n : ℕ) :
    tooLong py (digits ++ '-' :: (tag ++ Nat.toDigits 10 n)) =
        decide (PyText.maxStrDigits < digits.length) ∧
      partComponent py (digits ++ '-' :: (tag ++ Nat.toDigits 10 n)) =
        ⟨py.digitsValue digits, some ('-' :: (tag ++ Nat.toDigits 10 n)), none⟩ := by
  obtain ⟨hleading, hafter⟩ := digits_append py hdigits (isSuffix_preRelease htag n)
  have hpre := isPreRelease_preRelease htag n
  constructor
  · rw [tooLong, hasTag, hleading, hafter, hpre, Bool.true_or, Bool.true_and]
  · rw [partComponent, leadingInteger, hleading, hafter, if_pos hpre]

/-- The part of a patch. -/
theorem part_patched (py : PyText) (htag : IsTag tag) (n : ℕ) :
    tooLong py (digits ++ (tag ++ Nat.toDigits 10 n)) =
        decide (PyText.maxStrDigits < digits.length) ∧
      partComponent py (digits ++ (tag ++ Nat.toDigits 10 n)) =
        ⟨py.digitsValue digits, none, some (tag ++ Nat.toDigits 10 n)⟩ := by
  obtain ⟨hleading, hafter⟩ := digits_append py hdigits (isSuffix_patch htag n)
  obtain ⟨hpre, hpatch⟩ := isPatch_patch py htag n
  constructor
  · rw [tooLong, hasTag, hleading, hafter, hpatch, Bool.or_true, Bool.true_and]
  · rw [partComponent, leadingInteger, hleading, hafter, hpre, if_neg Bool.false_ne_true,
      if_pos hpatch]

/-- The part of the version itself, if it has not too many digits. -/
theorem part_digits (py : PyText) (hne : digits ≠ [])
    (hlength : digits.length ≤ PyText.maxStrDigits) :
    tooLong py (digits ++ []) = false ∧
      partComponent py (digits ++ []) = ⟨py.digitsValue digits, none, none⟩ := by
  obtain ⟨hleading, hafter⟩ := digits_append py hdigits isSuffix_nil
  have hint : py.int (digits ++ []) = some (py.digitsValue digits : ℤ) := by
    have hungroup := py.ungroup_of_isDigit hne hdigits
    rw [List.append_nil]
    unfold PyText.int
    split
    · exact absurd (hdigits '-' List.mem_cons_self) (by decide)
    · exact absurd (hdigits '+' List.mem_cons_self) (by decide)
    · simp [hungroup, hlength]
  constructor
  · rw [tooLong, hasTag, hafter]
    rfl
  · rw [partComponent, hafter, hint]
    rfl

end Kinds

/-- Of two versions of the same number the one with the lower kind of suffix is below the other, and
of one kind the one with the smaller text. -/
theorem compareVersions_kinds_lt_iff {py : PyText} {v s t : Text} {cs ct : VersionComponent}
    (hv : IsNumeric v) (hs : IsSuffix s) (ht : IsSuffix t)
    (hcs : tooLong py (lastPart v ++ s) = false ∧ partComponent py (lastPart v ++ s) = cs)
    (hct : tooLong py (lastPart v ++ t) = false ∧ partComponent py (lastPart v ++ t) = ct)
    (hn : cs.n = ct.n) :
    compareVersions py (v ++ s) (v ++ t) = .ok (-1) ↔
      cs.type < ct.type ∨ cs.type = ct.type ∧
        (cs.pre <|> cs.patch).getD [] < (ct.pre <|> ct.patch).getD [] := by
  rw [compareVersions_suffixes py hv hs ht, hcs.1, hct.1, Bool.or_self, if_neg Bool.false_ne_true,
    Except.ok.injEq, sgn_eq_neg_one_iff, hcs.2, hct.2, VersionComponent.key_lt_key_iff, hn,
    or_iff_right (lt_irrefl _), and_iff_right rfl]

/-- **When numbered suffixes are ordered by number**: the last part of the version has no more
digits than `int` takes, and the smaller number does not exceed the first digits of the greater
one, as many as it has itself. -/
theorem compareVersions_numbered_iff (py : PyText) {v tag : Text} {i j : ℕ} (hv : IsNumeric v)
    (htag : IsTag tag) (hij : i < j) :
    SuffixesOrdered py v tag i j ↔
      (lastPart v).length ≤ PyText.maxStrDigits ∧
        i ≤ j / 10 ^ (Nat.log 10 j - Nat.log 10 i) := by
  obtain ⟨-, -, ⟨hne, hdigits⟩, -⟩ := exists_versionParts_append py hv
  have hpre : ∀ n, IsSuffix ('-' :: (tag ++ Nat.toDigits 10 n)) := isSuffix_preRelease htag
  have hpatch : ∀ n, IsSuffix (tag ++ Nat.toDigits 10 n) := isSuffix_patch htag
  by_cases hlength : (lastPart v).length ≤ PyText.maxStrDigits
  · rw [and_iff_right hlength, ← Decimal.toDigits_lt_toDigits_iff hij]
    have hshort : decide (PyText.maxStrDigits < (lastPart v).length) = false :=
      decide_eq_false (not_lt.mpr hlength)
    have hpreParts := fun n => (part_preRelease hdigits py htag n).imp_left fun h => h.trans hshort
    have hpatchParts := fun n => (part_patched hdigits py htag n).imp_left fun h => h.trans hshort
    have hplain := part_digits hdigits py hne hlength
    have hnumbers : ∀ prefixed, (prefixed ++ Nat.toDigits 10 i < prefixed ++ Nat.toDigits 10 j) ↔
        Nat.toDigits 10 i < Nat.toDigits 10 j :=
      fun prefixed => Decimal.append_lt_append_iff prefixed
    -- the tags are the same, so the texts of the numbers decide
    have hpreLt : compareVersions py (preRelease v tag i) (preRelease v tag j) = .ok (-1) ↔
        Nat.toDigits 10 i < Nat.toDigits 10 j := by
      rw [preRelease, preRelease, compareVersions_kinds_lt_iff hv (hpre i) (hpre j)
        (hpreParts i) (hpreParts j) rfl, ← hnumbers ('-' :: tag)]
      simp [VersionComponent.type]
    have hpatchLt : compareVersions py (patched v tag i) (patched v tag j) = .ok (-1) ↔
        Nat.toDigits 10 i < Nat.toDigits 10 j := by
      rw [patched, patched, compareVersions_kinds_lt_iff hv (hpatch i) (hpatch j)
        (hpatchParts i) (hpatchParts j) rfl, ← hnumbers tag]
      simp [VersionComponent.type]
    -- and without a suffix the kind does
    have hbelow := (compareVersions_kinds_lt_iff hv (hpre j) isSuffix_nil (hpreParts j) hplain
      rfl).mpr (.inl Nat.zero_lt_one)
    have habove := (compareVersions_kinds_lt_iff hv isSuffix_nil (hpatch i) hplain (hpatchParts i)
      rfl).mpr (.inl Nat.one_lt_two)
    rw [List.append_nil] at hbelow habove
    exact ⟨fun h => hpreLt.mp h.preRelease_lt,
      fun h => ⟨hpreLt.mpr h, hbelow, habove, hpatchLt.mpr h⟩⟩
  · -- `int` raises on the digits before the suffix
    refine iff_of_false (fun h => ?_) fun h => hlength h.1
    have hraises := h.preRelease_lt
    rw [preRelease, preRelease, compareVersions_suffixes py hv (hpre i) (hpre j),
      (part_preRelease hdigits py htag i).1, decide_eq_true (not_le.mp hlength), Bool.true_or,
      if_pos rfl] at hraises
    cases hraises

/-! ### The tenth release candidate -/

theorem isNumeric_one_zero : IsNumeric "1.0".toList := by
  have hsplit : "1.0".toList.splitOn '.' = ["1".toList, "0".toList] := rfl
  rw [IsNumeric, hsplit]
  exact List.forall_mem_cons.mpr ⟨⟨by decide, List.all_eq_true.mp (by decide)⟩,
    List.forall_mem_singleton.mpr ⟨by decide, List.all_eq_true.mp (by decide)⟩⟩

theorem isTag_rc : IsTag "rc".toList := ⟨by decide, List.all_eq_true.mp (by decide)⟩

/-- **The tenth release candidate is below the second one.** -/
theorem numbered_not_ordered : IsNumeric "1.0".toList ∧ IsTag "rc".toList ∧ 2 < 10 ∧
    compareVersions .ascii (preRelease "1.0".toList "rc".toList 2)
      (preRelease "1.0".toList "rc".toList 10) = .ok 1 ∧
    ¬SuffixesOrdered .ascii "1.0".toList "rc".toList 2 10 := by
  have hcompare : compareVersions .ascii (preRelease "1.0".toList "rc".toList 2)
      (preRelease "1.0".toList "rc".toList 10) = .ok 1 := rfl
  refine ⟨isNumeric_one_zero, isTag_rc, by decide, hcompare, fun h => ?_⟩
  have hlt := h.preRelease_lt
  rw [hcompare] at hlt
  cases hlt

/-- The second one is above the first. -/
theorem numbered_ordered : SuffixesOrdered .ascii "1.0".toList "rc".toList 1 2 ↔
    (lastPart "1.0".toList).length ≤ PyText.maxStrDigits ∧
      1 ≤ 2 / 10 ^ (Nat.log 10 2 - Nat.log 10 1) :=
  compareVersions_numbered_iff .ascii isNumeric_one_zero isTag_rc (by decide)

end CveManagement
