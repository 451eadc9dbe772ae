import CveManagement.Resolution.Ordering
import Mathlib

/-!
# The parts of a version

`_parse_component` on a part that begins with a digit. It recognises three shapes – digits with a
pre-release suffix, digits with a patch suffix, and what `int` reads – and takes any other part
for a pre-release of zero; where it recognises a suffix, it raises if there are too many digits
before it.
-/

namespace CveManagement

open Comparison

section Parts

variable (py : PyText)

/-- **The parts of a version**, each as `_parse_component` has it when it looks at its shape. -/
def versionParts (v : Text) : List Text :=
  ((py.lower (py.strip v)).splitOn '.').map fun part => py.strip (py.lower part)

/-- The digits that a part begins with. -/
def leadingDigits (p : Text) : Text := p.takeWhile py.isDigit

/-- What follows these. -/
def afterDigits (p : Text) : Text := p.dropWhile py.isDigit

/-- The leading integer of a part. -/
def leadingInteger (p : Text) : ℕ := py.digitsValue (leadingDigits py p)

/-- The suffix is one that `_parse_component` recognises. -/
def hasTag (p : Text) : Bool := isPreRelease (afterDigits py p) || isPatch py (afterDigits py p)

/-- `int` raises on the digits before a suffix. -/
def tooLong (p : Text) : Bool :=
  hasTag py p && decide (PyText.maxStrDigits < (leadingDigits py p).length)

/-- **Every part of the version begins with a digit.** -/
def IsDotted (v : Text) : Prop := ∀ p ∈ versionParts py v, leadingDigits py p ≠ []

/-- The part at a position; a version that has ended goes on with the part `0`. -/
def partAt (v : Text) (i : ℕ) : Text := ((versionParts py v)[i]?).getD ['0']

/-- The component of a part that begins with a digit, where `int` does not raise. -/
def partComponent (p : Text) : VersionComponent :=
  if isPreRelease (afterDigits py p) then ⟨leadingInteger py p, some (afterDigits py p), none⟩
  else if isPatch py (afterDigits py p) then ⟨leadingInteger py p, none, some (afterDigits py p)⟩
  else match py.int p with
    | some n => ⟨n, none, none⟩
    | none => ⟨0, some ('-' :: p), none⟩

end Parts

section Read

variable {py : PyText} {p : Text} {v : Text}

/-- **The component of a part that begins with a digit.** -/
theorem parseComponent_of_digit {part : Text}
    (hdigit : leadingDigits py (py.strip (py.lower part)) ≠ []) :
    parseComponent py part = if tooLong py (py.strip (py.lower part)) then .error .valueError
      else .ok (partComponent py (py.strip (py.lower part))) := by
  have hdef : parseComponent py part =
      (if !(leadingDigits py (py.strip (py.lower part))).isEmpty &&
          isPreRelease (afterDigits py (py.strip (py.lower part))) then do
        return ⟨← leadingNumber py (leadingDigits py (py.strip (py.lower part))),
          some (afterDigits py (py.strip (py.lower part))), none⟩
      else if !(leadingDigits py (py.strip (py.lower part))).isEmpty &&
          isPatch py (afterDigits py (py.strip (py.lower part))) then do
        return ⟨← leadingNumber py (leadingDigits py (py.strip (py.lower part))), none,
          some (afterDigits py (py.strip (py.lower part)))⟩
      else match py.int (py.strip (py.lower part)) with
        | some n => .ok ⟨n, none, none⟩
        | none => .ok ⟨0, some ('-' :: py.strip (py.lower part)), none⟩) := rfl
  rw [hdef]
  generalize py.strip (py.lower part) = p at hdigit ⊢
  have hne : (!(leadingDigits py p).isEmpty) = true := by simpa using hdigit
  rw [hne, Bool.true_and, Bool.true_and]
  unfold tooLong partComponent hasTag leadingNumber leadingInteger
  by_cases hpre : isPreRelease (afterDigits py p) = true
  · by_cases hlong : (leadingDigits py p).length ≤ PyText.maxStrDigits
    · simp [hpre, hlong, not_lt.mpr hlong, bind, Except.bind, pure, Except.pure]
    · simp [hpre, hlong, not_le.mp hlong, bind, Except.bind]
  by_cases hpatch : isPatch py (afterDigits py p) = true
  · by_cases hlong : (leadingDigits py p).length ≤ PyText.maxStrDigits
    · simp [hpre, hpatch, hlong, not_lt.mpr hlong, bind, Except.bind, pure, Except.pure]
    · simp [hpre, hpatch, hlong, not_le.mp hlong, bind, Except.bind]
  · cases py.int p <;> simp [hpre, hpatch]

/-- A loop whose rounds raise the same exception or none. -/
theorem mapM_eq_ite {α β ε : Type} {f : α → Except ε β} {g : α → β} {raises : α → Bool} {e : ε}
    {l : List α} (h : ∀ a ∈ l, f a = if raises a then .error e else .ok (g a)) :
    l.mapM f = if l.any raises then .error e else .ok (l.map g) := by
  induction l with
  | nil => rfl
  | cons a l ih =>
    rw [List.mapM_cons, h a List.mem_cons_self, ih fun b hb => h b (List.mem_cons_of_mem a hb),
      List.any_cons]
    cases raises a with
    | true => rfl
    | false => cases l.any raises <;> rfl

/-- A version whose parts begin with digits is no wildcard. -/
theorem IsDotted.not_wildcard (h : IsDotted py v) :
    py.lower (py.strip v) ∉ ["*".toList, "-".toList, [], "n/a".toList, "none".toList] := by
  intro hmem
  have hread : ∀ w ∈ [['*'], ['-'], [], ['n', '/', 'a'], ['n', 'o', 'n', 'e']],
      leadingDigits py (py.strip (py.lower w)) = [] ∧ w.splitOn '.' = [w] := by
    have hdigit : ∀ c : Char, c.toNat < 128 → asciiDigit c = none → py.isDigit c = false := by
      intro c hascii hnone
      rw [PyText.isDigit, py.digit_ascii c hascii, hnone]
      rfl
    have hspace : ∀ c : Char, c.toNat < 128 → isAsciiSpace c = false → py.isSpace c = false := by
      intro c hascii hnone
      rw [py.isSpace_ascii c hascii, hnone]
    intro w hw
    simp only [List.mem_cons, List.not_mem_nil, or_false] at hw
    rcases hw with rfl | rfl | rfl | rfl | rfl <;> refine ⟨?_, rfl⟩ <;>
      rw [py.lower_ascii _ (by simp)] <;>
      simp [PyText.strip, hspace, leadingDigits, hdigit, isAsciiSpace, asciiDigit]
  obtain ⟨hnone, hsplit⟩ := hread _ hmem
  refine h (py.strip (py.lower (py.lower (py.strip v)))) ?_ hnone
  rw [versionParts, hsplit]
  exact List.mem_singleton_self _

/-- **The components of a version whose parts begin with digits.** -/
theorem parseVersion_of_dotted (h : IsDotted py v) :
    parseVersion py v = if (versionParts py v).any (tooLong py) then .error .valueError
      else .ok (some ((versionParts py v).map (partComponent py))) := by
  have hwild := h.not_wildcard
  have hne : v.isEmpty = false := by
    cases v with
    | nil =>
      refine absurd ?_ hwild
      have hlower : py.lower (py.strip []) = [] := py.lower_ascii [] (by simp)
      rw [hlower]
      simp
    | cons c v => rfl
  have hmap : ((py.lower (py.strip v)).splitOn '.').mapM (parseComponent py) =
      if (versionParts py v).any (tooLong py) then .error .valueError
        else .ok ((versionParts py v).map (partComponent py)) := by
    rw [versionParts, List.any_map, List.map_map]
    exact mapM_eq_ite fun part hpart => parseComponent_of_digit
      (h _ (List.mem_map_of_mem hpart))
  unfold parseVersion
  rw [if_neg (by rw [hne]; exact Bool.false_ne_true)]
  dsimp only
  rw [if_neg fun hmem => hwild (List.contains_iff_mem.mp hmem), hmap]
  split_ifs <;> rfl

/-! ### What `int` reads -/

theorem PyText.isDigit_eq_false (py : PyText) {c : Char} (hascii : c.toNat < 128)
    (hnone : asciiDigit c = none) : py.isDigit c = false := by
  rw [PyText.isDigit, py.digit_ascii c hascii, hnone]
  rfl

theorem PyText.isDigit_underscore (py : PyText) : py.isDigit '_' = false :=
  py.isDigit_eq_false (by decide) (by decide)

theorem PyText.isDigit_hyphen (py : PyText) : py.isDigit '-' = false :=
  py.isDigit_eq_false (by decide) (by decide)

theorem PyText.isDigit_of_isLower (py : PyText) {c : Char} (h : isLower c = true) :
    py.isDigit c = false := by
  simp only [isLower, Bool.and_eq_true, decide_eq_true_eq, Char.le_def,
    UInt32.le_iff_toNat_le] at h
  have ha : ('a' : Char).val.toNat = 97 := rfl
  have hz : ('z' : Char).val.toNat = 122 := rfl
  have hc : c.val.toNat = c.toNat := rfl
  refine py.isDigit_eq_false (by omega) ?_
  have hnot : c.isDigit = false := by
    simp only [Char.isDigit, Bool.and_eq_false_iff, decide_eq_false_iff_not, ge_iff_le,
      UInt32.le_iff_toNat_le]
    right
    have hnine : ('9' : Char).val.toNat = 57 := rfl
    omega
  simp [asciiDigit, hnot]

/-- **What a run of digits with underscores consists of.** -/
theorem PyText.ungroup_eq_some {s ds : Text} (h : py.ungroup s = some ds) :
    (∀ c ∈ s, py.isDigit c = true ∨ c = '_') ∧ ds = s.filter py.isDigit := by
  fun_induction PyText.ungroup py s generalizing ds with
  | case1 => cases h
  | case2 c hc =>
    obtain rfl := Option.some.inj h
    exact ⟨List.forall_mem_singleton.mpr (.inl hc), by simp [hc]⟩
  | case3 => cases h
  | case4 c s hc ih =>
    obtain ⟨ds', hds', rfl⟩ := Option.map_eq_some_iff.mp h
    obtain ⟨hall, rfl⟩ := ih hds'
    exact ⟨List.forall_mem_cons.mpr ⟨.inl hc, List.forall_mem_cons.mpr ⟨.inr rfl, hall⟩⟩,
      by simp [hc, py.isDigit_underscore]⟩
  | case5 => cases h
  | case6 c s hone hunderscore hc ih =>
    obtain ⟨ds', hds', rfl⟩ := Option.map_eq_some_iff.mp h
    obtain ⟨hall, rfl⟩ := ih hds'
    exact ⟨List.forall_mem_cons.mpr ⟨.inl hc, hall⟩, by simp [hc]⟩
  | case7 => cases h

/-- More digits make no smaller number. -/
theorem PyText.digitsValue_le_append (py : PyText) (ds es : Text) :
    py.digitsValue ds ≤ py.digitsValue (ds ++ es) := by
  have hfold : ∀ n : ℕ, n ≤ es.foldl (fun n c => n * 10 + (py.digit c).getD 0) n := by
    intro n
    induction es generalizing n with
    | nil => exact le_rfl
    | cons e es ih =>
      have hstep : n ≤ n * 10 + (py.digit e).getD 0 := by omega
      exact hstep.trans (ih _)
  rw [PyText.digitsValue, PyText.digitsValue, List.foldl_append]
  exact hfold _

/-- **What `int` makes of a part that begins with a digit**: the part consists of digits and
underscores, and the number is not less than the leading integer. -/
theorem int_of_digit {n : ℤ} (hdigit : leadingDigits py p ≠ []) (h : py.int p = some n) :
    (∀ c ∈ p, py.isDigit c = true ∨ c = '_') ∧ (leadingInteger py p : ℤ) ≤ n := by
  have hunsigned : ∃ ds, py.ungroup p = some ds ∧ n = py.digitsValue ds := by
    unfold PyText.int at h
    have hsign : ∀ c s, p = c :: s → c ≠ '-' ∧ c ≠ '+' := by
      rintro c s rfl
      constructor
      · rintro rfl
        refine hdigit (List.takeWhile_cons_of_neg ?_)
        rw [py.isDigit_hyphen]
        exact Bool.false_ne_true
      · rintro rfl
        refine hdigit (List.takeWhile_cons_of_neg ?_)
        rw [py.isDigit_eq_false (by decide) (by decide)]
        exact Bool.false_ne_true
    split at h
    · exact absurd rfl (hsign _ _ rfl).1
    · exact absurd rfl (hsign _ _ rfl).2
    · obtain ⟨m, hm, rfl⟩ := Option.map_eq_some_iff.mp h
      obtain ⟨k, hk, hkm⟩ := Option.bind_eq_some_iff.mp hm
      obtain ⟨ds, hds, hlength⟩ := Option.bind_eq_some_iff.mp hk
      split_ifs at hlength
      obtain rfl := Option.some.inj hlength
      exact ⟨ds, hds, (Option.some.inj hkm).symm⟩
  obtain ⟨ds, hds, rfl⟩ := hunsigned
  obtain ⟨hall, rfl⟩ := PyText.ungroup_eq_some hds
  refine ⟨hall, Int.ofNat_le.mpr ?_⟩
  -- the leading digits are the first of all digits
  have hsplit : p.filter py.isDigit =
      leadingDigits py p ++ (afterDigits py p).filter py.isDigit := by
    conv_lhs => rw [← List.takeWhile_append_dropWhile (p := py.isDigit) (l := p)]
    rw [List.filter_append, List.filter_eq_self.mpr fun c hc => List.mem_takeWhile_imp hc]
    rfl
  rw [hsplit]
  exact py.digitsValue_le_append _ _

/-- `int` does not read a part with a suffix that is recognised. -/
theorem int_of_hasTag (hdigit : leadingDigits py p ≠ []) (h : hasTag py p = true) :
    py.int p = none := by
  refine Option.eq_none_iff_forall_ne_some.mpr fun n hn => ?_
  obtain ⟨hall, -⟩ := int_of_digit hdigit hn
  have hafter : ∀ c ∈ afterDigits py p, py.isDigit c = true ∨ c = '_' :=
    fun c hc => hall c ((List.dropWhile_suffix _).subset hc)
  -- the suffix begins with a hyphen or with a letter
  obtain ⟨c, s, hcs, hc⟩ : ∃ c s, afterDigits py p = c :: s ∧ (c = '-' ∨ isLower c = true) := by
    rcases Bool.or_eq_true_iff.mp h with hpre | hpatch
    · unfold isPreRelease at hpre
      split at hpre
      · rename_i c s heq
        exact ⟨'-', _, heq, .inl rfl⟩
      · cases hpre
    · rw [isPatch, Bool.and_eq_true, Bool.not_eq_true', List.isEmpty_eq_false_iff] at hpatch
      cases hs : afterDigits py p with
      | nil =>
        rw [hs] at hpatch
        exact absurd rfl hpatch.1
      | cons c s =>
        refine ⟨c, s, rfl, .inr ?_⟩
        by_contra hnot
        rw [hs] at hpatch
        exact hpatch.1 (List.takeWhile_cons_of_neg hnot)
  rcases hafter c (hcs ▸ List.mem_cons_self) with hd | rfl
  · rcases hc with rfl | hlower
    · rw [py.isDigit_hyphen] at hd
      cases hd
    · rw [py.isDigit_of_isLower hlower] at hd
      cases hd
  · rcases hc with hc | hc
    · exact absurd hc (by decide)
    · exact absurd hc (by decide)

/-! ### The shapes of a part -/

/-- **The shapes of a part that begins with a digit**: a pre-release, a patch, what `int` reads,
and what is left for the fallback. -/
theorem part_cases (hdigit : leadingDigits py p ≠ []) :
    (isPreRelease (afterDigits py p) = true ∧ py.int p = none ∧
        partComponent py p = ⟨leadingInteger py p, some (afterDigits py p), none⟩) ∨
      (isPreRelease (afterDigits py p) = false ∧ isPatch py (afterDigits py p) = true ∧
        py.int p = none ∧
        partComponent py p = ⟨leadingInteger py p, none, some (afterDigits py p)⟩) ∨
      (isPreRelease (afterDigits py p) = false ∧ isPatch py (afterDigits py p) = false ∧
        ∃ n, py.int p = some n ∧ (leadingInteger py p : ℤ) ≤ n ∧
          partComponent py p = ⟨n, none, none⟩) ∨
      isPreRelease (afterDigits py p) = false ∧ isPatch py (afterDigits py p) = false ∧
        py.int p = none ∧ partComponent py p = ⟨0, some ('-' :: p), none⟩ := by
  unfold partComponent
  cases hpre : isPreRelease (afterDigits py p) with
  | true => exact .inl ⟨rfl, int_of_hasTag hdigit (by rw [hasTag, hpre, Bool.true_or]), by simp⟩
  | false =>
    cases hpatch : isPatch py (afterDigits py p) with
    | true =>
      have hint := int_of_hasTag hdigit (by rw [hasTag, hpatch, Bool.or_true])
      exact .inr (.inl ⟨rfl, rfl, hint, by simp⟩)
    | false =>
      cases hint : py.int p with
      | some n =>
        exact .inr (.inr (.inl ⟨rfl, rfl, n, rfl, (int_of_digit hdigit hint).2, by simp⟩))
      | none => exact .inr (.inr (.inr ⟨rfl, rfl, rfl, by simp⟩))

/-- The part `0`, which goes on a version that has ended. -/
theorem partComponent_zero (py : PyText) : partComponent py ['0'] = .zero := by
  have hdigit : py.digit '0' = some 0 := by
    rw [py.digit_ascii '0' (by decide)]
    decide
  simp [partComponent, afterDigits, PyText.isDigit, hdigit, isPreRelease, isPatch, PyText.int,
    PyText.ungroup, PyText.maxStrDigits, PyText.digitsValue, VersionComponent.zero]

theorem leadingDigits_partAt (h : IsDotted py v) (i : ℕ) :
    leadingDigits py (partAt py v i) ≠ [] := by
  unfold partAt
  cases hi : (versionParts py v)[i]? with
  | some p => exact h p (List.mem_of_getElem? hi)
  | none =>
    have hdigit : py.digit '0' = some 0 := by
      rw [py.digit_ascii '0' (by decide)]
      decide
    simp [leadingDigits, PyText.isDigit, hdigit]

/-- The sequence of a version, by its parts. -/
theorem versionSequence_map (v : Text) :
    versionSequence ((versionParts py v).map (partComponent py)) =
      toLex fun i => (partComponent py (partAt py v i)).key := by
  refine congrArg toLex (funext fun i => congrArg _ ?_)
  rw [partAt, List.getElem?_map, ← partComponent_zero py, Option.getD_map]

/-- **Versions whose parts begin with digits**: the comparison raises if a part is too long, and
else it is that of the components of their parts. -/
theorem compareVersions_of_dotted {a b : Text} (ha : IsDotted py a) (hb : IsDotted py b) :
    compareVersions py a b =
      if (versionParts py a ++ versionParts py b).any (tooLong py) then .error .valueError
      else .ok (sgn (toLex fun i => (partComponent py (partAt py a i)).key)
        (toLex fun i => (partComponent py (partAt py b i)).key)) := by
  have hpa := parseVersion_of_dotted ha
  have hpb := parseVersion_of_dotted hb
  rw [List.any_append]
  cases hlongA : (versionParts py a).any (tooLong py) with
  | true =>
    rw [hlongA, if_pos rfl] at hpa
    rw [compareVersions, hpa]
    rfl
  | false =>
    rw [hlongA, if_neg Bool.false_ne_true] at hpa
    cases hlongB : (versionParts py b).any (tooLong py) with
    | true =>
      rw [hlongB, if_pos rfl] at hpb
      rw [compareVersions, hpa, hpb]
      rfl
    | false =>
      rw [hlongB, if_neg Bool.false_ne_true] at hpb
      rw [compareVersions_of_parse hpa hpb, versionSequence_map, versionSequence_map]
      rfl

end Read

end CveManagement
