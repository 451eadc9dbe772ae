import CveManagement.Ingestion.Stubs
import Mathlib.Tactic.NormNum

/-!
# The columns of a stub

The two scores of a row of `cves` are of type `NUMERIC(4,1)`, and its severity is one of five texts
or `NULL`: a row that is not so makes the `executemany` of its whole batch fail. The two parsers of
items take a score as it comes, and that of OpenCVE takes the vector of CVSS for the severity.
`CveManagement.rowsFit_iff` says of which items the row fits.
-/

namespace CveManagement

/-! ### What fits -/

/-- **A score fits its column**: it is `NULL`, or finite and in the range of `NUMERIC(4,1)`. -/
def ScoreFits (score : Option PyFloat) : Prop :=
  ∀ x, score = some x → ∃ q, x = .fin q ∧ (numericColumn (some x)).isSome = true

/-- The values of the columns fit. -/
structure ColumnsFit (v3 v2 : Option PyFloat) (severity : Json) : Prop where
  v3 : ScoreFits v3
  v2 : ScoreFits v2
  severity : (severityColumn severity).isSome = true

/-- **The item is scored**: it becomes a row, or the scores that it would have raise. -/
def Scored {α : Type} (row : Except PyError (Option α)) : Prop :=
  row = .error .overflowError ∨ ∃ r, row = .ok (some r)

/-- The item becomes a row that fits. -/
def Yields {α : Type} (fits : α → Prop) (row : Except PyError (Option α)) : Prop :=
  ∃ r, row = .ok (some r) ∧ fits r

/-- A row of OpenCVE fits. -/
def OpenCveRow.Fits (r : OpenCveRow) : Prop :=
  ColumnsFit r.cvssV3Score r.cvssV2Score r.severity

/-- A row of CIRCL fits; it has no score of version 3. -/
def CirclRow.Fits (r : CirclRow) : Prop :=
  ColumnsFit none r.cvssV2Score ((r.severity.map Json.str).getD .null)

/-! ### Items -/

/-- A number is finite, and is rounded to less than a thousand. -/
def PyFloat.Small (x : PyFloat) : Prop := ∃ q : ℚ, x = .fin q ∧ |q| < 999.95

/-- **`float` takes the value without an overflow, and what it reads is small.** -/
def SmallIfRead (py : PyParse) (j : Json) : Prop :=
  ¬j.TooLarge ∧ ∀ x, py.floatOf j = .ok x → x.Small

/-- `float` does not read the value, in a way that is expected. -/
def Unreadable (py : PyParse) (j : Json) : Prop :=
  j ≠ .null ∧ ¬j.TooLarge ∧ (py.floatOf j).toOption = none

/-- The scores of an object: one of them cannot be read, without an overflow before, and then
neither counts, or both are small. -/
def HarmlessScores (py : PyParse) (v3 v2 : Json) : Prop :=
  Unreadable py v3 ∨ ¬v3.TooLarge ∧ Unreadable py v2 ∨ SmallIfRead py v3 ∧ SmallIfRead py v2

/-- A severity, or nothing. -/
def HarmlessVector (vector : Json) : Prop :=
  vector.truthy = false ∨
    ∃ s ∈ ["CRITICAL", "HIGH", "MEDIUM", "LOW", "NONE"], vector = .str s

/-- **A member `cvss` of OpenCVE that does no harm.** -/
def HarmlessCvss (py : PyParse) : Json → Prop
  | .obj members =>
    HarmlessScores py
        (((Json.member? "v3" members).getD .null).or ((Json.member? "v31" members).getD .null))
        ((Json.member? "v2" members).getD .null) ∧
      HarmlessVector ((Json.member? "v3_vector" members).getD (.str ""))
  | .num q => (PyFloat.fin q).Small
  | _ => True

/-! ### Columns -/

section Columns

variable {py : PyParse}

/-- **A number fits exactly if it is small.** -/
theorem scoreFits_some_iff {x : PyFloat} : ScoreFits (some x) ↔ x.Small := by
  have hrange : ∀ q : ℚ, (numericColumn (some (.fin q))).isSome = true ↔ |q| < 999.95 := by
    intro q
    have htenths : |Rounding.halfAway (q * 10)| < 10000 ↔ |q| < 999.95 := by
      have hbound := Rounding.abs_halfAway_lt_iff (x := q * 10) (n := 10000)
      rw [hbound, abs_mul]
      norm_num
      constructor <;> intro h <;> linarith
    rw [← htenths, numericColumn]
    split_ifs with hlt
    · exact iff_of_true rfl hlt
    · exact iff_of_false (by simp) hlt
  constructor
  · intro h
    obtain ⟨q, rfl, hq⟩ := h x rfl
    exact ⟨q, rfl, (hrange q).mp hq⟩
  · rintro ⟨q, rfl, hq⟩ x hx
    obtain rfl := Option.some.inj hx
    exact ⟨q, rfl, (hrange q).mpr hq⟩

theorem scoreFits_none : ScoreFits none := fun _ h => by cases h

/-- What is read fits exactly if it is small. -/
theorem scoreFits_floatOf_iff {j : Json} (h : ¬j.TooLarge) :
    ScoreFits (py.floatOf j).toOption ↔ SmallIfRead py j := by
  rw [SmallIfRead, and_iff_right h]
  cases py.floatOf j with
  | error e => exact iff_of_true scoreFits_none fun x hx => by cases hx
  | ok y =>
    have hread : (Except.ok y : Except PyError PyFloat).toOption = some y := rfl
    rw [hread, scoreFits_some_iff]
    constructor
    · intro hsmall x hx
      obtain rfl := Except.ok.inj hx
      exact hsmall
    · intro hsmall
      exact hsmall y rfl

/-- What is small is not too large. -/
theorem not_tooLarge_of_small {q : ℚ} (h : (PyFloat.fin q).Small) : ¬(Json.num q).TooLarge := by
  obtain ⟨q', hq, hlt⟩ := h
  obtain rfl := PyFloat.fin.inj hq
  have hbound : (999.95 : ℚ) < 2 ^ 1024 - 2 ^ 970 :=
    calc (999.95 : ℚ) < 2 ^ 54 - 1 := by norm_num
      _ ≤ 2 ^ 970 * (2 ^ 54 - 1) :=
        le_mul_of_one_le_left (by norm_num) (one_le_pow₀ (by norm_num))
      _ = 2 ^ 1024 - 2 ^ 970 := by rw [mul_sub, ← pow_add, mul_one]
  exact not_le.mpr (hlt.trans hbound)

/-- The column takes a vector exactly if it is a severity, or nothing. -/
theorem severityColumn_or_null_iff (vector : Json) :
    (severityColumn (vector.or .null)).isSome = true ↔ HarmlessVector vector := by
  rw [Json.or, HarmlessVector]
  cases htruthy : vector.truthy with
  | false => exact iff_of_true rfl (.inl rfl)
  | true =>
    rw [if_pos rfl]
    cases vector with
    | null => cases htruthy
    | str s =>
      rw [severityColumn]
      split_ifs with hs
      · exact iff_of_true rfl (.inr ⟨s, hs, rfl⟩)
      · refine iff_of_false (by simp) ?_
        rintro (hno | ⟨s', hs', heq⟩)
        · cases hno
        · obtain rfl := Json.str.inj heq
          exact hs hs'
    | bool b | num q | arr items | obj members =>
      refine iff_of_false (by simp [severityColumn]) ?_
      rintro (hno | ⟨s, -, heq⟩)
      · cases hno
      · cases heq

end Columns

/-! ### Rows -/

section Rows

variable {py : PyParse} {now : Instant} {item : Json}

/-- **What comes of a score**: it is missing or read, it cannot be read, or it is too large. -/
theorem readScore_cases (py : PyParse) (j : Json) :
    ¬j.TooLarge ∧ ¬Unreadable py j ∧ py.readScore j = .ok (py.floatOf j).toOption ∨
      (Unreadable py j ∧ ∃ e, (e = .typeError ∨ e = .valueError) ∧ py.readScore j = .error e) ∨
      j.TooLarge ∧ py.readScore j = .error .overflowError := by
  cases j with
  | null => exact .inl ⟨id, fun h => h.1 rfl, rfl⟩
  | bool b => exact .inl ⟨id, fun h => absurd h.2.2 (Option.some_ne_none _), rfl⟩
  | arr items | obj members =>
    exact .inr (.inl ⟨⟨Json.noConfusion, id, rfl⟩, _, .inl rfl, rfl⟩)
  | num q =>
    by_cases hlarge : (Json.num q).TooLarge
    · refine .inr (.inr ⟨hlarge, ?_⟩)
      rw [PyParse.readScore, PyParse.floatOf_eq_overflow_iff.mpr hlarge]
      · rfl
      · exact Json.noConfusion
    · refine .inl ⟨hlarge, fun h => ?_, ?_⟩
      · rw [Unreadable, PyParse.floatOf_num hlarge] at h
        exact absurd h.2.2 (Option.some_ne_none _)
      · rw [PyParse.readScore, PyParse.floatOf_num hlarge]
        · rfl
        · exact Json.noConfusion
  | str s =>
    have hread : py.floatOf (.str s) = (py.float s.toList).elim (.error .valueError) .ok := rfl
    have hscore : py.readScore (.str s) = some <$> py.floatOf (.str s) := rfl
    rw [hscore, Unreadable, hread]
    cases py.float s.toList with
    | none => exact .inr (.inl ⟨⟨Json.noConfusion, id, rfl⟩, _, .inr rfl, rfl⟩)
    | some x => exact .inl ⟨id, fun h => absurd h.2.2 (Option.some_ne_none _), rfl⟩

/-- **The two scores of an object come through and fit** exactly if they do no harm. -/
theorem scoreFits_openCveScores_iff (v3 v2 : Json) :
    (∃ x y, openCveScores py v3 v2 = .ok (x, y) ∧ ScoreFits x ∧ ScoreFits y) ↔
      HarmlessScores py v3 v2 := by
  have hneither : ∃ x y, (.ok (none, none) : Except PyError _) = .ok (x, y) ∧ ScoreFits x ∧
      ScoreFits y := ⟨none, none, rfl, scoreFits_none, scoreFits_none⟩
  rw [HarmlessScores, openCveScores]
  rcases readScore_cases py v3 with ⟨hlarge3, hread3, h3⟩ | ⟨h, e, he, h3⟩ | ⟨hlarge3, h3⟩
  · rw [or_iff_right hread3, and_iff_right hlarge3, h3]
    rcases readScore_cases py v2 with ⟨hlarge2, hread2, h2⟩ | ⟨h, e, he, h2⟩ | ⟨hlarge2, h2⟩
    · rw [or_iff_right hread2, h2, ← scoreFits_floatOf_iff hlarge3,
        ← scoreFits_floatOf_iff hlarge2]
      constructor
      · rintro ⟨x, y, hscores, hfits⟩
        obtain ⟨rfl, rfl⟩ := Prod.mk.inj (Except.ok.inj hscores)
        exact hfits
      · intro hfits
        exact ⟨_, _, rfl, hfits⟩
    · rw [h2]
      refine iff_of_true ?_ (.inl h)
      rcases he with rfl | rfl <;> exact hneither
    · rw [h2]
      refine iff_of_false (by rintro ⟨x, y, hscores, -⟩; cases hscores) ?_
      rintro (h | h)
      · exact h.2.1 hlarge2
      · exact h.2.1 hlarge2
  · rw [h3]
    refine iff_of_true ?_ (.inl h)
    rcases he with rfl | rfl <;> exact hneither
  · rw [h3]
    refine iff_of_false (by rintro ⟨x, y, hscores, -⟩; cases hscores) ?_
    rintro (h | h | h)
    · exact h.2.1 hlarge3
    · exact h.1 hlarge3
    · exact h.1.1 hlarge3

/-- **What a row of OpenCVE has**, in terms of the member `cvss` of its item. -/
theorem openCveRow_columns {r : OpenCveRow} (h : openCveRow py now item = .ok (some r)) :
    ∃ cvss v3 v2 vector, item.get "cvss" = .ok cvss ∧ openCveCvss cvss = .ok (v3, v2, vector) ∧
      openCveScores py v3 v2 = .ok (r.cvssV3Score, r.cvssV2Score) ∧
        r.severity = vector.or .null := by
  rw [openCveRow] at h
  obtain ⟨a, -, h⟩ := bind_eq_ok_iff.mp h
  obtain ⟨b, -, h⟩ := bind_eq_ok_iff.mp h
  dsimp only at h
  split_ifs at h
  · obtain ⟨cveId, -, h⟩ := bind_eq_ok_iff.mp h
    split_ifs at h
    · obtain ⟨cvss, hcvss, h⟩ := bind_eq_ok_iff.mp h
      obtain ⟨⟨v3, v2, vector⟩, hcolumns, h⟩ := bind_eq_ok_iff.mp h
      obtain ⟨⟨x, y⟩, hscores, h⟩ := bind_eq_ok_iff.mp h
      obtain ⟨created, -, h⟩ := bind_eq_ok_iff.mp h
      obtain ⟨published, -, h⟩ := bind_eq_ok_iff.mp h
      obtain ⟨publishedAt, -, h⟩ := bind_eq_ok_iff.mp h
      obtain ⟨updated, -, h⟩ := bind_eq_ok_iff.mp h
      obtain ⟨modified, -, h⟩ := bind_eq_ok_iff.mp h
      obtain ⟨created', -, h⟩ := bind_eq_ok_iff.mp h
      obtain ⟨modifiedAt, -, h⟩ := bind_eq_ok_iff.mp h
      obtain rfl := Option.some.inj (Except.ok.inj h)
      exact ⟨cvss, v3, v2, vector, hcvss, hcolumns, hscores, rfl⟩
    · cases h
  · cases h

theorem Json.get_ne_overflow (j : Json) (key : String) : j.get key ≠ .error .overflowError := by
  cases j <;> simp [Json.get]

theorem Json.text_ne_overflow (j : Json) : j.text ≠ .error .overflowError := by
  cases j <;> simp [Json.text]

theorem parseCirclDt_ne_overflow (j : Json) :
    parseCirclDt py now j ≠ .error .overflowError := by
  intro h
  unfold parseCirclDt at h
  split_ifs at h
  · obtain ⟨a, -, h⟩ := error_of_bind j.text_ne_overflow h
    cases h
  · cases h

/-- **An overflow comes from the scores.** -/
theorem openCveRow_overflow (h : openCveRow py now item = .error .overflowError) :
    ∃ cvss, item.get "cvss" = .ok cvss ∧ (openCveCvss cvss = .error .overflowError ∨
      ∃ v3 v2 vector, openCveCvss cvss = .ok (v3, v2, vector) ∧
        openCveScores py v3 v2 = .error .overflowError) := by
  rw [openCveRow] at h
  obtain ⟨a, -, h⟩ := error_of_bind (Json.get_ne_overflow _ _) h
  obtain ⟨b, -, h⟩ := error_of_bind (Json.get_ne_overflow _ _) h
  dsimp only at h
  split_ifs at h
  · obtain ⟨cveId, -, h⟩ := error_of_bind (Json.text_ne_overflow _) h
    split_ifs at h
    · obtain ⟨cvss, hcvss, h⟩ := error_of_bind (Json.get_ne_overflow _ _) h
      refine ⟨cvss, hcvss, ?_⟩
      by_contra hnone
      obtain ⟨hcolumns, hscores⟩ := not_or.mp hnone
      obtain ⟨⟨v3, v2, vector⟩, hcvss, h⟩ := error_of_bind hcolumns h
      obtain ⟨⟨x, y⟩, -, h⟩ :=
        error_of_bind (fun h => hscores ⟨v3, v2, vector, hcvss, h⟩) h
      -- only the dates are left
      dsimp only [parseOpenCveDt] at h
      obtain ⟨created, -, h⟩ := error_of_bind (Json.get_ne_overflow _ _) h
      obtain ⟨published, -, h⟩ := error_of_bind (Json.get_ne_overflow _ _) h
      obtain ⟨publishedAt, -, h⟩ := error_of_bind (parseCirclDt_ne_overflow _) h
      obtain ⟨updated, -, h⟩ := error_of_bind (Json.get_ne_overflow _ _) h
      obtain ⟨modified, -, h⟩ := error_of_bind (Json.get_ne_overflow _ _) h
      obtain ⟨created', -, h⟩ := error_of_bind (Json.get_ne_overflow _ _) h
      obtain ⟨modifiedAt, -, h⟩ := error_of_bind (parseCirclDt_ne_overflow _) h
      cases h
    · cases h
  · cases h

/-- The same of CIRCL. -/
theorem circlRow_columns {r : CirclRow} (h : circlRow py now item = .ok (some r)) :
    ∃ cvss cvss3, item.get "cvss" = .ok cvss ∧ item.get "cvss3" = .ok cvss3 ∧
      py.scoreOf (cvss.or cvss3) = .ok r.cvssV2Score ∧
        r.severity = circlSeverity r.cvssV2Score := by
  rw [circlRow] at h
  obtain ⟨id, -, h⟩ := bind_eq_ok_iff.mp h
  split_ifs at h
  · obtain ⟨cveId, -, h⟩ := bind_eq_ok_iff.mp h
    split_ifs at h
    · obtain ⟨cvss, hcvss, h⟩ := bind_eq_ok_iff.mp h
      obtain ⟨cvss3, hcvss3, h⟩ := bind_eq_ok_iff.mp h
      obtain ⟨score, hscore, h⟩ := bind_eq_ok_iff.mp h
      obtain ⟨published, -, h⟩ := bind_eq_ok_iff.mp h
      obtain ⟨publishedAt, -, h⟩ := bind_eq_ok_iff.mp h
      obtain ⟨modified, -, h⟩ := bind_eq_ok_iff.mp h
      obtain ⟨published', -, h⟩ := bind_eq_ok_iff.mp h
      obtain ⟨modifiedAt, -, h⟩ := bind_eq_ok_iff.mp h
      obtain rfl := Option.some.inj (Except.ok.inj h)
      exact ⟨cvss, cvss3, hcvss, hcvss3, hscore, rfl⟩
    · cases h
  · cases h

theorem circlRow_overflow (h : circlRow py now item = .error .overflowError) :
    ∃ cvss cvss3, item.get "cvss" = .ok cvss ∧ item.get "cvss3" = .ok cvss3 ∧
      py.scoreOf (cvss.or cvss3) = .error .overflowError := by
  rw [circlRow] at h
  obtain ⟨id, -, h⟩ := error_of_bind (Json.get_ne_overflow _ _) h
  split_ifs at h
  · obtain ⟨cveId, -, h⟩ := error_of_bind (Json.text_ne_overflow _) h
    split_ifs at h
    · obtain ⟨cvss, hcvss, h⟩ := error_of_bind (Json.get_ne_overflow _ _) h
      obtain ⟨cvss3, hcvss3, h⟩ := error_of_bind (Json.get_ne_overflow _ _) h
      refine ⟨cvss, cvss3, hcvss, hcvss3, ?_⟩
      by_contra hscore
      obtain ⟨score, -, h⟩ := error_of_bind hscore h
      obtain ⟨published, -, h⟩ := error_of_bind (Json.get_ne_overflow _ _) h
      obtain ⟨publishedAt, -, h⟩ := error_of_bind (parseCirclDt_ne_overflow _) h
      obtain ⟨modified, -, h⟩ := error_of_bind (Json.get_ne_overflow _ _) h
      obtain ⟨published', -, h⟩ := error_of_bind (Json.get_ne_overflow _ _) h
      obtain ⟨modifiedAt, -, h⟩ := error_of_bind (parseCirclDt_ne_overflow _) h
      cases h
    · cases h
  · cases h

theorem smallIfRead_null : SmallIfRead py .null := ⟨id, fun _ h => by cases h⟩

theorem harmlessVector_null : HarmlessVector .null := .inl rfl

/-- A number is small if it can be read as one. -/
theorem smallIfRead_num_iff {q : ℚ} : SmallIfRead py (.num q) ↔ (PyFloat.fin q).Small := by
  constructor
  · rintro ⟨hlarge, hsmall⟩
    exact hsmall _ (PyParse.floatOf_num hlarge)
  · intro hsmall
    refine ⟨not_tooLarge_of_small hsmall, fun x hx => ?_⟩
    rw [PyParse.floatOf_num (not_tooLarge_of_small hsmall)] at hx
    exact Except.ok.inj hx ▸ hsmall

/-- **The columns that a member `cvss` gives come through and fit exactly if it does no harm.** -/
theorem harmlessCvss_iff (cvss : Json) :
    (∃ v3 v2 vector x y, openCveCvss cvss = .ok (v3, v2, vector) ∧
      openCveScores py v3 v2 = .ok (x, y) ∧ (ScoreFits x ∧ ScoreFits y) ∧
        HarmlessVector vector) ↔ HarmlessCvss py cvss := by
  -- what is read of the member is one triple
  have hread : ∀ {v3 v2 vector}, openCveCvss cvss = .ok (v3, v2, vector) →
      ((∃ v3 v2 vector x y, openCveCvss cvss = .ok (v3, v2, vector) ∧
        openCveScores py v3 v2 = .ok (x, y) ∧ (ScoreFits x ∧ ScoreFits y) ∧
          HarmlessVector vector) ↔ HarmlessScores py v3 v2 ∧ HarmlessVector vector) := by
    intro v3 v2 vector hcolumns
    rw [← scoreFits_openCveScores_iff, hcolumns]
    constructor
    · rintro ⟨v3', v2', vector', x, y, heq, hscores, hfits, hvector⟩
      obtain ⟨rfl, rfl, rfl⟩ : v3 = v3' ∧ v2 = v2' ∧ vector = vector' := by simpa using heq
      exact ⟨⟨x, y, hscores, hfits⟩, hvector⟩
    · rintro ⟨⟨x, y, hscores, hfits⟩, hvector⟩
      exact ⟨v3, v2, vector, x, y, rfl, hscores, hfits, hvector⟩
  cases cvss with
  | obj members => exact hread rfl
  | num q =>
    by_cases hlarge : (Json.num q).TooLarge
    · have hraises : openCveCvss (.num q) = .error .overflowError := if_pos hlarge
      refine iff_of_false ?_ fun hsmall => not_tooLarge_of_small hsmall hlarge
      rintro ⟨v3, v2, vector, x, y, hcolumns, -⟩
      cases hraises.symm.trans hcolumns
    · have hcolumns : openCveCvss (.num q) = .ok (.null, .num q, .null) := if_neg hlarge
      have hreadable : ¬Unreadable py (.num q) := by
        rintro ⟨-, -, hnone⟩
        rw [PyParse.floatOf_num hlarge] at hnone
        cases hnone
      rw [hread hcolumns, HarmlessScores, or_iff_right fun h => h.1 rfl,
        or_iff_right fun h => hreadable h.2, and_iff_right smallIfRead_null,
        and_iff_left harmlessVector_null]
      exact smallIfRead_num_iff
  | bool b =>
    have hsmall : SmallIfRead py (.bool b) := by
      refine ⟨id, fun x hx => ?_⟩
      obtain rfl := Except.ok.inj hx
      refine ⟨_, rfl, ?_⟩
      cases b <;> norm_num
    rw [hread rfl]
    exact iff_of_true ⟨.inr (.inr ⟨smallIfRead_null, hsmall⟩), harmlessVector_null⟩ trivial
  | null | str s | arr items =>
    rw [hread rfl]
    exact iff_of_true ⟨.inr (.inr ⟨smallIfRead_null, smallIfRead_null⟩), harmlessVector_null⟩
      trivial

/-- **An item of OpenCVE gives a row that fits exactly if its member `cvss` does no harm.** -/
theorem openCveRow_fits_iff (h : Scored (openCveRow py now item)) :
    Yields OpenCveRow.Fits (openCveRow py now item) ↔
      ∃ cvss, item.get "cvss" = .ok cvss ∧ HarmlessCvss py cvss := by
  have hunique : ∀ {cvss}, item.get "cvss" = .ok cvss →
      ((∃ cvss, item.get "cvss" = .ok cvss ∧ HarmlessCvss py cvss) ↔ HarmlessCvss py cvss) := by
    intro cvss hcvss
    rw [hcvss]
    simp only [Except.ok.injEq, exists_eq_left']
  rcases h with hraises | ⟨r, hrow⟩
  · obtain ⟨cvss, hcvss, hoverflow⟩ := openCveRow_overflow hraises
    rw [hunique hcvss, ← harmlessCvss_iff, hraises]
    refine iff_of_false (by rintro ⟨r, hrow, -⟩; cases hrow) ?_
    rintro ⟨v3, v2, vector, x, y, hcolumns, hscores, -⟩
    rcases hoverflow with hoverflow | ⟨v3', v2', vector', hcolumns', hoverflow⟩
    · cases hoverflow.symm.trans hcolumns
    · cases hcolumns.symm.trans hcolumns'
      cases hoverflow.symm.trans hscores
  · obtain ⟨cvss, v3, v2, vector, hcvss, hcolumns, hscores, hseverity⟩ := openCveRow_columns hrow
    rw [hunique hcvss, ← harmlessCvss_iff]
    constructor
    · rintro ⟨r', hrow', hfits⟩
      obtain rfl := Option.some.inj (Except.ok.inj (hrow.symm.trans hrow'))
      refine ⟨v3, v2, vector, _, _, hcolumns, hscores, ⟨hfits.v3, hfits.v2⟩, ?_⟩
      rw [← severityColumn_or_null_iff, ← hseverity]
      exact hfits.severity
    · rintro ⟨v3', v2', vector', x, y, hcolumns', hscores', hfits, hvector⟩
      cases hcolumns.symm.trans hcolumns'
      obtain ⟨rfl, rfl⟩ := Prod.mk.inj (Except.ok.inj (hscores.symm.trans hscores'))
      refine ⟨r, hrow, hfits.1, hfits.2, ?_⟩
      rw [hseverity]
      exact (severityColumn_or_null_iff vector).mpr hvector

/-- The severity of a row of CIRCL is `NULL` or a text of the check, whatever the score is. -/
theorem severityColumn_circlSeverity (score : Option PyFloat) :
    (severityColumn (((circlSeverity score).map Json.str).getD .null)).isSome = true := by
  cases score with
  | none => rfl
  | some score =>
    rw [circlSeverity]
    split_ifs <;> rfl

/-- **An item of CIRCL gives a row that fits exactly if its score is small**, if it can be read. -/
theorem circlRow_fits_iff (h : Scored (circlRow py now item)) :
    Yields CirclRow.Fits (circlRow py now item) ↔
      ∃ cvss cvss3, item.get "cvss" = .ok cvss ∧ item.get "cvss3" = .ok cvss3 ∧
        SmallIfRead py (cvss.or cvss3) := by
  have hunique : ∀ {cvss cvss3}, item.get "cvss" = .ok cvss → item.get "cvss3" = .ok cvss3 →
      ((∃ cvss cvss3, item.get "cvss" = .ok cvss ∧ item.get "cvss3" = .ok cvss3 ∧
        SmallIfRead py (cvss.or cvss3)) ↔ SmallIfRead py (cvss.or cvss3)) := by
    intro cvss cvss3 hcvss hcvss3
    rw [hcvss, hcvss3]
    simp only [Except.ok.injEq, exists_and_left, exists_eq_left']
  rcases h with hraises | ⟨r, hrow⟩
  · obtain ⟨cvss, cvss3, hcvss, hcvss3, hoverflow⟩ := circlRow_overflow hraises
    rw [hunique hcvss hcvss3, hraises]
    refine iff_of_false (by rintro ⟨r, hrow, -⟩; cases hrow) fun hsmall => ?_
    rcases py.scoreOf_cases (cvss.or cvss3) with ⟨hlarge, -⟩ | ⟨-, hscore⟩
    · exact hsmall.1 hlarge
    · cases hoverflow.symm.trans hscore
  · obtain ⟨cvss, cvss3, hcvss, hcvss3, hscore, hseverity⟩ := circlRow_columns hrow
    rw [hunique hcvss hcvss3]
    rcases py.scoreOf_cases (cvss.or cvss3) with ⟨-, hoverflow⟩ | ⟨hlarge, hread⟩
    · cases hscore.symm.trans hoverflow
    · rw [← scoreFits_floatOf_iff hlarge, ← Except.ok.inj (hscore.symm.trans hread)]
      constructor
      · rintro ⟨r', hrow', hfits⟩
        obtain rfl := Option.some.inj (Except.ok.inj (hrow.symm.trans hrow'))
        exact hfits.v2
      · intro hfits
        refine ⟨r, hrow, scoreFits_none, hfits, ?_⟩
        rw [hseverity]
        exact severityColumn_circlSeverity r.cvssV2Score

end Rows

/-- **Which items give a row that fits the columns**, of those that are scored by the two parsers:
those of OpenCVE whose member `cvss` does no harm, and those of CIRCL whose score is small, if it
can be read. -/
theorem rowsFit_iff (py : PyParse) (now : Instant) (item : Json) :
    (Scored (openCveRow py now item) → (Yields OpenCveRow.Fits (openCveRow py now item) ↔
      ∃ cvss, item.get "cvss" = .ok cvss ∧ HarmlessCvss py cvss)) ∧
    (Scored (circlRow py now item) → (Yields CirclRow.Fits (circlRow py now item) ↔
      ∃ cvss cvss3, item.get "cvss" = .ok cvss ∧ item.get "cvss3" = .ok cvss3 ∧
        SmallIfRead py (cvss.or cvss3))) :=
  ⟨openCveRow_fits_iff, circlRow_fits_iff⟩

/-- An item of OpenCVE, with its CVSS. -/
def Json.ofCvss (members : List (String × Json)) : Json :=
  .obj [("cve_id", .str "CVE-2024-0001"), ("cvss", .obj members)]

/-- An item of CIRCL, with its score. -/
def Json.ofScore (score : ℚ) : Json :=
  .obj [("id", .str "CVE-2024-0001"), ("cvss", .num score)]

/-- The row of an item of CIRCL with a score. -/
theorem circlRow_ofScore {score : ℚ} (h : ¬(Json.num score).TooLarge) (hne : score ≠ 0) :
    circlRow .none 0 (.ofScore score) =
      .ok (some ⟨"CVE-2024-0001".toList, .ofScore score, some (.fin score),
        circlSeverity (some (.fin score)), 0, 0⟩) := by
  have hscore : PyParse.none.scoreOf (.num score) = .ok (some (.fin score)) := by
    rw [PyParse.scoreOf, PyParse.floatOf_num h]
    rfl
  have hor : (Json.num score).or .null = .num score := if_pos (bne_iff_ne.mpr hne)
  have hrow : circlRow .none 0 (.ofScore score) = (PyParse.none.scoreOf
      ((Json.num score).or .null)).map fun cvssFloat => some ⟨"CVE-2024-0001".toList,
        .ofScore score, cvssFloat, circlSeverity cvssFloat, 0, 0⟩ := rfl
  rw [hrow, hor, hscore]
  rfl

theorem rowsFit_scores :
    Yields OpenCveRow.Fits (openCveRow .none 0 (.ofCvss [("v3", .num 9)])) ∧
      Yields CirclRow.Fits (circlRow .none 0 (.ofScore 7)) := by
  have hnine : (PyFloat.fin 9).Small := ⟨9, rfl, by norm_num⟩
  have hseven : (PyFloat.fin 7).Small := ⟨7, rfl, by norm_num⟩
  have hor : ∀ q : ℚ, q ≠ 0 → (Json.num q).or .null = .num q :=
    fun q hq => if_pos (bne_iff_ne.mpr hq)
  refine ⟨((rowsFit_iff .none 0 (.ofCvss [("v3", .num 9)])).1 (.inr ?_)).mpr
      ⟨.obj [("v3", .num 9)], rfl, .inr (.inr ⟨?_, smallIfRead_null⟩), .inl rfl⟩,
    ((rowsFit_iff .none 0 (.ofScore 7)).2 (.inr ?_)).mpr ⟨.num 7, .null, rfl, rfl, ?_⟩⟩
  · have hscores : openCveScores .none (.num 9) .null = .ok (some (.fin 9), none) := by
      have hread : PyParse.none.readScore (.num 9) = some <$> PyParse.none.floatOf (.num 9) := rfl
      rw [openCveScores, hread, PyParse.floatOf_num (not_tooLarge_of_small hnine)]
      rfl
    have hrow : openCveRow .none 0 (.ofCvss [("v3", .num 9)]) = (openCveScores .none
        ((Json.num 9).or .null) .null).map fun scores => some ⟨"CVE-2024-0001".toList,
          .ofCvss [("v3", .num 9)], scores.1, scores.2, .null, 0, 0⟩ := rfl
    rw [hrow, hor 9 (by norm_num), hscores]
    exact ⟨_, rfl⟩
  · have hv3 : ((Json.member? "v3" [("v3", .num 9)]).getD .null).or
        ((Json.member? "v31" [("v3", .num 9)]).getD .null) = (Json.num 9).or .null := rfl
    rw [hv3, hor 9 (by norm_num)]
    exact smallIfRead_num_iff.mpr hnine
  · exact ⟨_, circlRow_ofScore (not_tooLarge_of_small hseven) (by norm_num)⟩
  · rw [hor 7 (by norm_num)]
    exact smallIfRead_num_iff.mpr hseven

/-- **A score of a thousand does not fit**, and is stored as it comes. -/
theorem not_rowsFit_score :
    ∃ r, circlRow .none 0 (.ofScore 1000) = .ok (some r) ∧ ¬r.Fits := by
  refine ⟨_, circlRow_ofScore (by decide +kernel) (by norm_num), fun h => ?_⟩
  obtain ⟨q, hq, hlt⟩ := scoreFits_some_iff.mp h.v2
  obtain rfl := PyFloat.fin.inj hq
  norm_num at hlt

end CveManagement
