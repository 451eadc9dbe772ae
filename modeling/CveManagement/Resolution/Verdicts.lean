import CveManagement.Resolution.Suffixes
import CveManagement.Resolution.Ranges
import Mathlib

/-!
# The verdict on a list of entries

`is_cve_affecting_product` goes through the entries of a CVE until one names the product with the
version in its range. What it returns depends on which entries there are, and not on their order
(`CveManagement.verdict_of_judgeable`); but an entry that raises is reached only if none before it
is in range, so a list with such an entry can have a verdict in one order and none in another
(`CveManagement.verdictCharacterised_iff`).
-/

namespace CveManagement

section Entries

variable (py : PyText) (product : Product)

/-- The version of the product, as the matcher hands it on. -/
def installedVersion : Text := py.strip (columnText product.version)

/-- **The entry matches the product.** -/
def MatchesProduct (entry : Json) : Prop :=
  ∃ name, cpeName entry = .ok name ∧ productMatchesCpe py product name = true

/-- The entry has a name that does not match. -/
def MatchesOther (entry : Json) : Prop :=
  ∃ name, cpeName entry = .ok name ∧ productMatchesCpe py product name = false

/-- **The entry has the version out of its range.** -/
def OutOfRange (entry : Json) : Prop :=
  isVersionInRange py (installedVersion py product) entry = .ok false

/-- The matcher does not raise on the entry: its name is a text, and if it matches, so are the
bounds that are looked at, in numbers that `int` takes. -/
def Judgeable (entry : Json) : Prop :=
  MatchesOther py product entry ∨ MatchesProduct py product entry ∧
    ∃ inRange, isVersionInRange py (installedVersion py product) entry = .ok inRange

/-- What `is_cve_affecting_product` says of the CVE: whether it affects the product, and with what
confidence; `none` if it raises. -/
def verdict (cpes : List Json) : Option (Bool × Confidence) :=
  (isCveAffectingProduct py product cpes).toOption.map fun r => (r.affected, r.confidence)

/-- **The verdict is characterised by the entries**: it is `False` if some entry matches and those
that do have the version out of range, it is certain if some entry matches, and it is that of every
list of the same entries, in any order and number. -/
structure VerdictCharacterised (cpes : List Json) : Prop where
  not_affected_iff : (∃ confidence, verdict py product cpes = some (false, confidence)) ↔
    (∃ e ∈ cpes, MatchesProduct py product e) ∧
      ∀ e ∈ cpes, MatchesProduct py product e → OutOfRange py product e
  certain_iff : (∃ affected, verdict py product cpes = some (affected, .certain)) ↔
    ∃ e ∈ cpes, MatchesProduct py product e
  same_entries : ∀ cpes', (∀ e, e ∈ cpes' ↔ e ∈ cpes) →
    verdict py product cpes' = verdict py product cpes

end Entries

section Judge

variable {py : PyText} {product : Product} {entry : Json} {cpes : List Json}

/-- An entry has one name. -/
theorem MatchesProduct.not_matchesOther (h : MatchesProduct py product entry) :
    ¬MatchesOther py product entry := by
  rintro ⟨name', hname', hother⟩
  obtain ⟨name, hname, hmatch⟩ := h
  obtain rfl := Except.ok.inj (hname.symm.trans hname')
  rw [hmatch] at hother
  cases hother

/-- **What the loop does with an entry**: it passes over it, keeps it as out of range, returns, or
raises. -/
theorem judgeEntry_cases (py : PyText) (product : Product) (entry : Json) :
    (MatchesOther py product entry ∧
        judgeEntry py product (installedVersion py product) entry = .ok .other) ∨
      (MatchesProduct py product entry ∧ OutOfRange py product entry ∧
        judgeEntry py product (installedVersion py product) entry = .ok .outOfRange) ∨
      (MatchesProduct py product entry ∧
        isVersionInRange py (installedVersion py product) entry = .ok true ∧
        ∃ name, judgeEntry py product (installedVersion py product) entry = .ok (.inRange name)) ∨
      ¬Judgeable py product entry ∧
        ∃ e, judgeEntry py product (installedVersion py product) entry = .error e := by
  rcases judgeEntry_spec py product (installedVersion py product) entry with
    ⟨e, hname, hjudge⟩ | ⟨name, hname, ⟨hmatch, hjudge⟩ | ⟨hmatch, hjudge⟩⟩
  · refine .inr (.inr (.inr ⟨?_, e, hjudge⟩))
    rintro (⟨name, hok, -⟩ | ⟨⟨name, hok, -⟩, -⟩) <;>
    · rw [hname] at hok
      cases hok
  · exact .inl ⟨⟨name, hname, hmatch⟩, hjudge⟩
  · have hmatches : MatchesProduct py product entry := ⟨name, hname, hmatch⟩
    cases hrange : isVersionInRange py (installedVersion py product) entry with
    | error e =>
      rw [hrange] at hjudge
      refine .inr (.inr (.inr ⟨?_, e, hjudge⟩))
      rintro (hother | ⟨-, inRange, hok⟩)
      · exact hmatches.not_matchesOther hother
      · rw [hrange] at hok
        cases hok
    | ok inRange =>
      rw [hrange] at hjudge
      cases inRange with
      | false => exact .inr (.inl ⟨hmatches, hrange, hjudge⟩)
      | true => exact .inr (.inr (.inl ⟨hmatches, rfl, name, hjudge⟩))

/-- **The verdict that the CVE does not affect the product**: every entry is read, and is that of
another product or out of range, and one is that of the product. -/
theorem judgeEntries_not_affected_iff {found : Bool} :
    (∃ r, judgeEntries py product (installedVersion py product) found cpes = .ok r ∧
        r.affected = false) ↔
      (found = true ∨ ∃ e ∈ cpes, MatchesProduct py product e) ∧
        ∀ e ∈ cpes, MatchesOther py product e ∨
          MatchesProduct py product e ∧ OutOfRange py product e := by
  induction cpes generalizing found with
  | nil =>
    rw [judgeEntries]
    cases found <;> simp
  | cons e cpes ih =>
    rw [judgeEntries, List.forall_mem_cons]
    simp only [List.exists_mem_cons_iff]
    rcases judgeEntry_cases py product e with ⟨hother, hjudge⟩ | ⟨hmatch, hout, hjudge⟩ |
      ⟨hmatch, hrange, name, hjudge⟩ | ⟨hnot, err, hjudge⟩
    · have hnone : ¬MatchesProduct py product e := fun h => h.not_matchesOther hother
      rw [hjudge]
      exact ih.trans (by simp [hother, hnone])
    · rw [hjudge]
      exact ih.trans (by simp [hmatch, hout])
    · -- an entry in range ends the loop
      rw [hjudge]
      refine iff_of_false ?_ ?_
      · rintro ⟨r, hr, haffected⟩
        obtain rfl := Except.ok.inj hr
        cases haffected
      · rintro ⟨-, hother | ⟨-, hout⟩, -⟩
        · exact hmatch.not_matchesOther hother
        · exact absurd (Except.ok.inj (hrange.symm.trans hout)) (by decide)
    · rw [hjudge]
      refine iff_of_false (by simp [bind, Except.bind]) ?_
      rintro ⟨-, hother | ⟨hmatch, hout⟩, -⟩
      · exact hnot (.inl hother)
      · exact hnot (.inr ⟨hmatch, false, hout⟩)

/-- A verdict is certain only if an entry matches. -/
theorem exists_matches_of_certain {found : Bool} {r : MatchResult}
    (h : judgeEntries py product (installedVersion py product) found cpes = .ok r)
    (hcertain : r.confidence = .certain) :
    found = true ∨ ∃ e ∈ cpes, MatchesProduct py product e := by
  induction cpes generalizing found with
  | nil =>
    obtain rfl := Except.ok.inj h
    cases found with
    | true => exact .inl rfl
    | false => cases hcertain
  | cons e cpes ih =>
    rw [judgeEntries] at h
    rcases judgeEntry_cases py product e with ⟨-, hjudge⟩ | ⟨hmatch, -, -⟩ | ⟨hmatch, -⟩ |
      ⟨-, err, hjudge⟩
    · rw [hjudge] at h
      rcases ih h with hfound | ⟨e', he', hmatch⟩
      · exact .inl hfound
      · exact .inr ⟨e', List.mem_cons_of_mem e he', hmatch⟩
    · exact .inr ⟨e, List.mem_cons_self, hmatch⟩
    · exact .inr ⟨e, List.mem_cons_self, hmatch⟩
    · rw [hjudge] at h
      cases h

open Classical in
/-- **The verdict as the entries have it**, whatever their order. -/
noncomputable def entriesVerdict (py : PyText) (product : Product) (found : Bool)
    (cpes : List Json) : Bool × Confidence :=
  if ∃ e ∈ cpes, MatchesProduct py product e ∧
      isVersionInRange py (installedVersion py product) e = .ok true then (true, .certain)
  else if found = true ∨ ∃ e ∈ cpes, MatchesProduct py product e then (false, .certain)
  else (true, .uncertain)

/-- It depends on which entries match and which are in range. -/
theorem entriesVerdict_congr {found found' : Bool} {cpes' : List Json}
    (hrange : (∃ e ∈ cpes, MatchesProduct py product e ∧
        isVersionInRange py (installedVersion py product) e = .ok true) ↔
      ∃ e ∈ cpes', MatchesProduct py product e ∧
        isVersionInRange py (installedVersion py product) e = .ok true)
    (hmatch : (found = true ∨ ∃ e ∈ cpes, MatchesProduct py product e) ↔
      (found' = true ∨ ∃ e ∈ cpes', MatchesProduct py product e)) :
    entriesVerdict py product found cpes = entriesVerdict py product found' cpes' := by
  classical
  exact if_congr hrange rfl (if_congr hmatch rfl rfl)

/-- Entries that can all be judged have that verdict. -/
theorem judgeEntries_of_judgeable {found : Bool} (h : ∀ e ∈ cpes, Judgeable py product e) :
    ∃ r, judgeEntries py product (installedVersion py product) found cpes = .ok r ∧
      (r.affected, r.confidence) = entriesVerdict py product found cpes := by
  induction cpes generalizing found with
  | nil =>
    rw [judgeEntries]
    refine ⟨_, rfl, ?_⟩
    cases found <;> simp [entriesVerdict]
  | cons e cpes ih =>
    obtain ⟨he, hrest⟩ := List.forall_mem_cons.mp h
    rw [judgeEntries]
    rcases judgeEntry_cases py product e with ⟨hother, hjudge⟩ | ⟨hmatch, hout, hjudge⟩ |
      ⟨hmatch, hrange, name, hjudge⟩ | ⟨hnot, -⟩
    · have hnone : ¬MatchesProduct py product e := fun h => h.not_matchesOther hother
      obtain ⟨r, hr, hverdict⟩ := @ih found hrest
      rw [hjudge]
      refine ⟨r, hr, hverdict.trans (entriesVerdict_congr ?_ ?_)⟩
      · simp [hnone]
      · simp [hnone]
    · have hnotIn : isVersionInRange py (installedVersion py product) e ≠ .ok true := by
        rw [hout]
        simp
      obtain ⟨r, hr, hverdict⟩ := @ih true hrest
      rw [hjudge]
      refine ⟨r, hr, hverdict.trans (entriesVerdict_congr ?_ ?_)⟩
      · simp [hnotIn]
      · simp [hmatch]
    · rw [hjudge]
      exact ⟨_, rfl, by simp [entriesVerdict, hmatch, hrange]⟩
    · exact absurd he hnot

/-- The verdict is that of the loop, also on no entries. -/
theorem verdict_eq (py : PyText) (product : Product) (cpes : List Json) :
    verdict py product cpes =
      (judgeEntries py product (installedVersion py product) false cpes).toOption.map
        fun r => (r.affected, r.confidence) := by
  rw [verdict, isCveAffectingProduct]
  split_ifs with hempty
  · rw [List.isEmpty_iff.mp hempty, judgeEntries]
    rfl
  · rfl

/-- What a verdict is the verdict of. -/
theorem verdict_eq_some_iff {v : Bool × Confidence} : verdict py product cpes = some v ↔
    ∃ r, judgeEntries py product (installedVersion py product) false cpes = .ok r ∧
      (r.affected, r.confidence) = v := by
  rw [verdict_eq]
  cases judgeEntries py product (installedVersion py product) false cpes <;>
    simp [Except.toOption]

/-- **The verdict on entries that can all be judged.** -/
theorem verdict_of_judgeable (h : ∀ e ∈ cpes, Judgeable py product e) :
    verdict py product cpes = some (entriesVerdict py product false cpes) :=
  verdict_eq_some_iff.mpr (judgeEntries_of_judgeable h)

/-- **When the verdict is that the CVE does not affect the product.** -/
theorem verdict_not_affected_iff :
    (∃ confidence, verdict py product cpes = some (false, confidence)) ↔
      (∃ e ∈ cpes, MatchesProduct py product e) ∧
        ∀ e ∈ cpes, MatchesOther py product e ∨
          MatchesProduct py product e ∧ OutOfRange py product e := by
  have hloop := @judgeEntries_not_affected_iff py product cpes false
  rw [or_iff_right Bool.false_ne_true] at hloop
  rw [← hloop]
  constructor
  · rintro ⟨confidence, h⟩
    obtain ⟨r, hr, heq⟩ := verdict_eq_some_iff.mp h
    exact ⟨r, hr, congrArg Prod.fst heq⟩
  · rintro ⟨r, hr, haffected⟩
    exact ⟨r.confidence, verdict_eq_some_iff.mpr ⟨r, hr, by rw [haffected]⟩⟩

/-- A certain verdict has an entry that matches. -/
theorem exists_matches_of_verdict {affected : Bool}
    (h : verdict py product cpes = some (affected, .certain)) :
    ∃ e ∈ cpes, MatchesProduct py product e := by
  obtain ⟨r, hr, heq⟩ := verdict_eq_some_iff.mp h
  exact (exists_matches_of_certain hr (congrArg Prod.snd heq)).resolve_left Bool.false_ne_true

/-- An entry that raises is reached if it comes first. -/
theorem verdict_cons_of_not_judgeable (h : ¬Judgeable py product entry) :
    verdict py product (entry :: cpes) = none := by
  rw [verdict_eq, judgeEntries]
  rcases judgeEntry_cases py product entry with ⟨hother, -⟩ | ⟨hmatch, hout, -⟩ |
    ⟨hmatch, hrange, -⟩ | ⟨-, e, hjudge⟩
  · exact absurd (.inl hother) h
  · exact absurd (.inr ⟨hmatch, false, hout⟩) h
  · exact absurd (.inr ⟨hmatch, true, hrange⟩) h
  · rw [hjudge]
    rfl

/-- It is reached if no entry matches. -/
theorem verdict_of_not_matches (hnone : ∀ e ∈ cpes, ¬MatchesProduct py product e)
    (h : ∃ e ∈ cpes, ¬Judgeable py product e) : verdict py product cpes = none := by
  rw [verdict_eq]
  induction cpes with
  | nil =>
    obtain ⟨e, he, -⟩ := h
    cases he
  | cons e cpes ih =>
    obtain ⟨hmatch, hrest⟩ := List.forall_mem_cons.mp hnone
    by_cases he : Judgeable py product e
    · obtain ⟨e', he', hnot⟩ := h
      rcases List.mem_cons.mp he' with rfl | he'
      · exact absurd he hnot
      · rw [judgeEntries]
        rcases judgeEntry_cases py product e with ⟨-, hjudge⟩ | ⟨hm, -⟩ | ⟨hm, -⟩ | ⟨hnot', -⟩
        · rw [hjudge]
          exact ih hrest ⟨e', he', hnot⟩
        · exact absurd hm hmatch
        · exact absurd hm hmatch
        · exact absurd he hnot'
    · rw [← verdict_eq]
      exact verdict_cons_of_not_judgeable he

/-- Lists of the same entries have the same verdict, if the matcher raises on none of them. -/
theorem verdict_same_entries (hall : ∀ e ∈ cpes, Judgeable py product e) {cpes' : List Json}
    (hsame : ∀ e, e ∈ cpes' ↔ e ∈ cpes) : verdict py product cpes' = verdict py product cpes := by
  rw [verdict_of_judgeable hall, verdict_of_judgeable fun e he => hall e ((hsame e).mp he)]
  refine congrArg some (entriesVerdict_congr ?_ ?_)
  · simp only [hsame]
  · simp only [hsame]

/-- Entries that can all be judged characterise the verdict. -/
theorem verdictCharacterised_of_judgeable (hall : ∀ e ∈ cpes, Judgeable py product e) :
    VerdictCharacterised py product cpes where
  not_affected_iff := by
    rw [verdict_not_affected_iff]
    refine and_congr_right fun _ => forall₂_congr fun e he => ?_
    constructor
    · rintro (hother | ⟨-, hout⟩) hmatch
      · exact absurd hother hmatch.not_matchesOther
      · exact hout
    · intro hout
      rcases hall e he with hother | ⟨hmatch, -⟩
      · exact .inl hother
      · exact .inr ⟨hmatch, hout hmatch⟩
  certain_iff := by
    constructor
    · rintro ⟨affected, hv⟩
      exact exists_matches_of_verdict hv
    · intro hmatch
      rw [verdict_of_judgeable hall, entriesVerdict]
      split_ifs with hrange hfound
      · exact ⟨true, rfl⟩
      · exact ⟨false, rfl⟩
      · exact absurd (.inr hmatch) hfound
  same_entries _ hsame := verdict_same_entries hall hsame

/-- So do entries none of which matches, also if the matcher raises on one. -/
theorem verdictCharacterised_of_not_matches (hnone : ∀ e ∈ cpes, ¬MatchesProduct py product e) :
    VerdictCharacterised py product cpes := by
  have hno : ¬∃ e ∈ cpes, MatchesProduct py product e := fun ⟨e, he, hm⟩ => hnone e he hm
  by_cases hall : ∀ e ∈ cpes, Judgeable py product e
  · exact verdictCharacterised_of_judgeable hall
  push Not at hall
  obtain ⟨e, he, hraises⟩ := hall
  refine ⟨iff_of_false ?_ fun hr => hno hr.1, iff_of_false ?_ hno, fun cpes' hsame => ?_⟩
  · exact fun hl => hno (verdict_not_affected_iff.mp hl).1
  · rintro ⟨affected, hv⟩
    exact hno (exists_matches_of_verdict hv)
  · rw [verdict_of_not_matches hnone ⟨e, he, hraises⟩, verdict_of_not_matches
      (fun e he => hnone e ((hsame e).mp he)) ⟨e, (hsame e).mpr he, hraises⟩]

end Judge

/-- **When the verdict is characterised by the entries**: the matcher raises on none of them, or
none matches the product. -/
theorem verdictCharacterised_iff (py : PyText) (product : Product) (cpes : List Json) :
    VerdictCharacterised py product cpes ↔
      (∀ e ∈ cpes, Judgeable py product e) ∨ ∀ e ∈ cpes, ¬MatchesProduct py product e := by
  constructor
  · intro h
    by_contra hnot
    obtain ⟨hraises, hmatches⟩ := not_or.mp hnot
    push Not at hraises hmatches
    obtain ⟨e, he, hraises⟩ := hraises
    obtain ⟨affected, hcertain⟩ := h.certain_iff.mpr hmatches
    -- the entry that raises, put first
    have hfirst := h.same_entries (e :: cpes) fun e' => by
      rw [List.mem_cons]
      exact or_iff_right_of_imp fun heq => heq ▸ he
    rw [verdict_cons_of_not_judgeable hraises, hcertain] at hfirst
    cases hfirst
  · rintro (hall | hnone)
    · exact verdictCharacterised_of_judgeable hall
    · exact verdictCharacterised_of_not_matches hnone

/-! ### A bound that `int` does not take -/

/-- A product and its version. -/
def Product.nginx : Product :=
  ⟨1, "nginx", some "nginx", some "1.18.0", none, 0, 0, 0, false, none, none⟩

/-- An entry for all versions of the product that a bound does not exclude. -/
def nginxEntry (bounds : List (String × Json)) : Json :=
  .obj (("criteria", .str "cpe:2.3:a:nginx:nginx:*:*:*:*:*:*:*:*") :: bounds)

/-- A version with more digits before a patch letter than `int` takes. -/
def endlessVersion : Text := List.replicate 4301 '9' ++ ("p".toList ++ Nat.toDigits 10 1)

/-- An entry with this bound. -/
def endlessEntry : Json := nginxEntry [("versionEndExcluding", .str (String.ofList endlessVersion))]

theorem parseVersion_endlessVersion : parseVersion .ascii endlessVersion = .error .valueError := by
  have hdigits : ∀ c ∈ List.replicate 4301 '9', c.isDigit = true := by
    intro c hc
    rw [(List.mem_replicate.mp hc).2]
    decide
  have htag : IsTag "p".toList := ⟨by decide, List.all_eq_true.mp (by decide)⟩
  have hdot : '.' ∉ List.replicate 4301 '9' := by
    intro hmem
    exact absurd (List.mem_replicate.mp hmem).2 (by decide)
  have hsplit : (List.replicate 4301 '9').splitOn '.' = [List.replicate 4301 '9'] :=
    List.splitOn_eq_singleton hdot
  have hlast : lastPart (List.replicate 4301 '9') = List.replicate 4301 '9' := by
    rw [lastPart, hsplit]
    rfl
  have hnumeric : IsNumeric (List.replicate 4301 '9') := by
    rw [IsNumeric, hsplit]
    exact List.forall_mem_singleton.mpr ⟨List.cons_ne_nil _ _, hdigits⟩
  obtain ⟨hdotted, hany⟩ := isDotted_append .ascii hnumeric (isSuffix_patch htag 1)
  rw [hlast, (part_patched hdigits .ascii htag 1).1, List.length_replicate] at hany
  rw [endlessVersion, parseVersion_of_dotted hdotted, hany]
  exact if_pos (decide_eq_true (by decide))

/-- A bound that raises, on an entry for the product. -/
theorem not_judgeable_nginxEntry {v : Text} {e : PyError} (hne : v ≠ [])
    (hv : parseVersion .ascii v = .error e) :
    ¬Judgeable .ascii .nginx (nginxEntry [("versionEndExcluding", .str (String.ofList v))]) := by
  have hmatch : MatchesProduct .ascii .nginx
      (nginxEntry [("versionEndExcluding", .str (String.ofList v))]) := ⟨_, rfl, by decide +kernel⟩
  have hinstalled : installedVersion .ascii .nginx = "1.18.0".toList := rfl
  have htext : String.ofList v ≠ "" := by
    intro h
    rw [← String.toList_ofList (l := v), h] at hne
    exact hne rfl
  obtain ⟨cs, hcs⟩ : IsKnown .ascii "1.18.0".toList := ⟨_, rfl⟩
  have hcompare : compareVersions .ascii "1.18.0".toList v = .error e := by
    simp only [compareVersions, hcs, hv, bind, Except.bind]
  have hraises : isVersionInRange .ascii (installedVersion .ascii .nginx)
      (nginxEntry [("versionEndExcluding", .str (String.ofList v))]) = .error e := by
    rw [hinstalled, nginxEntry, isVersionInRange_obj hcs (by decide) (by decide)]
    have hstrip : PyText.ascii.strip "1.18.0".toList = "1.18.0".toList := rfl
    rw [hstrip, rangeBy]
    have hbounds : entryBounds [("criteria", .str "cpe:2.3:a:nginx:nginx:*:*:*:*:*:*:*:*"),
        ("versionEndExcluding", .str (String.ofList v))] =
          [(.str (String.ofList v), fun r => decide (0 ≤ r))] := by
      simp [entryBounds, entryField, Json.member?, boundOf, bound, Json.or, Json.truthy, htext]
    rw [hbounds]
    simp only [withinBounds, Json.text, String.toList_ofList, hcompare, bind, Except.bind]
    rfl
  rintro (hother | ⟨-, inRange, hok⟩)
  · exact hmatch.not_matchesOther hother
  · rw [hraises] at hok
    cases hok

/-- **The order of the entries decides whether there is a verdict**: the version is in the range
of the first entry, and the second one raises if it comes before. -/
theorem not_verdictCharacterised :
    verdict .ascii .nginx [nginxEntry [], endlessEntry] = some (true, .certain) ∧
      verdict .ascii .nginx [endlessEntry, nginxEntry []] = none ∧
      ¬VerdictCharacterised .ascii .nginx [nginxEntry [], endlessEntry] := by
  have hfirst : verdict .ascii .nginx [nginxEntry [], endlessEntry] = some (true, .certain) := by
    have hjudge : judgeEntry .ascii .nginx (installedVersion .ascii .nginx) (nginxEntry []) =
        .ok (.inRange "cpe:2.3:a:nginx:nginx:*:*:*:*:*:*:*:*".toList) := by
      decide +kernel
    rw [verdict_eq, judgeEntries, hjudge]
    rfl
  have hsecond : verdict .ascii .nginx [endlessEntry, nginxEntry []] = none :=
    verdict_cons_of_not_judgeable
      (not_judgeable_nginxEntry (List.cons_ne_nil _ _) parseVersion_endlessVersion)
  refine ⟨hfirst, hsecond, fun h => ?_⟩
  have hsame := h.same_entries [endlessEntry, nginxEntry []] fun e => by
    simp [or_comm]
  rw [hfirst, hsecond] at hsame
  cases hsame

end CveManagement
