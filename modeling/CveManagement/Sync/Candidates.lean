import CveManagement.Library.Like
import CveManagement.Resolution.VersionMatcher
import Mathlib

/-!
# The candidates of a product

`sync_product` does not run the matcher on every CVE of the mirror: `_CANDIDATES_SQL`
selects those with an entry whose `criteria` fits a pattern built from the product. This
file has the pattern, and the walk of the query through a payload.

The walk is a nest of `jsonb_array_elements`, each of which yields the elements of an array,
nothing for `NULL`, and an error for anything else; `EXISTS` is satisfied if an entry that
fits comes before an error.
-/

namespace CveManagement

/-! ### The pattern -/

/-- The vendor and product fields of the pattern. -/
def searchFields (py : PyText) (product : Product) : Text × Text :=
  match parseCpeVendorProduct (columnText product.normalizedCpe) with
  | some (vendor, prod) => (vendor, prod)
  | none =>
    let slug := normaliseSlug py product.name.toList
    let vSlug := normaliseSlug py (columnText product.vendor)
    if vSlug.isEmpty then ("%".toList, slug) else (vSlug, slug)

/-- `_build_search_pattern`. -/
def buildSearchPattern (py : PyText) (product : Product) : Text :=
  "cpe:2.3:%:".toList ++ (searchFields py product).1 ++ ":".toList ++ (searchFields py product).2 ++
    ":%".toList

/-! ### The walk -/

/-- What a set-returning function yields, and whether it ends in an error. -/
structure Rows (α : Type) where
  items : List α
  error : Bool

/-- The rows that a function yields for one item after the other, up to an error. -/
def Rows.each {α β : Type} (f : α → Rows β) : List α → Rows β
  | [] => ⟨[], false⟩
  | a :: l =>
    let here := f a
    if here.error then here
    else
      let rest := each f l
      ⟨here.items ++ rest.items, rest.error⟩

/-- A lateral join. -/
def Rows.bind {α β : Type} (r : Rows α) (f : α → Rows β) : Rows β :=
  let joined := Rows.each f r.items
  ⟨joined.items, joined.error || r.error⟩

/-- `value->'key'`; `none` is `NULL`. -/
def Json.arrow (j : Json) (key : String) : Option Json :=
  match j with
  | .obj members => Json.member? key members
  | _ => none

/-- `jsonb_array_elements(value)`. -/
def arrayElements : Option Json → Rows Json
  | none => ⟨[], false⟩
  | some (.arr items) => ⟨items, false⟩
  | some _ => ⟨[], true⟩

/-- The entries that the `FROM` of the subquery yields. -/
def visibleEntries (rawPayload : Json) : Rows Json :=
  (arrayElements (rawPayload.arrow "configurations")).bind fun cfg =>
    (arrayElements (cfg.arrow "nodes")).bind fun nd => arrayElements (nd.arrow "cpeMatch")

/-- `m->>'criteria'`, where it is a string: the text of any other value begins with a
digit, a sign, a brace, a bracket or one of `true` and `false`, and fits no pattern that
begins with `cpe:2.3:`. -/
def criteriaText (m : Json) : Option Text :=
  match m.arrow "criteria" with
  | some (.str s) => some s.toList
  | _ => none

/-- **How `ILIKE` compares characters.** -/
structure CaseFold where
  fold : Char → Char
  fold_ascii : ∀ c, c.toNat < 128 → fold c = c.toLower
  /-- Nothing but the colon is like a colon. -/
  eq_colon : ∀ c, fold ':' = fold c → c = ':'

theorem eq_colon_of_toLower (c : Char) (h : Char.toLower ':' = c.toLower) : c = ':' := by
  have hcolon : Char.toLower ':' = ':' := by decide
  rw [hcolon] at h
  have hupper : ¬c.isUpper := by
    intro hc
    have halpha : c.toLower.isAlpha = true := by
      rw [Char.isAlpha_toLower_eq_isAlpha, Char.isAlpha, hc, Bool.true_or]
    rw [← h] at halpha
    exact absurd halpha (by decide)
  rw [Char.toLower_eq_of_not_isUpper hupper] at h
  exact h.symm

/-- The comparison for which only the letters of ASCII have two cases. -/
def CaseFold.ascii : CaseFold where
  fold := Char.toLower
  fold_ascii _ _ := rfl
  eq_colon := eq_colon_of_toLower

/-- `text ILIKE pattern`. -/
def CaseFold.ilike (cf : CaseFold) (text pattern : Text) : Bool :=
  Like.fits cf.fold (Like.tokens pattern) text

/-- **The condition of `_CANDIDATES_SQL`** on a payload. -/
def isCandidate (cf : CaseFold) (pattern : Text) (rawPayload : Json) : Bool :=
  (visibleEntries rawPayload).items.any fun m => (criteriaText m).any fun t => cf.ilike t pattern

/-! ### What fits the pattern -/

/-- **The text spells the two fields**: after `cpe:2.3:` and anything, the fields come one
after the other, each between colons. -/
def Spells (cf : CaseFold) (fields : Text × Text) (t : Text) : Prop :=
  ∃ start kind vendor product rest,
    t = start ++ (kind ++ ':' :: (vendor ++ ':' :: (product ++ ':' :: rest))) ∧
    "cpe:2.3:".toList.map cf.fold = start.map cf.fold ∧
    vendor ∈ Like.language cf.fold (Like.tokens fields.1) ∧
    product ∈ Like.language cf.fold (Like.tokens fields.2)

section Spells

variable {cf : CaseFold} {py : PyText} {product : Product} {t : Text}

/-- The pattern, with its colons apart. -/
theorem buildSearchPattern_eq :
    buildSearchPattern py product = "cpe:2.3:%".toList ++ ':' ::
      ((searchFields py product).1 ++ ':' ::
        ((searchFields py product).2 ++ ':' :: "%".toList)) := by
  have hstart : "cpe:2.3:%:".toList = "cpe:2.3:%".toList ++ [':'] := by decide
  have hmiddle : ":".toList = [':'] := by decide
  have hend : ":%".toList = ':' :: "%".toList := by decide
  have happend : ∀ s v p e : Text,
      (s ++ [':']) ++ v ++ [':'] ++ p ++ (':' :: e) =
        s ++ ':' :: (v ++ ':' :: (p ++ ':' :: e)) := by
    intro s v p e
    simp only [List.append_assoc, List.cons_append, List.nil_append]
  unfold buildSearchPattern
  -- only how the texts are put together matters
  generalize "cpe:2.3:%".toList = s at *
  generalize "%".toList = e at *
  rw [hstart, hmiddle, hend]
  exact happend s _ _ e

/-- The pattern, read: cut at its colons. -/
theorem tokens_buildSearchPattern :
    Like.tokens (buildSearchPattern py product) =
      "cpe:2.3:".toList.map .lit ++ (.any :: .lit ':' ::
        (Like.tokens (searchFields py product).1 ++ .lit ':' ::
          (Like.tokens (searchFields py product).2 ++ [.lit ':', .any]))) := by
  have hcolon : Like.Plain ':' := by decide
  have hhead : Like.tokens "cpe:2.3:%".toList = "cpe:2.3:".toList.map .lit ++ [.any] := by decide
  have hrest : Like.tokens "%".toList = [.any] := by decide
  rw [buildSearchPattern_eq, Like.tokens_append_cons hcolon, Like.tokens_append_cons hcolon,
    Like.tokens_append_cons hcolon, hhead, hrest, List.append_assoc, List.singleton_append]

/-- **A criteria fits the pattern of a product exactly when it spells its fields.** -/
theorem ilike_iff_spells :
    cf.ilike t (buildSearchPattern py product) = true ↔ Spells cf (searchFields py product) t := by
  rw [CaseFold.ilike, Like.fits_iff, tokens_buildSearchPattern, Like.mem_language_append]
  constructor
  · rintro ⟨start, b₁, rfl, hstart, h₁⟩
    obtain ⟨kind, b₂, rfl, h₂⟩ := Like.mem_language_any.mp h₁
    obtain ⟨b₃, rfl, h₃⟩ := (Like.mem_language_lit cf.eq_colon).mp h₂
    obtain ⟨vendor, b₄, rfl, hv, h₄⟩ := Like.mem_language_append.mp h₃
    obtain ⟨b₅, rfl, h₅⟩ := (Like.mem_language_lit cf.eq_colon).mp h₄
    obtain ⟨product, b₆, rfl, hp, h₆⟩ := Like.mem_language_append.mp h₅
    obtain ⟨rest, rfl, -⟩ := (Like.mem_language_lit cf.eq_colon).mp h₆
    exact ⟨start, kind, vendor, product, rest, rfl, Like.mem_language_lits.mp hstart, hv, hp⟩
  · rintro ⟨start, kind, vendor, product, rest, rfl, hstart, hv, hp⟩
    refine ⟨start, _, rfl, Like.mem_language_lits.mpr hstart, ?_⟩
    refine Like.mem_language_any.mpr ⟨kind, _, rfl, ?_⟩
    refine (Like.mem_language_lit cf.eq_colon).mpr ⟨_, rfl, ?_⟩
    refine Like.mem_language_append.mpr ⟨vendor, _, rfl, hv, ?_⟩
    refine (Like.mem_language_lit cf.eq_colon).mpr ⟨_, rfl, ?_⟩
    refine Like.mem_language_append.mpr ⟨product, _, rfl, hp, ?_⟩
    refine (Like.mem_language_lit cf.eq_colon).mpr ⟨rest, rfl, ?_⟩
    exact Like.mem_language_any.mpr ⟨rest, [], (List.append_nil rest).symm, Language.nil_mem_one⟩

theorem isCandidate_iff {rawPayload : Json} :
    isCandidate cf (buildSearchPattern py product) rawPayload = true ↔
      ∃ m ∈ (visibleEntries rawPayload).items, ∃ t, criteriaText m = some t ∧
        Spells cf (searchFields py product) t := by
  simp only [isCandidate, List.any_eq_true, Option.any_eq_true, ilike_iff_spells]

end Spells

end CveManagement
