import CveManagement.Query.CirclClient
import CveManagement.Sync.Candidates
import Mathlib

/-!
# Payloads that break the candidate query

`_CANDIDATES_SQL` walks the payload of every row of `cves`, whichever product is synced. A
value at `configurations`, `nodes` or `cpeMatch` that is not an array, a JSON `null` among
them, ends the walk in an error, and the error is that of the whole query. The writers
accept such payloads: an item of CIRCL needs an `id` and no more.

`CveManagement.candidateRows_iff` says which sets of payloads a product can be synced with:
in each of them the walk is clean, or an entry that fits comes before the first bad value.
-/

namespace CveManagement

/-- The error of `jsonb_array_elements`. -/
inductive SqlError
  | cannotExtractElements
  deriving DecidableEq, Repr

/-- The `EXISTS` of `_CANDIDATES_SQL`. -/
def existsEntry (cf : CaseFold) (pattern : Text) (rawPayload : Json) : Except SqlError Bool :=
  -- `EXISTS` stops at the first row, and never sees what comes after it
  if isCandidate cf pattern rawPayload then .ok true
  else if (visibleEntries rawPayload).error then .error .cannotExtractElements
  else .ok false

/-- **The `WHERE` of `_CANDIDATES_SQL`**, of rows with a payload. The sort and the `DISTINCT`
come after it, so no `LIMIT` spares a row. -/
def candidateRows {ρ : Type} (cf : CaseFold) (pattern : Text) (payload : ρ → Json) :
    List ρ → Except SqlError (List ρ)
  | [] => .ok []
  | r :: rows => do
    let fits ← existsEntry cf pattern (payload r)
    let found ← candidateRows cf pattern payload rows
    pure (if fits then r :: found else found)

/-! ### The shape of a payload -/

/-- The value is missing, or an array of elements of this shape. -/
def Listed (shape : Json → Prop) (value : Option Json) : Prop :=
  value = none ∨ ∃ items, value = some (.arr items) ∧ ∀ x ∈ items, shape x

/-- A node whose `cpeMatch` can be walked. -/
def NodeShaped (nd : Json) : Prop := Listed (fun _ => True) (nd.arrow "cpeMatch")

/-- A configuration that can be walked. -/
def ConfigShaped (cfg : Json) : Prop := Listed NodeShaped (cfg.arrow "nodes")

/-- **A payload that can be walked**: an array wherever the query expects one. -/
def WellShaped (rawPayload : Json) : Prop := Listed ConfigShaped (rawPayload.arrow "configurations")

/-- **The payload shows an entry that fits** before the first value that cannot be walked. -/
def FitsFirst (cf : CaseFold) (pattern : Text) (rawPayload : Json) : Prop :=
  ∃ cfgs cfg cfgs' nds nd nds' entries m t,
    rawPayload.arrow "configurations" = some (.arr (cfgs ++ cfg :: cfgs')) ∧
    (∀ c ∈ cfgs, ConfigShaped c) ∧
    cfg.arrow "nodes" = some (.arr (nds ++ nd :: nds')) ∧ (∀ n ∈ nds, NodeShaped n) ∧
    nd.arrow "cpeMatch" = some (.arr entries) ∧ m ∈ entries ∧ criteriaText m = some t ∧
    cf.ilike t pattern = true

/-! ### Joins -/

section Joins

variable {α β : Type} {f : α → Rows β} {l : List α}

/-- A join raises nothing when no part of it does. -/
theorem Rows.error_each : (Rows.each f l).error = false ↔ ∀ a ∈ l, (f a).error = false := by
  induction l with
  | nil => simp [Rows.each]
  | cons a l ih =>
    rw [Rows.each, List.forall_mem_cons, ← ih]
    split_ifs with ha
    · simp [ha]
    · simp [ha]

/-- A join yields what a part of it yields, as long as the parts before it raise nothing. -/
theorem Rows.mem_each {b : β} : b ∈ (Rows.each f l).items ↔
    ∃ l₁ a l₂, l = l₁ ++ a :: l₂ ∧ (∀ a' ∈ l₁, (f a').error = false) ∧ b ∈ (f a).items := by
  induction l with
  | nil =>
    refine iff_of_false List.not_mem_nil ?_
    rintro ⟨l₁, a, l₂, h, -⟩
    exact List.append_ne_nil_of_right_ne_nil l₁ (List.cons_ne_nil a l₂) h.symm
  | cons c l ih =>
    have hhead : b ∈ (f c).items →
        ∃ l₁ a l₂, c :: l = l₁ ++ a :: l₂ ∧ (∀ a' ∈ l₁, (f a').error = false) ∧
          b ∈ (f a).items :=
      fun hb => ⟨[], c, l, rfl, fun _ h => absurd h List.not_mem_nil, hb⟩
    rw [Rows.each]
    split_ifs with hc
    · -- the first part raises, so nothing comes after it
      refine ⟨hhead, ?_⟩
      rintro ⟨l₁, a, l₂, hl, hclean, hb⟩
      cases l₁ with
      | nil =>
        obtain ⟨rfl, rfl⟩ := List.cons.inj hl
        exact hb
      | cons d l₁ =>
        obtain ⟨rfl, rfl⟩ := List.cons.inj hl
        have hclean' := hclean c List.mem_cons_self
        exact absurd (hc.symm.trans hclean') (by decide)
    · -- the first part is clean, and the others follow it
      rw [List.mem_append, ih]
      constructor
      · rintro (hb | ⟨l₁, a, l₂, rfl, hclean, hb⟩)
        · exact hhead hb
        · refine ⟨c :: l₁, a, l₂, rfl, ?_, hb⟩
          exact List.forall_mem_cons.mpr ⟨Bool.eq_false_iff.mpr hc, hclean⟩
      · rintro ⟨l₁, a, l₂, hl, hclean, hb⟩
        cases l₁ with
        | nil =>
          obtain ⟨rfl, rfl⟩ := List.cons.inj hl
          exact .inl hb
        | cons d l₁ =>
          obtain ⟨rfl, rfl⟩ := List.cons.inj hl
          exact .inr ⟨l₁, a, l₂, rfl, (List.forall_mem_cons.mp hclean).2, hb⟩

/-- A value is walked, and what is done with each of its elements, without an error exactly
when it is listed. -/
theorem error_bind_arrayElements {value : Option Json} {f : Json → Rows β} :
    ((arrayElements value).bind f).error = false ↔ Listed (fun x => (f x).error = false) value := by
  rw [Rows.bind, Bool.or_eq_false_iff, Rows.error_each, Listed]
  rcases value with _ | v
  · simp [arrayElements]
  · cases v <;> simp [arrayElements]

/-- What the walk of a value yields. -/
theorem mem_bind_arrayElements {value : Option Json} {f : Json → Rows β} {b : β} :
    b ∈ ((arrayElements value).bind f).items ↔
      ∃ l₁ a l₂, value = some (.arr (l₁ ++ a :: l₂)) ∧ (∀ a' ∈ l₁, (f a').error = false) ∧
        b ∈ (f a).items := by
  rw [Rows.bind, Rows.mem_each]
  rcases value with _ | v
  · simp [arrayElements]
  · cases v <;> simp [arrayElements]

theorem error_arrayElements {value : Option Json} :
    (arrayElements value).error = false ↔ Listed (fun _ => True) value := by
  rw [Listed]
  rcases value with _ | v
  · simp [arrayElements]
  · cases v <;> simp [arrayElements]

theorem mem_arrayElements {value : Option Json} {m : Json} :
    m ∈ (arrayElements value).items ↔ ∃ items, value = some (.arr items) ∧ m ∈ items := by
  rcases value with _ | v
  · simp [arrayElements]
  · cases v <;> simp [arrayElements]

end Joins

/-! ### The walk of a payload -/

section Walk

variable {cf : CaseFold} {pattern : Text} {rawPayload : Json}

theorem listed_congr {P Q : Json → Prop} (h : ∀ x, P x ↔ Q x) (value : Option Json) :
    Listed P value ↔ Listed Q value := by
  rw [funext fun x => propext (h x)]

/-- The walk of a configuration. -/
theorem error_config_iff (cfg : Json) :
    ((arrayElements (cfg.arrow "nodes")).bind fun nd =>
      arrayElements (nd.arrow "cpeMatch")).error = false ↔ ConfigShaped cfg :=
  error_bind_arrayElements.trans (listed_congr (fun _ => error_arrayElements) _)

/-- **The walk of a payload ends without an error exactly when the payload is well shaped.** -/
theorem error_visibleEntries_iff :
    (visibleEntries rawPayload).error = false ↔ WellShaped rawPayload :=
  error_bind_arrayElements.trans (listed_congr error_config_iff _)

/-- **What the query finds of a payload, it finds before the first error.** -/
theorem isCandidate_iff_fitsFirst :
    isCandidate cf pattern rawPayload = true ↔ FitsFirst cf pattern rawPayload := by
  simp only [isCandidate, List.any_eq_true, Option.any_eq_true, visibleEntries,
    mem_bind_arrayElements, mem_arrayElements, error_config_iff, error_arrayElements]
  constructor
  · rintro ⟨m, ⟨cfgs, cfg, cfgs', hcfgs, hcs, nds, nd, nds', hnds, hns, entries, hentries, hm⟩,
      t, ht, hlike⟩
    exact ⟨cfgs, cfg, cfgs', nds, nd, nds', entries, m, t, hcfgs, hcs, hnds, hns, hentries, hm, ht,
      hlike⟩
  · rintro ⟨cfgs, cfg, cfgs', nds, nd, nds', entries, m, t, hcfgs, hcs, hnds, hns, hentries, hm, ht,
      hlike⟩
    exact ⟨m, ⟨cfgs, cfg, cfgs', hcfgs, hcs, nds, nd, nds', hnds, hns, entries, hentries, hm⟩, t,
      ht, hlike⟩

/-- The condition of the query, evaluated on one payload. -/
theorem existsEntry_ok_iff : (∃ b, existsEntry cf pattern rawPayload = .ok b) ↔
    WellShaped rawPayload ∨ FitsFirst cf pattern rawPayload := by
  rw [← error_visibleEntries_iff, ← isCandidate_iff_fitsFirst, existsEntry]
  split_ifs with hfits herror
  · exact iff_of_true ⟨true, rfl⟩ (.inr hfits)
  · simp [hfits, herror]
  · simp [herror]

end Walk

/-! ### The query -/

section Query

variable {ρ : Type} {cf : CaseFold} {pattern : Text} {payload : ρ → Json}

/-- A query has a result when its condition has one on every row. -/
theorem candidateRows_ok_iff {rows : List ρ} :
    (∃ found, candidateRows cf pattern payload rows = .ok found) ↔
      ∀ r ∈ rows, ∃ b, existsEntry cf pattern (payload r) = .ok b := by
  induction rows with
  | nil => simp [candidateRows]
  | cons r rows ih =>
    rw [List.forall_mem_cons, ← ih, candidateRows]
    cases hr : existsEntry cf pattern (payload r) with
    | error e => simp [bind, Except.bind]
    | ok b =>
      cases hrows : candidateRows cf pattern payload rows with
      | error e => simp [bind, Except.bind]
      | ok found => simp [bind, Except.bind, pure, Except.pure]

/-- **A product can be synced exactly when each payload of the mirror is well shaped, or
shows an entry that fits the product before it goes wrong.** -/
theorem candidateRows_iff (py : PyText) (cf : CaseFold) (product : Product)
    (rawPayloads : List Json) :
    (∃ found, candidateRows cf (buildSearchPattern py product) id rawPayloads = .ok found) ↔
      ∀ rawPayload ∈ rawPayloads,
        WellShaped rawPayload ∨ FitsFirst cf (buildSearchPattern py product) rawPayload :=
  candidateRows_ok_iff.trans (forall₂_congr fun _ _ => existsEntry_ok_iff)

end Query

/-- An item of CIRCL that says that its CVE has no configurations. -/
def Json.unconfigured : Json := .obj [("id", .str "CVE-2024-0001"), ("configurations", .null)]

/-- Parsers that know no text. -/
def PyParse.none : PyParse := ⟨fun _ => .none, fun _ => .none⟩

/-- **One item of CIRCL, and no product can be synced any more.** -/
theorem candidateRows_unconfigured :
    (∃ row, circlRows .none 0 [.unconfigured] = .ok [row] ∧ row.rawPayload = .unconfigured) ∧
      ∀ product, candidateRows .ascii (buildSearchPattern .ascii product) id [.unconfigured] =
        .error .cannotExtractElements :=
  ⟨⟨_, rfl, rfl⟩, fun _ => rfl⟩

end CveManagement
