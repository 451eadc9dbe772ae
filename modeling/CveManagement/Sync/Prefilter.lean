import CveManagement.Sync.Candidates

/-!
# The prefilter and the matcher

`sync_product` shows the matcher only the candidates. What the matcher makes of a payload and what
the query makes of it have two descriptions: the matcher is certain that a product is affected
exactly when one of the entries that it is shown affects it
(`CveManagement.certain_isCveAffectingProduct_iff`), and the entries that it is shown are those
that the query sees if the payload is as flat as the query takes it to be
(`CveManagement.mem_visibleEntries_of_flat`).

Whether the two agree on the CVEs of a product is another matter: see
`CveManagement.prefilterComplete_iff`.
-/

namespace CveManagement

/-! ### When the matcher is certain -/

/-- The loop goes past the entry. -/
def PassedOver (py : PyText) (product : Product) (installed : Text) (entry : Json) : Prop :=
  judgeEntry py product installed entry = .ok .other ∨
    judgeEntry py product installed entry = .ok .outOfRange

/-- **The entries affect the product**: one of them names it, with its version in range, and
the loop goes past those before it. -/
def Affecting (py : PyText) (product : Product) (installed : Text) (cpes : List Json) : Prop :=
  ∃ before entry after name, cpes = before ++ entry :: after ∧
    (∀ e ∈ before, PassedOver py product installed e) ∧
      judgeEntry py product installed entry = .ok (.inRange name)

section Matcher

variable {py : PyText} {product : Product} {installed : Text} {entry : Json} {rest : List Json}

theorem not_affecting_nil : ¬Affecting py product installed [] := by
  rintro ⟨before, entry, after, name, h, -⟩
  exact List.append_ne_nil_of_right_ne_nil before (List.cons_ne_nil entry after) h.symm

/-- An entry in range is enough. -/
theorem affecting_cons_of_inRange {name : Text}
    (h : judgeEntry py product installed entry = .ok (.inRange name)) :
    Affecting py product installed (entry :: rest) :=
  ⟨[], entry, rest, name, rfl, fun _ he => absurd he List.not_mem_nil, h⟩

/-- An entry that the loop goes past does not count. -/
theorem affecting_cons_of_passedOver (h : PassedOver py product installed entry) :
    Affecting py product installed (entry :: rest) ↔ Affecting py product installed rest := by
  constructor
  · rintro ⟨before, e, after, name, hl, hbefore, he⟩
    cases before with
    | nil =>
      obtain ⟨rfl, rfl⟩ := List.cons.inj hl
      rcases h with h | h <;> rw [h] at he <;> cases he
    | cons b before =>
      obtain ⟨rfl, rfl⟩ := List.cons.inj hl
      exact ⟨before, e, after, name, rfl, fun e' he' => hbefore e' (List.mem_cons_of_mem _ he'), he⟩
  · rintro ⟨before, e, after, name, rfl, hbefore, he⟩
    refine ⟨entry :: before, e, after, name, rfl, fun e' he' => ?_, he⟩
    rcases List.mem_cons.mp he' with rfl | he'
    · exact h
    · exact hbefore e' he'

/-- An entry that raises ends the loop. -/
theorem not_affecting_cons_of_error {err : PyError}
    (h : judgeEntry py product installed entry = .error err) :
    ¬Affecting py product installed (entry :: rest) := by
  rintro ⟨before, e, after, name, hl, hbefore, he⟩
  cases before with
  | nil =>
    obtain ⟨rfl, rfl⟩ := List.cons.inj hl
    rw [h] at he
    cases he
  | cons b before =>
    obtain ⟨rfl, rfl⟩ := List.cons.inj hl
    rcases hbefore entry List.mem_cons_self with hp | hp <;> rw [h] at hp <;> cases hp

/-- **The loop is certain that the product is affected exactly when an entry affects it.** -/
theorem certain_judgeEntries_iff {cpes : List Json} {found : Bool} :
    (∃ r, judgeEntries py product installed found cpes = .ok r ∧ r.affected = true ∧
      r.confidence = .certain) ↔ Affecting py product installed cpes := by
  -- at the end of the loop the verdict is uncertain, or that nothing is affected
  induction cpes generalizing found with
  | nil =>
    refine iff_of_false ?_ not_affecting_nil
    rintro ⟨r, hr, haffected, hcertain⟩
    cases found <;> cases hr
    · cases hcertain
    · cases haffected
  | cons entry rest ih =>
    rw [judgeEntries]
    cases hjudge : judgeEntry py product installed entry with
    | error err =>
      refine iff_of_false ?_ (not_affecting_cons_of_error hjudge)
      rintro ⟨r, hr, -⟩
      cases hr
    | ok verdict =>
      cases verdict with
      | other => exact ih.trans (affecting_cons_of_passedOver (.inl hjudge)).symm
      | outOfRange => exact ih.trans (affecting_cons_of_passedOver (.inr hjudge)).symm
      | inRange name =>
        exact iff_of_true ⟨_, rfl, rfl, rfl⟩ (affecting_cons_of_inRange hjudge)

/-- The same, of the matcher. -/
theorem certain_isCveAffectingProduct_iff {cpes : List Json} :
    (∃ r, isCveAffectingProduct py product cpes = .ok r ∧ r.affected = true ∧
      r.confidence = .certain) ↔
      Affecting py product (py.strip (columnText product.version)) cpes := by
  rw [isCveAffectingProduct]
  cases cpes with
  | nil =>
    refine iff_of_false ?_ not_affecting_nil
    rintro ⟨r, hr, -, hcertain⟩
    cases hr
    cases hcertain
  | cons entry rest => exact certain_judgeEntries_iff

end Matcher

/-! ### Payloads without children -/

/-- The elements of a member, where it is an array. -/
def Json.elements (key : String) (j : Json) : List Json :=
  match j.arrow key with
  | some (.arr items) => items
  | _ => []

/-- The member is an array whose elements are as stated. -/
def Json.ArrayOf (key : String) (p : Json → Prop) (j : Json) : Prop :=
  ∃ items, j.arrow key = some (.arr items) ∧ ∀ item ∈ items, p item

/-- A node with entries of its own, and no others. -/
def FlatNode (nd : Json) : Prop :=
  nd.arrow "children" = none ∧ nd.ArrayOf "cpeMatch" fun _ => True

/-- **A payload of the shape that the query walks.** -/
def Flat : Json → Prop := Json.ArrayOf "configurations" (Json.ArrayOf "nodes" FlatNode)

section Flat

variable {α β : Type} {key : String} {j v : Json} {items : List Json}

theorem Json.get_of_arrow (h : j.arrow key = some v) : j.get key = .ok v := by
  cases j with
  | obj members => rw [Json.get, show Json.member? key members = some v from h, Option.getD_some]
  | _ => cases h

theorem Json.get_of_arrow_none {other : String} (h : j.arrow other = some v)
    (hnone : j.arrow key = none) : j.get key = .ok .null := by
  cases j with
  | obj members =>
    rw [Json.get, show Json.member? key members = none from hnone, Option.getD_none]
  | _ => cases h

theorem Json.iterOr_arr : (Json.arr items).iterOr = .ok items := by
  cases items <;> rfl

theorem Json.elements_of_arrow (h : j.arrow key = some (.arr items)) :
    j.elements key = items := by
  rw [Json.elements, h]

/-- A join in which nothing raises. -/
theorem Rows.each_eq {f : α → Rows β} {g : α → List β} {l : List α}
    (h : ∀ a ∈ l, f a = ⟨g a, false⟩) : Rows.each f l = ⟨l.flatMap g, false⟩ := by
  induction l with
  | nil => rfl
  | cons a l ih =>
    rw [Rows.each, h a List.mem_cons_self, ih fun b hb => h b (List.mem_cons_of_mem a hb)]
    rfl

/-- The entries under the nodes of a payload, children apart. -/
def ownEntries (rawPayload : Json) : List Json :=
  (rawPayload.elements "configurations").flatMap fun config =>
    (config.elements "nodes").flatMap (Json.elements "cpeMatch")

theorem nodeCpes_of_flat {nd : Json} (h : FlatNode nd) :
    nodeCpes nd = .ok (nd.elements "cpeMatch") := by
  obtain ⟨hchildren, items, hitems, -⟩ := h
  rw [nodeCpes, Json.get_of_arrow hitems, Json.get_of_arrow_none hitems hchildren,
    Json.elements_of_arrow hitems]
  simp only [bind, Except.bind, Json.iterOr_arr]
  exact congrArg Except.ok (List.append_nil items)

theorem configCpes_of_flat {config : Json} (h : config.ArrayOf "nodes" FlatNode) :
    configCpes config = .ok ((config.elements "nodes").flatMap (Json.elements "cpeMatch")) := by
  obtain ⟨nodes, hnodes, hflat⟩ := h
  rw [configCpes, Json.get_of_arrow hnodes, Json.elements_of_arrow hnodes]
  simp only [bind, Except.bind, Json.iterOr_arr,
    mapM_eq_ok fun nd hnd => nodeCpes_of_flat (hflat nd hnd)]
  rfl

/-- **What the matcher is shown of a flat payload.** -/
theorem extractAffectedCpes_of_flat {rawPayload : Json} (h : Flat rawPayload) :
    extractAffectedCpes rawPayload = .ok (ownEntries rawPayload) := by
  obtain ⟨configs, hconfigs, hflat⟩ := h
  rw [extractAffectedCpes, ownEntries, Json.get_of_arrow hconfigs, Json.elements_of_arrow hconfigs]
  simp only [bind, Except.bind, Json.iterOr_arr,
    mapM_eq_ok fun config hconfig => configCpes_of_flat (hflat config hconfig)]
  rfl

/-- **What the query sees of a flat payload.** -/
theorem visibleEntries_of_flat {rawPayload : Json} (h : Flat rawPayload) :
    visibleEntries rawPayload = ⟨ownEntries rawPayload, false⟩ := by
  obtain ⟨configs, hconfigs, hflat⟩ := h
  have hnode : ∀ nd, FlatNode nd →
      arrayElements (nd.arrow "cpeMatch") = ⟨nd.elements "cpeMatch", false⟩ := by
    rintro nd ⟨-, items, hitems, -⟩
    rw [hitems, Json.elements_of_arrow hitems, arrayElements]
  have hconfig : ∀ config ∈ configs,
      ((arrayElements (config.arrow "nodes")).bind fun nd => arrayElements (nd.arrow "cpeMatch")) =
        ⟨(config.elements "nodes").flatMap (Json.elements "cpeMatch"), false⟩ := by
    intro config hconfig
    obtain ⟨nodes, hnodes, hnd⟩ := hflat config hconfig
    rw [hnodes, Json.elements_of_arrow hnodes, arrayElements, Rows.bind,
      Rows.each_eq fun nd h => hnode nd (hnd nd h), Bool.or_false]
  rw [visibleEntries, hconfigs, arrayElements, Rows.bind, Rows.each_eq hconfig, Bool.or_false,
    ownEntries, Json.elements_of_arrow hconfigs]

/-- A flat payload looks the same to both. -/
theorem mem_visibleEntries_of_flat {rawPayload : Json} (h : Flat rawPayload) {cpes : List Json}
    (hcpes : extractAffectedCpes rawPayload = .ok cpes) :
    cpes = (visibleEntries rawPayload).items := by
  rw [extractAffectedCpes_of_flat h] at hcpes
  rw [visibleEntries_of_flat h]
  exact (Except.ok.inj hcpes).symm

end Flat

/-! ### A product and a payload -/

/-- A product under its proper name. -/
def Product.openSsl : Product where
  id := 1
  name := "OpenSSL"
  vendor := some "OpenSSL Project"
  version := some "1.0.1"
  normalizedCpe := none
  cveCount := 0
  criticalCount := 0
  updatedAt := 0
  isDeleted := false
  deletedAt := none
  deletedBy := none

/-- The entry of one CPE name. -/
def Json.ofCriteria (criteria : String) : Json := .obj [("criteria", .str criteria)]

/-- A payload with one configuration, of one node. -/
def Json.ofEntries (entries : List Json) : Json :=
  .obj [("configurations", .arr [.obj [("nodes", .arr [.obj [("cpeMatch", .arr entries)]])]])]

end CveManagement
