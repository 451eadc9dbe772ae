import CveManagement.Query.CirclLinks
import Mathlib

/-!
# What the fallback works with

`CirclClient.fetch_and_store` gets as far as the ids in its cache, or the rows of the page, or
neither (`CveManagement.CirclState.answer`). That decides what it stores and what it returns
(`CveManagement.CirclClient.fetchAndStore_answer`).
-/

namespace CveManagement

/-- What `fetch_and_store` works with, if it gets that far: the ids of the cache, or the rows of
the page. -/
def CirclState.answer (py : PyParse) (normalizedCpe : Text)
    (pages : Except CirclError (List Json)) (s : CirclState) : Option CirclAnswer :=
  match parseCpeVendorProduct normalizedCpe with
  | none => none
  | some (vendor, product) =>
    match s.cached (circlCacheKey vendor product) with
    | some value => ((value.elements.mapM cveIdArgument).map .cached).toOption
    | none =>
      match pages with
      | .error _ => none
      | .ok items =>
        ((circlRows py s.now items).toOption.bind fun rows => rows.mapM CirclRow.toMirror).map
          .fetched

section Answer

variable {s : CirclState} {normalizedCpe : Text} {cveIds : List String}

/-- What goes into `cve_id` is a text. -/
theorem mapM_cveIdArgument_ok_iff {values : List Json} {cveIds : List String} :
    values.mapM cveIdArgument = .ok cveIds ↔ values = cveIds.map .str := by
  constructor
  · intro h
    induction values generalizing cveIds with
    | nil =>
      obtain rfl := Except.ok.inj h
      rfl
    | cons value values ih =>
      rw [List.mapM_cons] at h
      obtain ⟨cveId, hvalue, h⟩ := bind_eq_ok_iff.mp h
      obtain ⟨rest, hrest, h⟩ := bind_eq_ok_iff.mp h
      obtain rfl := Except.ok.inj h
      rw [ih hrest, List.map_cons]
      cases value with
      | str id =>
        obtain rfl := Except.ok.inj hvalue
        rfl
      | _ => cases hvalue
  · rintro rfl
    exact mapM_cveIdArgument cveIds

/-- **The ids of the cache are the answer** if they are texts. -/
theorem CirclState.answer_eq_cached_iff (py : PyParse) (pages : Except CirclError (List Json)) :
    s.answer py normalizedCpe pages = some (.cached cveIds) ↔
      ∃ vendor product value, parseCpeVendorProduct normalizedCpe = some (vendor, product) ∧
        s.cached (circlCacheKey vendor product) = some value ∧
          value.elements = cveIds.map .str := by
  unfold answer
  constructor
  · intro h
    cases hvp : parseCpeVendorProduct normalizedCpe with
    | none =>
      rw [hvp] at h
      cases h
    | some vp =>
      obtain ⟨vendor, product⟩ := vp
      rw [hvp] at h
      dsimp only at h
      cases hcached : s.cached (circlCacheKey vendor product) with
      | some value =>
        rw [hcached] at h
        dsimp only at h
        refine ⟨vendor, product, value, rfl, hcached, mapM_cveIdArgument_ok_iff.mp ?_⟩
        cases hargs : value.elements.mapM cveIdArgument with
        | error e =>
          rw [hargs] at h
          cases h
        | ok cveIds' =>
          rw [hargs] at h
          obtain rfl := CirclAnswer.cached.inj (Option.some.inj h)
          rfl
      | none =>
        rw [hcached] at h
        cases pages with
        | error e => cases h
        | ok items =>
          obtain ⟨rows, -, heq⟩ := Option.map_eq_some_iff.mp h
          cases heq
  · rintro ⟨vendor, product, value, hvp, hcached, htexts⟩
    rw [hvp]
    dsimp only
    rw [hcached]
    dsimp only
    rw [htexts, mapM_cveIdArgument]
    rfl

namespace CirclClient

/-- What is stored of a page are its rows, if it can be read and the database takes its scores. -/
theorem store_answer (py : PyParse) (now : Instant) (productId : ℕ) (items : List Json)
    (s : System) :
    (∃ rows, ((circlRows py now items).toOption.bind fun rows => rows.mapM CirclRow.toMirror) =
        some rows ∧
      store py now productId items s =
        .ok (rows.length, s.storeCircl now productId (.fetched rows))) ∨
      ((circlRows py now items).toOption.bind fun rows => rows.mapM CirclRow.toMirror) = none ∧
        ∃ e, store py now productId items s = .error e := by
  unfold store
  cases circlRows py now items with
  | error e => exact .inr ⟨rfl, _, rfl⟩
  | ok rows =>
    simp only [Except.toOption, Option.bind_some, Except.mapError, bind, Except.bind]
    cases hmirrored : rows.mapM CirclRow.toMirror with
    | none =>
      split_ifs with hempty
      · rw [List.isEmpty_iff.mp hempty] at hmirrored
        cases hmirrored
      · exact .inr ⟨rfl, _, rfl⟩
    | some mirrored =>
      have hlength : rows.length = mirrored.length := by
        have hids := congrArg List.length (cveIds_of_mapM_toMirror hmirrored)
        rw [List.length_map, List.length_map] at hids
        exact hids.symm
      refine .inl ⟨mirrored, rfl, ?_⟩
      split_ifs with hempty
      · rw [List.isEmpty_iff.mp hempty] at hmirrored
        obtain rfl := Option.some.inj hmirrored
        rfl
      · rw [hlength]
        rfl

/-- A value in the cache that is no text ends the linking before it writes anything. -/
theorem upsertFindingsOnly_of_error {now : Instant} {productId : ℕ} {values : List Json}
    {e : CirclError} {s : System} (h : values.mapM cveIdArgument = .error e) :
    upsertFindingsOnly now productId values s = .error e := by
  unfold upsertFindingsOnly
  rw [h]
  refine if_neg fun hempty => ?_
  rw [List.isEmpty_iff.mp hempty] at h
  cases h

/-- **What a call does with its answer**: nothing without one; it links the ids of the cache, and
reports none, or raises; it stores the rows of the page, and reports how many. -/
theorem fetchAndStore_answer (py : PyParse) (productId : ℕ) (normalizedCpe : Text)
    (pages : Except CirclError (List Json)) (s : CirclState) :
    (s.answer py normalizedCpe pages = none ∧
        (∀ n, (fetchAndStore py productId normalizedCpe pages s).1 = .ok n → n = 0) ∧
        (fetchAndStore py productId normalizedCpe pages s).2.system = s.system) ∨
      (∃ cveIds, s.answer py normalizedCpe pages = some (.cached cveIds) ∧
        ((∀ c ∈ cveIds, (s.system.cves.get? c).isSome) ∧
            (fetchAndStore py productId normalizedCpe pages s).1 = .ok 0 ∨
          (¬∀ c ∈ cveIds, (s.system.cves.get? c).isSome) ∧
            (fetchAndStore py productId normalizedCpe pages s).1 =
              .error .foreignKeyViolation) ∧
        (fetchAndStore py productId normalizedCpe pages s).2.system =
          s.system.storeCircl s.now productId (.cached cveIds)) ∨
      ∃ rows, s.answer py normalizedCpe pages = some (.fetched rows) ∧
        (fetchAndStore py productId normalizedCpe pages s).1 = .ok rows.length ∧
        (fetchAndStore py productId normalizedCpe pages s).2.system =
          s.system.storeCircl s.now productId (.fetched rows) := by
  unfold fetchAndStore CirclState.answer
  cases hvp : parseCpeVendorProduct normalizedCpe with
  | none => exact .inl ⟨rfl, fun n hn => (Except.ok.inj hn).symm, rfl⟩
  | some vp =>
    obtain ⟨vendor, product⟩ := vp
    dsimp only
    cases hcached : s.cached (circlCacheKey vendor product) with
    | some value =>
      dsimp only
      cases hargs : value.elements.mapM cveIdArgument with
      | error e =>
        rw [upsertFindingsOnly_of_error hargs]
        exact .inl ⟨rfl, fun n hn => (by cases hn), rfl⟩
      | ok cveIds =>
        refine .inr (.inl ⟨cveIds, rfl, ?_⟩)
        rw [mapM_cveIdArgument_ok_iff.mp hargs]
        by_cases hall : ∀ c ∈ cveIds, (s.system.cves.get? c).isSome
        · rw [upsertFindingsOnly_of_forall s.now productId hall]
          exact ⟨.inl ⟨hall, rfl⟩, rfl⟩
        · rw [upsertFindingsOnly_of_not_forall s.now productId hall]
          exact ⟨.inr ⟨hall, rfl⟩, (if_neg fun h => hall (List.all_eq_true.mp h)).symm⟩
    | none =>
      cases pages with
      | error e => exact .inl ⟨rfl, fun n hn => (by cases hn), rfl⟩
      | ok items =>
        dsimp only
        rcases store_answer py s.now productId items s.system with
          ⟨rows, hrows, hstore⟩ | ⟨hnone, e, hstore⟩
        · rw [hrows, hstore]
          refine .inr (.inr ⟨rows, rfl, ?_⟩)
          split_ifs with hempty
          · rw [List.isEmpty_iff.mp hempty] at hrows
            obtain rfl := Option.some.inj hrows
            exact ⟨rfl, rfl⟩
          · exact ⟨rfl, rfl⟩
        · rw [hnone, hstore]
          refine .inl ⟨rfl, fun n hn => ?_, ?_⟩
          · split_ifs at hn
            exact (Except.ok.inj hn).symm
          · split_ifs <;> rfl

/-- **What the fallback stores** is the answer, if it gets that far. -/
theorem system_fetchAndStore (py : PyParse) (productId : ℕ) (normalizedCpe : Text)
    (pages : Except CirclError (List Json)) (s : CirclState) :
    (fetchAndStore py productId normalizedCpe pages s).2.system =
      (s.answer py normalizedCpe pages).elim s.system
        fun answer => s.system.storeCircl s.now productId answer := by
  rcases fetchAndStore_answer py productId normalizedCpe pages s with
    ⟨hnone, -, hsame⟩ | ⟨cveIds, hcached, -, hsystem⟩ | ⟨rows, hfetched, -, hsystem⟩
  · rw [hnone, hsame]
    rfl
  · rw [hcached, hsystem]
    rfl
  · rw [hfetched, hsystem]
    rfl

end CirclClient

end Answer

end CveManagement
