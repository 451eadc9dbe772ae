import CveManagement.Query.CirclCache
import CveManagement.Query.CirclFormats
import CveManagement.Sync.Deleted
import Mathlib

/-!
# Linking from the cache, and fetching again

`CirclClient.fetch_and_store` stores the items whose id begins with `CVE-`, and caches the ids of
all of them. A later product of the same vendor and product is linked from the cache: that does
what fetching the same items would do for it exactly if all the ids are in the mirror, and the
product has a finding already of each that is no CVE
(`CveManagement.CirclClient.hitEqualsMiss_iff`).
-/

namespace CveManagement

/-- `cve_id.startswith("CVE-")`. -/
def isCveId (id : String) : Bool := Text.startsWith id.toList "CVE-".toList

/-! ### The rows of a page, at any time -/

section Rows

variable {py : PyParse} {now : Instant} {item : Json} {items : List Json}

/-- The values of a row that do not depend on when the item is read. -/
def CirclRow.undated (r : CirclRow) : Text × Json × Option PyFloat × Option String :=
  (r.cveId, r.rawPayload, r.cvssV2Score, r.severity)

/-- A date that can be read can be read at any time. -/
theorem parseCirclDt_later {date : Json} {t : Instant} (now' : Instant)
    (h : parseCirclDt py now date = .ok t) : ∃ t', parseCirclDt py now' date = .ok t' := by
  unfold parseCirclDt at h ⊢
  split
  · rename_i htruthy
    obtain ⟨text, htext, -⟩ := bind_eq_ok_iff.mp ((if_pos htruthy).symm.trans h)
    exact ⟨_, bind_eq_ok_iff.mpr ⟨text, htext, rfl⟩⟩
  · exact ⟨now', rfl⟩

/-- The id that is cached of an item. -/
theorem cachedId_of_get {id : String} (hget : item.get "id" = .ok (.str id)) (hne : id ≠ "") :
    CirclClient.cachedId item = some id := by
  rw [CirclClient.cachedId, hget]
  exact if_neg hne

theorem cachedId_of_not_truthy {cveId : Json} (hget : item.get "id" = .ok cveId)
    (hfalse : cveId.truthy = false) : CirclClient.cachedId item = none := by
  rw [CirclClient.cachedId, hget]
  cases cveId with
  | str id => exact if_pos (by simpa [Json.truthy] using hfalse)
  | _ => rfl

/-- A value on which a method of `str` is called is a text. -/
theorem Json.text_eq_ok_iff {j : Json} {text : Text} :
    j.text = .ok text ↔ ∃ s, j = .str s ∧ text = s.toList := by
  cases j <;> simp [Json.text, eq_comm]

/-- **An item that can be read gives the same row at any time**, up to the dates; its id is the
one that is cached, if that is the id of a CVE. -/
theorem circlRow_later {row : Option CirclRow} (now' : Instant)
    (h : circlRow py now item = .ok row) :
    ∃ row', circlRow py now' item = .ok row' ∧
      row'.map CirclRow.undated = row.map CirclRow.undated ∧
      row'.map (fun r => String.ofList r.cveId) = (CirclClient.cachedId item).filter isCveId := by
  obtain ⟨cveId, hget, h⟩ := bind_eq_ok_iff.mp h
  by_cases htruthy : cveId.truthy = true
  · rw [if_pos htruthy] at h
    obtain ⟨text, htext, h⟩ := bind_eq_ok_iff.mp h
    obtain ⟨id, rfl, rfl⟩ := Json.text_eq_ok_iff.mp htext
    rw [cachedId_of_get hget (by simpa [Json.truthy] using htruthy), Option.filter_some]
    by_cases hcve : isCveId id = true
    · obtain ⟨cvss, hcvss, h⟩ := bind_eq_ok_iff.mp ((if_pos hcve).symm.trans h)
      obtain ⟨cvss3, hcvss3, h⟩ := bind_eq_ok_iff.mp h
      obtain ⟨score, hscore, h⟩ := bind_eq_ok_iff.mp h
      obtain ⟨date, hdate, h⟩ := bind_eq_ok_iff.mp h
      obtain ⟨published, hpublished, h⟩ := bind_eq_ok_iff.mp h
      obtain ⟨change, hchange, h⟩ := bind_eq_ok_iff.mp h
      obtain ⟨date', hdate', h⟩ := bind_eq_ok_iff.mp h
      obtain ⟨modified, hmodified, h⟩ := bind_eq_ok_iff.mp h
      cases h
      -- the two dates are all that reads the clock
      obtain ⟨published', hpublished'⟩ := parseCirclDt_later now' hpublished
      obtain ⟨modified', hmodified'⟩ := parseCirclDt_later now' hmodified
      refine ⟨some ⟨id.toList, item, score, circlSeverity score, published', modified'⟩, ?_, rfl,
        ?_⟩
      · refine bind_eq_ok_iff.mpr ⟨.str id, hget, (if_pos htruthy).trans ?_⟩
        refine bind_eq_ok_iff.mpr ⟨id.toList, rfl, (if_pos hcve).trans ?_⟩
        refine bind_eq_ok_iff.mpr ⟨cvss, hcvss, bind_eq_ok_iff.mpr ⟨cvss3, hcvss3, ?_⟩⟩
        refine bind_eq_ok_iff.mpr ⟨score, hscore, bind_eq_ok_iff.mpr ⟨date, hdate, ?_⟩⟩
        refine bind_eq_ok_iff.mpr ⟨published', hpublished', ?_⟩
        refine bind_eq_ok_iff.mpr ⟨change, hchange, bind_eq_ok_iff.mpr ⟨date', hdate', ?_⟩⟩
        exact bind_eq_ok_iff.mpr ⟨modified', hmodified', rfl⟩
      · rw [if_pos hcve, Option.map_some, String.ofList_toList]
    · cases (if_neg hcve).symm.trans h
      refine ⟨none, bind_eq_ok_iff.mpr ⟨.str id, hget, (if_pos htruthy).trans ?_⟩, rfl, ?_⟩
      · exact bind_eq_ok_iff.mpr ⟨id.toList, rfl, if_neg hcve⟩
      · rw [if_neg hcve, Option.map_none]
  · cases (if_neg htruthy).symm.trans h
    refine ⟨none, bind_eq_ok_iff.mpr ⟨cveId, hget, if_neg htruthy⟩, rfl, ?_⟩
    rw [cachedId_of_not_truthy hget (Bool.eq_false_iff.mpr htruthy), Option.filter_none,
      Option.map_none]

/-- The rows of a page, item by item. -/
theorem circlRows_cons_ok_iff {rows : List CirclRow} :
    circlRows py now (item :: items) = .ok rows ↔ ∃ row rest, circlRow py now item = .ok row ∧
      circlRows py now items = .ok rest ∧ rows = row.toList ++ rest := by
  have hcons : ∀ (row : Option CirclRow) rest,
      (row :: rest).filterMap id = row.toList ++ rest.filterMap id := by
    intro row rest
    cases row <;> rfl
  unfold circlRows
  rw [List.mapM_cons]
  constructor
  · intro h
    obtain ⟨listed, hlisted, h⟩ := bind_eq_ok_iff.mp h
    obtain ⟨row, hrow, hlisted⟩ := bind_eq_ok_iff.mp hlisted
    obtain ⟨rest, hrest, hlisted⟩ := bind_eq_ok_iff.mp hlisted
    obtain rfl := Except.ok.inj hlisted
    exact ⟨row, rest.filterMap id, hrow, bind_eq_ok_iff.mpr ⟨rest, hrest, rfl⟩,
      (Except.ok.inj h).symm.trans (hcons row rest)⟩
  · rintro ⟨row, rest, hrow, hrest, rfl⟩
    obtain ⟨listed, hlisted, hrest⟩ := bind_eq_ok_iff.mp hrest
    obtain rfl := Except.ok.inj hrest
    refine bind_eq_ok_iff.mpr ⟨row :: listed, ?_, congrArg Except.ok (hcons row listed)⟩
    exact bind_eq_ok_iff.mpr ⟨row, hrow, bind_eq_ok_iff.mpr ⟨listed, hlisted, rfl⟩⟩

/-- **So does a page that can be read.** -/
theorem circlRows_later {rows : List CirclRow} (now' : Instant)
    (h : circlRows py now items = .ok rows) :
    ∃ rows', circlRows py now' items = .ok rows' ∧
      rows'.map CirclRow.undated = rows.map CirclRow.undated ∧
      rows'.map (fun r => String.ofList r.cveId) =
        (CirclClient.cachedIds items).filter isCveId := by
  induction items generalizing rows with
  | nil =>
    cases h
    exact ⟨[], rfl, rfl, rfl⟩
  | cons item items ih =>
    obtain ⟨row, rest, hrow, hrest, rfl⟩ := circlRows_cons_ok_iff.mp h
    obtain ⟨row', hrow', hundated, hid⟩ := circlRow_later now' hrow
    obtain ⟨rest', hrest', hundated', hids⟩ := ih hrest
    refine ⟨row'.toList ++ rest', circlRows_cons_ok_iff.mpr ⟨row', rest', hrow', hrest', rfl⟩,
      ?_, ?_⟩
    · rw [List.map_append, List.map_append, hundated', ← Option.toList_map, ← Option.toList_map,
        hundated]
    · rw [List.map_append, hids, ← Option.toList_map, hid, CirclClient.cachedIds,
        CirclClient.cachedIds, List.filterMap_cons]
      cases CirclClient.cachedId item with
      | none => rfl
      | some id =>
        rw [List.filter_cons, Option.filter_some]
        split_ifs <;> rfl

theorem toMirror_cases (r : CirclRow) :
    (numericColumn r.cvssV2Score = none ∧ r.toMirror = none) ∨
      (numericColumn r.cvssV2Score).isSome = true ∧
        ∃ row, r.toMirror = some row ∧ row.cveId = String.ofList r.cveId := by
  unfold CirclRow.toMirror
  cases numericColumn r.cvssV2Score with
  | none => exact .inl ⟨rfl, rfl⟩
  | some v2 => exact .inr ⟨rfl, _, rfl, rfl⟩

/-- **The database refuses rows for their scores**, or not at all. -/
theorem mapM_toMirror_iff {rows : List CirclRow} :
    (∃ mirrored, rows.mapM CirclRow.toMirror = some mirrored) ↔
      ∀ r ∈ rows, (numericColumn r.cvssV2Score).isSome = true := by
  induction rows with
  | nil => exact iff_of_true ⟨[], rfl⟩ fun r hr => absurd hr List.not_mem_nil
  | cons r rows ih =>
    rw [List.forall_mem_cons, ← ih, List.mapM_cons]
    rcases toMirror_cases r with ⟨hnone, hrow⟩ | ⟨hsome, row, hrow, -⟩
    · simp [hnone, hrow]
    · cases rows.mapM CirclRow.toMirror with
      | none => simp [hrow]
      | some rest => simp [hrow, hsome]

theorem cveIds_of_mapM_toMirror {rows : List CirclRow} {mirrored : List MirrorRow}
    (h : rows.mapM CirclRow.toMirror = some mirrored) :
    mirrored.map MirrorRow.cveId = rows.map fun r => String.ofList r.cveId := by
  induction rows generalizing mirrored with
  | nil =>
    cases h
    rfl
  | cons r rows ih =>
    rw [List.mapM_cons] at h
    obtain ⟨row', hrow', h⟩ := Option.bind_eq_some_iff.mp h
    obtain ⟨rest, hrest, h⟩ := Option.bind_eq_some_iff.mp h
    obtain rfl := Option.some.inj h
    rcases toMirror_cases r with ⟨-, hrow⟩ | ⟨-, row, hrow, hid⟩
    · exact absurd (hrow.symm.trans hrow') (Option.some_ne_none _).symm
    · obtain rfl := Option.some.inj (hrow.symm.trans hrow')
      rw [List.map_cons, List.map_cons, ih hrest, hid]

end Rows

/-! ### Findings for a list of ids -/

/-- The findings that `_UPSERT_FINDING_SQL` inserts, one id after the other. -/
def linkAll (now : Instant) (productId : ℕ) (cveIds : List String) (db : Db) : Db :=
  cveIds.foldl (fun db cveId => insertCirclFinding now productId cveId db) db

section LinkAll

variable {s : System} {db : Db} {now : Instant} {productId : ℕ} {cveId : String}
  {cveIds : List String}

theorem db_storeCircl_fetched (rows : List MirrorRow) :
    (s.storeCircl now productId (.fetched rows)).db =
      linkAll now productId (rows.map MirrorRow.cveId) s.db := by
  rw [System.storeCircl, System.insertCirclFindings,
    if_pos (Mirror.all_isSome_foldl_insertMissing rows s.cves)]
  rfl

theorem db_storeCircl_cached (h : ∀ c ∈ cveIds, (s.cves.get? c).isSome) :
    (s.storeCircl now productId (.cached cveIds)).db = linkAll now productId cveIds s.db := by
  rw [System.storeCircl, System.insertCirclFindings, if_pos (List.all_eq_true.mpr h)]
  rfl

/-- A finding that is there is not inserted again. -/
theorem insertCirclFinding_of_isSome (h : (db.findingAt productId cveId).isSome) :
    insertCirclFinding now productId cveId db = db := by
  have hmem : (productId, cveId) ∈ db.findings.rows.map Finding.target := by
    rw [← @keys_column _ .status]
    exact mem_keys_column.mpr h
  unfold insertCirclFinding Db.insertFinding
  exact dif_pos hmem

/-- **After the insertion of a list, a product has the findings it had, and those of the list.** -/
theorem isSome_findingAt_linkAll {c : String} :
    ((linkAll now productId cveIds db).findingAt productId c).isSome = true ↔
      (db.findingAt productId c).isSome = true ∨ c ∈ cveIds := by
  rw [← @mem_keys_column _ .status, ← @mem_keys_column _ .status, linkAll,
    column_insertCirclFindings, Register.mem_keys_enterAll, List.mem_map]
  simp

/-- **Ids can be left out of a list exactly if the product has their findings.** -/
theorem linkAll_filter_iff (now : Instant) (p : String → Bool) :
    linkAll now productId cveIds db = linkAll now productId (cveIds.filter p) db ↔
      ∀ c ∈ cveIds, p c = false → (db.findingAt productId c).isSome = true := by
  constructor
  · intro heq c hc hp
    have hin : ((linkAll now productId cveIds db).findingAt productId c).isSome = true :=
      isSome_findingAt_linkAll.mpr (.inr hc)
    rw [heq] at hin
    refine (isSome_findingAt_linkAll.mp hin).resolve_right fun hmem => ?_
    rw [(List.mem_filter.mp hmem).2] at hp
    cases hp
  · intro h
    induction cveIds generalizing db with
    | nil => rfl
    | cons c cveIds ih =>
      obtain ⟨hc, hrest⟩ := List.forall_mem_cons.mp h
      have hcons : ∀ l db, linkAll now productId (c :: l) db =
          linkAll now productId l (insertCirclFinding now productId c db) := fun _ _ => rfl
      rw [hcons, List.filter_cons]
      split_ifs with hp
      · rw [hcons]
        refine ih fun c' hc' hp' => ?_
        have hone : insertCirclFinding now productId c db = linkAll now productId [c] db := rfl
        rw [hone]
        exact isSome_findingAt_linkAll.mpr (.inl (hrest c' hc' hp'))
      · -- the id is left out, and inserting it does nothing
        rw [insertCirclFinding_of_isSome (hc (by simpa using hp))]
        exact ih hrest

end LinkAll

/-! ### The two ways -/

namespace CirclClient

variable {py : PyParse} {now : Instant} {productId : ℕ} {items : List Json}

/-- What has been stored has been read, and the database has taken its scores. -/
theorem scores_of_store_ok {n : ℕ} {db db' : System}
    (h : store py now productId items db = .ok (n, db')) :
    ∃ rows, circlRows py now items = .ok rows ∧
      ∀ r ∈ rows, (numericColumn r.cvssV2Score).isSome = true := by
  unfold store at h
  rcases hrows : circlRows py now items with e | rows
  · rw [hrows] at h
    cases h
  rw [hrows] at h
  refine ⟨rows, rfl, ?_⟩
  simp only [Except.mapError, bind, Except.bind] at h
  split at h
  · rename_i hempty
    rw [List.isEmpty_iff.mp hempty]
    exact fun r hr => absurd hr List.not_mem_nil
  split at h
  · rename_i mirrored hmirrored
    exact mapM_toMirror_iff.mp ⟨mirrored, hmirrored⟩
  · cases h

/-- **Rows whose scores the database takes are stored**, with a finding for each. -/
theorem exists_store_ok (productId : ℕ) (s : System) {rows : List CirclRow}
    (hrows : circlRows py now items = .ok rows)
    (hscores : ∀ r ∈ rows, (numericColumn r.cvssV2Score).isSome = true) :
    ∃ n s', store py now productId items s = .ok (n, s') ∧
      s'.db = linkAll now productId (rows.map fun r => String.ofList r.cveId) s.db := by
  obtain ⟨mirrored, hmirrored⟩ := mapM_toMirror_iff.mpr hscores
  unfold store
  rw [hrows]
  simp only [Except.mapError, bind, Except.bind]
  split
  · rename_i hempty
    rw [List.isEmpty_iff.mp hempty]
    exact ⟨0, s, rfl, rfl⟩
  · rw [hmirrored]
    refine ⟨rows.length, _, rfl, ?_⟩
    rw [db_storeCircl_fetched, cveIds_of_mapM_toMirror hmirrored]

/-- **What has been stored once can be stored again**, for any product and at any time: the
product gets findings of the CVEs among the items. -/
theorem store_later {n : ℕ} {db db' : System} (now' : Instant) (productId' : ℕ) (s : System)
    (h : store py now productId items db = .ok (n, db')) :
    ∃ n' s', store py now' productId' items s = .ok (n', s') ∧
      s'.db = linkAll now' productId' ((cachedIds items).filter isCveId) s.db := by
  obtain ⟨rows, hrows, hscores⟩ := scores_of_store_ok h
  obtain ⟨rows', hrows', hundated, hids⟩ := circlRows_later now' hrows
  have hscores' : ∀ r ∈ rows', (numericColumn r.cvssV2Score).isSome = true := by
    intro r' hr'
    have hmem : r'.undated ∈ rows.map CirclRow.undated := hundated ▸ List.mem_map_of_mem hr'
    obtain ⟨r, hr, heq⟩ := List.mem_map.mp hmem
    have hscore : r.cvssV2Score = r'.cvssV2Score := congrArg (fun u => u.2.2.1) heq
    exact hscore ▸ hscores r hr
  rw [← hids]
  exact exists_store_ok productId' s hrows' hscores'

variable {s s' later : CirclState} {productId' : ℕ}
  {normalizedCpe normalizedCpe' vendor product : Text}

/-- **Linking the product from the cache succeeds, and leaves the database as fetching the items
would have left it.** -/
def HitEqualsMiss (py : PyParse) (productId : ℕ) (normalizedCpe key : Text) (items : List Json)
    (s : CirclState) : Prop :=
  ∃ linked fetched n,
    (∀ pages, fetchAndStore py productId normalizedCpe pages s = (.ok 0, linked)) ∧
      fetchAndStore py productId normalizedCpe (.ok items) (s.forget key) = (.ok n, fetched) ∧
      linked.system.db = fetched.system.db

/-- What a call that finds no key does with items that can be stored. -/
theorem fetchAndStore_of_store_ok {n : ℕ} {db : System}
    (hvp : parseCpeVendorProduct normalizedCpe = some (vendor, product))
    (hmiss : s.cached (circlCacheKey vendor product) = none) (hitems : items ≠ [])
    (hstore : store py s.now productId items s.system = .ok (n, db)) :
    fetchAndStore py productId normalizedCpe (.ok items) s =
      (.ok n, { s with system := db }.setex (circlCacheKey vendor product)
        (.ids (cachedIds items))) := by
  simp only [fetchAndStore, hvp, hmiss, hstore]
  exact if_neg (by simpa using hitems)

/-- And with items that cannot. -/
theorem fetchAndStore_of_store_error {e : CirclError}
    (hvp : parseCpeVendorProduct normalizedCpe = some (vendor, product))
    (hmiss : s.cached (circlCacheKey vendor product) = none) (hitems : items ≠ [])
    (hstore : store py s.now productId items s.system = .error e) :
    fetchAndStore py productId normalizedCpe (.ok items) s = (.error e, s) := by
  simp only [fetchAndStore, hvp, hmiss, hstore]
  exact if_neg (by simpa using hitems)

/-- **What a call that has stored its items leaves**: their ids in the cache, for an hour. -/
theorem entry_of_stored {n : ℕ}
    (hvp : parseCpeVendorProduct normalizedCpe = some (vendor, product))
    (hmiss : s.cached (circlCacheKey vendor product) = none) (hitems : items ≠ [])
    (hstored : fetchAndStore py productId normalizedCpe (.ok items) s = (.ok n, s')) :
    (∃ db, store py s.now productId items s.system = .ok (n, db)) ∧
      s'.redis.entry (circlCacheKey vendor product) =
        some (.ids (cachedIds items), s.now + circlCacheTtl) := by
  cases hstore : store py s.now productId items s.system with
  | error e =>
    rw [fetchAndStore_of_store_error hvp hmiss hitems hstore] at hstored
    cases hstored
  | ok stored =>
    rw [fetchAndStore_of_store_ok hvp hmiss hitems hstore] at hstored
    cases hstored
    exact ⟨⟨_, rfl⟩, Expiring.Store.entry_set⟩

/-- **A call that finds ids of the mirror links them.** -/
theorem fetchAndStore_of_linked (py : PyParse) (productId : ℕ) {cveIds : List String}
    (hvp : parseCpeVendorProduct normalizedCpe = some (vendor, product))
    (hcached : s.cached (circlCacheKey vendor product) = some (.ids cveIds))
    (hall : ∀ id ∈ cveIds, (s.system.cves.get? id).isSome) :
    ∃ linked, (∀ pages, fetchAndStore py productId normalizedCpe pages s = (.ok 0, linked)) ∧
      linked.system.db = linkAll s.now productId cveIds s.system.db := by
  refine ⟨{ s with system := s.system.storeCircl s.now productId (.cached cveIds) }.hit
    .fetchAndStore (.ids cveIds) none, fun pages => ?_, db_storeCircl_cached hall⟩
  simp only [fetchAndStore, hvp, hcached, CirclValue.elements,
    upsertFindingsOnly_of_forall s.now productId hall]

/-- **A call that finds another id raises.** -/
theorem fetchAndStore_of_not_linked (py : PyParse) (productId : ℕ) {cveIds : List String}
    (pages : Except CirclError (List Json))
    (hvp : parseCpeVendorProduct normalizedCpe = some (vendor, product))
    (hcached : s.cached (circlCacheKey vendor product) = some (.ids cveIds))
    (hall : ¬∀ id ∈ cveIds, (s.system.cves.get? id).isSome) :
    (fetchAndStore py productId normalizedCpe pages s).1 = .error .foreignKeyViolation := by
  simp only [fetchAndStore, hvp, hcached, CirclValue.elements,
    upsertFindingsOnly_of_not_forall s.now productId hall]

/-- **When linking from the cache does what fetching does**: the items have been fetched and
stored for a product, and the entry of the cache is still there for a later product of the same
vendor and product; then it does exactly if all the ids are in the mirror, and the later product
has a finding of each that is the id of no CVE. -/
theorem hitEqualsMiss_iff {n : ℕ}
    (hvp : parseCpeVendorProduct normalizedCpe = some (vendor, product))
    (hmiss : s.cached (circlCacheKey vendor product) = none) (hitems : items ≠ [])
    (hstored : fetchAndStore py productId normalizedCpe (.ok items) s = (.ok n, s'))
    (hvp' : parseCpeVendorProduct normalizedCpe' = some (vendor, product))
    (hentry : later.redis.entry (circlCacheKey vendor product) =
      s'.redis.entry (circlCacheKey vendor product))
    (hfresh : later.now < s.now + circlCacheTtl) :
    HitEqualsMiss py productId' normalizedCpe' (circlCacheKey vendor product) items later ↔
      (∀ id ∈ cachedIds items, (later.system.cves.get? id).isSome) ∧
        ∀ id ∈ cachedIds items, isCveId id = false →
          (later.system.db.findingAt productId' id).isSome := by
  obtain ⟨⟨db, hstore⟩, hleft⟩ := entry_of_stored hvp hmiss hitems hstored
  have hcached : later.cached (circlCacheKey vendor product) = some (.ids (cachedIds items)) :=
    Expiring.Store.get?_eq_some_iff.mpr ⟨_, hentry.trans hleft, hfresh⟩
  -- fetching the items again succeeds, and brings the findings of the CVEs
  obtain ⟨n', system, hagain, hdb⟩ := store_later later.now productId' later.system hstore
  have hforget : (later.forget (circlCacheKey vendor product)).cached
      (circlCacheKey vendor product) = none := Expiring.Store.get?_del
  have hstore' : store py (later.forget (circlCacheKey vendor product)).now productId' items
      (later.forget (circlCacheKey vendor product)).system = .ok (n', system) := hagain
  obtain ⟨fetched, hfetched, hsystem⟩ : ∃ fetched, fetchAndStore py productId' normalizedCpe'
      (.ok items) (later.forget (circlCacheKey vendor product)) = (.ok n', fetched) ∧
      fetched.system = system := by
    rw [fetchAndStore_of_store_ok hvp' hforget hitems hstore']
    exact ⟨_, rfl, rfl⟩
  by_cases hall : ∀ id ∈ cachedIds items, (later.system.cves.get? id).isSome
  · -- linking brings the findings of all ids
    obtain ⟨linked, hlinked, hlinkedDb⟩ := fetchAndStore_of_linked py productId' hvp' hcached hall
    rw [and_iff_right hall, ← linkAll_filter_iff later.now, ← hdb, ← hsystem, ← hlinkedDb]
    constructor
    · rintro ⟨linked', fetched', n'', hlinked', hfetched', heq⟩
      obtain ⟨-, rfl⟩ := Prod.mk.inj ((hlinked (.ok [])).symm.trans (hlinked' (.ok [])))
      obtain ⟨-, rfl⟩ := Prod.mk.inj (hfetched.symm.trans hfetched')
      exact heq
    · exact fun heq => ⟨linked, fetched, n', hlinked, hfetched, heq⟩
  · refine iff_of_false ?_ fun h => hall h.1
    rintro ⟨linked, -, -, hlinked, -, -⟩
    have hraises := fetchAndStore_of_not_linked py productId' (.ok []) hvp' hcached hall
    rw [hlinked (.ok [])] at hraises
    cases hraises

/-! ### An advisory among the items -/

/-- Two products of one vendor and product. -/
def twoVersions : System :=
  { System.withCpe with
    db := .ofProducts (System.withCpe.db.products.insert fun n =>
      ⟨n, "nginx", some "F5", some "1.27.0", some "cpe:2.3:a:f5:nginx:1.27.0:*:*:*:*:*:*:*", 0, 0,
        0, false, none, none⟩) }

/-- The CPE of the second one. -/
def laterCpe : Text := "cpe:2.3:a:f5:nginx:1.27.0:*:*:*:*:*:*:*".toList

/-- A CVE, and an advisory that is none. -/
def withAdvisory : List Json := [bareItem "CVE-2024-0001", bareItem "GHSA-2024-0001"]

/-- What fetching items for the first one leaves. -/
def afterFetching (items : List Json) : CirclState :=
  (fetchAndStore .none 1 nginxCpe (.ok items) (.start 0 twoVersions)).2

/-- **The second product cannot be linked**: the advisory has not been stored, and its id is in the
cache. Fetching the items would have worked. -/
theorem not_hitEqualsMiss_advisory :
    (fetchAndStore .none 1 nginxCpe (.ok withAdvisory) (.start 0 twoVersions)).1 = .ok 1 ∧
      (∀ pages, (fetchAndStore .none 2 laterCpe pages (afterFetching withAdvisory)).1 =
        .error .foreignKeyViolation) ∧
      (fetchAndStore .none 2 laterCpe (.ok withAdvisory) ((afterFetching withAdvisory).forget
        (circlCacheKey "f5".toList "nginx".toList))).1 = .ok 1 ∧
      ¬HitEqualsMiss .none 2 laterCpe (circlCacheKey "f5".toList "nginx".toList) withAdvisory
        (afterFetching withAdvisory) := by
  have hraises : ∀ pages, (fetchAndStore .none 2 laterCpe pages (afterFetching withAdvisory)).1 =
      .error .foreignKeyViolation := fun _ => rfl
  refine ⟨rfl, hraises, rfl, ?_⟩
  rintro ⟨linked, -, -, hlinked, -, -⟩
  have hok := hraises (.ok [])
  rw [hlinked (.ok [])] at hok
  cases hok

/-- Without the advisory it is linked as if the CVE were fetched for it. -/
theorem hitEqualsMiss_cve :
    HitEqualsMiss .none 2 laterCpe (circlCacheKey "f5".toList "nginx".toList)
      [bareItem "CVE-2024-0001"] (afterFetching [bareItem "CVE-2024-0001"]) := by
  have hstored : fetchAndStore .none 1 nginxCpe (.ok [bareItem "CVE-2024-0001"])
      (.start 0 twoVersions) = (.ok 1, afterFetching [bareItem "CVE-2024-0001"]) := rfl
  have hfresh : (afterFetching [bareItem "CVE-2024-0001"]).now <
      (CirclState.start 0 twoVersions).now + circlCacheTtl :=
    (by decide : (0 : ℤ) < 3600000000)
  refine (hitEqualsMiss_iff rfl rfl (List.cons_ne_nil _ _) hstored rfl rfl hfresh).mpr ⟨?_, ?_⟩
  · exact List.forall_mem_singleton.mpr rfl
  · exact List.forall_mem_singleton.mpr fun h => absurd h (by decide)

end CirclClient

end CveManagement
