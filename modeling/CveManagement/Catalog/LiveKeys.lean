import CveManagement.Catalog.BulkImport
import CveManagement.Governance.Audit
import CveManagement.Library.Trajectory
import Mathlib

/-!
# The keys of the live products

The unique index of the live products is to keep two of them from having the same name, vendor
and version. In it a `NULL` differs from every other one, so that it never refuses a product
without vendor: what a creation has done when it comes to its audit row keeps the keys distinct
exactly if it does not repeat such a product (`CveManagement.liveKeysDistinct_createProduct_iff`).

The keys stay distinct all the same, in every run (`CveManagement.throughout_liveKeysDistinct`):
the audit row of a creation cannot be written, and takes the new product with it, and the
`ON CONFLICT` of an import has no index to go by.
-/

namespace CveManagement

/-! ### Requests -/

section Requests

variable (py : PyText) (mask : PyMask)

/-- The requests that create and delete products. -/
inductive CatalogRequest
  | createProduct (body : ProductCreate) (user : AuthUser)
  | bulkImport (body : BulkProductCreate) (user : AuthUser)
  | deleteProduct (productId : ℕ) (user : AuthUser) (order : RowOrder Finding)

/-- A request at a point in time. -/
structure CatalogEvent where
  now : Instant
  request : CatalogRequest

/-- The database after a request, unless the request fails. A creation and a deletion commit with
their audit rows; that of an import is written behind it, and is left out. -/
def serveCatalog (s : System) : CatalogEvent → Except RequestFailure System
  | ⟨now, .createProduct body user⟩ => commit py mask now user s (.createProduct body)
  | ⟨now, .bulkImport body user⟩ =>
    if !user.mayWrite then .error (.response (forbidden user)) else .ok (bulkImport py now body s).2
  | ⟨now, .deleteProduct productId user order⟩ =>
    commit py mask now user s (.deleteProduct productId order)

/-- **One request**: a failing one leaves the database as it was. -/
def catalogStep (s : System) (e : CatalogEvent) : System :=
  match serveCatalog py mask s e with
  | .ok s' => s'
  | .error _ => s

/-! ### Keys -/

/-- The name, the vendor and the version of a product, trimmed. -/
def Product.trimmedKey (p : Product) : String × Option String × Option String :=
  (py.stripped p.name, p.vendor.map py.stripped, p.version.map py.stripped)

/-- **No two live products have the same key**; absent vendors are the same. -/
def LiveKeysDistinct (s : System) : Prop :=
  ∀ p ∈ s.liveProducts, ∀ q ∈ s.liveProducts, p.trimmedKey py = q.trimmedKey py → p = q

/-- **The body repeats a product without vendor**: it has none, and a live product without vendor
has its name and version. -/
def Repeats (s : System) (body : ProductCreate) : Prop :=
  (body.values py).vendor = none ∧ ∃ p ∈ s.liveProducts, p.vendor = none ∧
    p.name = (body.values py).name ∧ p.version = some (body.values py).version

end Requests

/-! ### What is stored is trimmed -/

section Trimmed

variable {py : PyText} {s : System}

@[simp] theorem PyText.stripped_stripped (t : String) :
    py.stripped (py.stripped t) = py.stripped t := by
  rw [stripped, stripped, String.toList_ofList, py.strip_strip]

/-- The values of a body are trimmed. -/
theorem ProductCreate.stripped_values (py : PyText) (body : ProductCreate) :
    py.stripped (body.values py).name = (body.values py).name ∧
      (body.values py).vendor.map py.stripped = (body.values py).vendor ∧
      py.stripped (body.values py).version = (body.values py).version := by
  refine ⟨PyText.stripped_stripped _, ?_, PyText.stripped_stripped _⟩
  simp [values, PyText.strippedOrNone, Function.comp_def]

/-- The rows of the table are trimmed. -/
def Trimmed (py : PyText) (s : System) : Prop :=
  ∀ p ∈ s.db.products.rows, p.trimmedKey py = (p.name, p.vendor, p.version)

/-- The key of a new row. -/
theorem trimmedKey_row (body : ProductCreate) (now : Instant) (n : ℕ) :
    ((body.values py).row now n).trimmedKey py =
      ((body.values py).name, (body.values py).vendor, some (body.values py).version) := by
  obtain ⟨hname, hvendor, hversion⟩ := body.stripped_values py
  simp [Product.trimmedKey, ProductValues.row, hname, hvendor, hversion]

end Trimmed

/-! ### What the index leaves open -/

section Insertion

variable {py : PyText} {s s' : System} {now : Instant}

theorem mem_liveProducts {p : Product} :
    p ∈ s.liveProducts ↔ p ∈ s.db.products.rows ∧ p.isDeleted = false := by
  rw [System.liveProducts, List.mem_filter, Bool.not_eq_true']

/-- The key of a trimmed row is that of the values if it has their triple, or neither has a
vendor. -/
theorem trimmedKey_eq_iff {p : Product} {v : ProductValues}
    (htrim : p.trimmedKey py = (p.name, p.vendor, p.version)) :
    p.trimmedKey py = (v.name, v.vendor, some v.version) ↔ p.hasTriple v = true ∨
      v.vendor = none ∧ p.vendor = none ∧ p.name = v.name ∧ p.version = some v.version := by
  rw [htrim, Product.hasTriple, Prod.mk.injEq, Prod.mk.injEq]
  cases hvendor : v.vendor with
  | none => simp [and_left_comm]
  | some vendor => simp [and_assoc]

/-- A new row keeps the keys distinct if no live row has its key. -/
theorem liveKeysDistinct_append {row : Product} {s' : System}
    (hrows : s'.db.products.rows = s.db.products.rows ++ [row]) (hlive : row.isDeleted = false)
    (hnew : row ∉ s.db.products.rows) (hdistinct : LiveKeysDistinct py s) :
    LiveKeysDistinct py s' ↔ ∀ p ∈ s.liveProducts, p.trimmedKey py ≠ row.trimmedKey py := by
  have hmem : ∀ p, p ∈ s'.liveProducts ↔ p ∈ s.liveProducts ∨ p = row := by
    intro p
    rw [mem_liveProducts, mem_liveProducts, hrows, List.mem_append, List.mem_singleton,
      or_and_right]
    refine or_congr_right (and_iff_left_of_imp ?_)
    rintro rfl
    exact hlive
  constructor
  · intro h p hp hkey
    have hsame := h p ((hmem p).mpr (.inl hp)) row ((hmem row).mpr (.inr rfl)) hkey
    rw [hsame, mem_liveProducts] at hp
    exact hnew hp.1
  · intro h p hp q hq hkey
    rcases (hmem p).mp hp with hp | rfl <;> rcases (hmem q).mp hq with hq | rfl
    · exact hdistinct p hp q hq hkey
    · exact absurd hkey (h p hp)
    · exact absurd hkey.symm (h q hq)
    · rfl

/-- **A creation that has come to its audit row has kept the keys distinct exactly if it does not
repeat a product without vendor.** -/
theorem liveKeysDistinct_createProduct_iff {body : ProductCreate} {user : AuthUser} {diff : PyVal}
    (h : createProduct py now body user s = .ok (diff, s')) (htrim : Trimmed py s)
    (hdistinct : LiveKeysDistinct py s) : LiveKeysDistinct py s' ↔ ¬Repeats py s body := by
  obtain ⟨-, hrefuses⟩ := createProduct_eq_ok.mp ⟨diff, s', h⟩
  have hrows : s'.db.products.rows =
      s.db.products.rows ++ [(body.values py).row now s.db.products.seq] := by
    have hadded := (s.addProduct now (body.values py)).db_enqueueSync s.db.products.seq 10 now
    unfold createProduct at h
    split_ifs at h
    rw [System.enterProduct, hrefuses] at h
    obtain ⟨-, rfl⟩ := Prod.mk.inj (Except.ok.inj h)
    exact congrArg (fun db => db.products.rows) hadded
  have hnew : (body.values py).row now s.db.products.seq ∉ s.db.products.rows :=
    fun hmem => absurd (s.db.products.key_lt _ hmem) (Nat.lt_irrefl _)
  have hkey : ∀ p ∈ s.liveProducts,
      p.trimmedKey py = ((body.values py).name, (body.values py).vendor,
        some (body.values py).version) ↔
      (body.values py).vendor = none ∧ p.vendor = none ∧ p.name = (body.values py).name ∧
        p.version = some (body.values py).version := by
    intro p hp
    obtain ⟨hmem, hlive⟩ := mem_liveProducts.mp hp
    rw [trimmedKey_eq_iff (htrim p hmem)]
    refine or_iff_right fun htriple => ?_
    rw [refuses_iff.mpr ⟨p, hmem, hlive, htriple⟩] at hrefuses
    cases hrefuses
  rw [liveKeysDistinct_append hrows rfl hnew hdistinct, trimmedKey_row]
  constructor
  · rintro hfree ⟨hvendor, p, hp, hsame⟩
    exact hfree p hp ((hkey p hp).mpr ⟨hvendor, hsame⟩)
  · intro hnone p hp heq
    obtain ⟨hvendor, hsame⟩ := (hkey p hp).mp heq
    exact hnone ⟨hvendor, p, hp, hsame⟩

end Insertion

/-! ### What each request does to the products -/

section Steps

variable {py : PyText} {mask : PyMask} {s : System} {now : Instant}

theorem products_closeHistory (user : AuthUser) (rows : List Finding) (db : Db) :
    (closeHistory now user rows db).products = db.products := by
  rw [closeHistory]
  induction rows generalizing db with
  | nil => rfl
  | cons f rows ih =>
    rw [List.foldl_cons, ih]
    rfl

/-- **A creation is rolled back**, if it gets to its audit row at all. -/
theorem catalogStep_createProduct (body : ProductCreate) (user : AuthUser) :
    catalogStep py mask s ⟨now, .createProduct body user⟩ = s := by
  rw [catalogStep, serveCatalog]
  cases hcommit : commit py mask now user s (.createProduct body) with
  | error e => rfl
  | ok s' => exact absurd ⟨s', hcommit⟩ not_commit_createProduct

/-- An import adds no product. -/
theorem catalogStep_bulkImport (body : BulkProductCreate) (user : AuthUser) :
    (catalogStep py mask s ⟨now, .bulkImport body user⟩).db.products.rows =
      s.db.products.rows := by
  obtain ⟨errors, -, himport⟩ := @bulkImport_eq py now s body
  unfold catalogStep serveCatalog
  dsimp only
  split_ifs
  · rfl
  · rw [himport]

/-- A deletion fails, or flags the product. -/
theorem catalogStep_deleteProduct (productId : ℕ) (user : AuthUser) (order : RowOrder Finding) :
    catalogStep py mask s ⟨now, .deleteProduct productId user order⟩ = s ∨
      (catalogStep py mask s ⟨now, .deleteProduct productId user order⟩).db.products.rows =
        s.db.products.rows.map fun p =>
          if p.id == productId then (Product.deletion user now).set p else p := by
  rw [catalogStep, serveCatalog]
  cases hcommit : commit py mask now user s (.deleteProduct productId order) with
  | error e => exact .inl rfl
  | ok s' =>
    refine .inr ?_
    obtain ⟨diff, hattempt⟩ := attempt_of_commit hcommit
    rw [attempt] at hattempt
    split at hattempt
    · rename_i hdelete
      obtain ⟨-, rfl⟩ := Prod.mk.inj (Except.ok.inj hattempt)
      unfold deleteProduct at hdelete
      split at hdelete
      · cases hdelete
      split at hdelete
      · cases hdelete
      split at hdelete
      · cases hdelete
      · obtain ⟨-, rfl⟩ := Prod.mk.inj (Except.ok.inj hdelete)
        exact congrArg Table.rows (products_closeHistory user _ _)
    · cases hattempt
    · cases hattempt

/-- **What is live after a request was live before.** -/
theorem mem_liveProducts_of_catalogStep {e : CatalogEvent} {p : Product}
    (hp : p ∈ (catalogStep py mask s e).liveProducts) : p ∈ s.liveProducts := by
  obtain ⟨now, request⟩ := e
  rw [mem_liveProducts] at hp ⊢
  cases request with
  | createProduct body user => rwa [catalogStep_createProduct] at hp
  | bulkImport body user => rwa [catalogStep_bulkImport] at hp
  | deleteProduct productId user order =>
    rcases @catalogStep_deleteProduct py mask s now productId user order with hsame | hrows
    · rwa [hsame] at hp
    · rw [hrows] at hp
      obtain ⟨hp, hlive⟩ := hp
      obtain ⟨p, hmem, rfl⟩ := List.mem_map.mp hp
      split_ifs at hlive ⊢ with hid
      · cases hlive
      · exact ⟨hmem, hlive⟩

end Steps

/-! ### Runs -/

/-- **The keys of the live products stay distinct**, in every run of creations, imports and
deletions. -/
theorem throughout_liveKeysDistinct (py : PyText) (mask : PyMask) {s : System}
    (h : LiveKeysDistinct py s) (l : List CatalogEvent) :
    Trajectory.Throughout (catalogStep py mask) (LiveKeysDistinct py) s l :=
  Trajectory.throughout_of_step (fun _ _ hdistinct p hp q hq =>
    hdistinct p (mem_liveProducts_of_catalogStep hp) q (mem_liveProducts_of_catalogStep hq)) h l

/-- A product, entered without its vendor. -/
def ProductCreate.nginx : ProductCreate := ⟨"nginx", "1.25.1", none, none⟩

/-- An inventory with the product in it, and with another version that has a vendor. -/
def System.withNginx : System :=
  (System.blank.addProduct 10 (ProductCreate.nginx.values .ascii)).addProduct 10
    ((ProductCreate.mk "nginx" "1.26.0" (some "F5") none).values .ascii)

/-- The product is created again, the other one is deleted and imported again. -/
theorem throughout_liveKeysDistinct_nginx :
    Trajectory.Throughout (catalogStep .ascii .ascii) (LiveKeysDistinct .ascii) .withNginx
      [⟨20, .createProduct .nginx .alice⟩, ⟨30, .deleteProduct 2 .alice .insertion⟩,
        ⟨40, .bulkImport ⟨[⟨"nginx", "1.26.0", some "F5", none⟩], by decide⟩ .alice⟩] := by
  have hdistinct : LiveKeysDistinct .ascii .withNginx := by
    have hlive : System.withNginx.liveProducts = [(ProductCreate.nginx.values .ascii).row 10 1,
        ((ProductCreate.mk "nginx" "1.26.0" (some "F5") none).values .ascii).row 10 2] := rfl
    have hne : ((ProductCreate.nginx.values .ascii).row 10 1).trimmedKey .ascii ≠
        (((ProductCreate.mk "nginx" "1.26.0" (some "F5") none).values .ascii).row 10
          2).trimmedKey .ascii := by
      decide +kernel
    rw [LiveKeysDistinct, hlive]
    intro p hp q hq hkey
    rcases List.mem_pair.mp hp with rfl | rfl <;> rcases List.mem_pair.mp hq with rfl | rfl
    · rfl
    · exact absurd hkey hne
    · exact absurd hkey.symm hne
    · rfl
  exact throughout_liveKeysDistinct .ascii .ascii hdistinct _

end CveManagement
