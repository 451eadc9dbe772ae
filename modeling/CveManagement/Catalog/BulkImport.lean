import CveManagement.Catalog.Products
import Mathlib

/-!
# The bulk import

`bulk_import` against the creation of its products one at a time. Its `INSERT` names the
conflict target `(name, vendor, version)` without a predicate, and after migration 0011 no
unique index of all rows is on these columns: the statement raises for every product that gets
that far (`CveManagement.insertOrIgnore_eq_error`), each product ends under `errors`, and
nothing is imported.
-/

namespace CveManagement

/-! ### The import -/

/-- `BulkProductCreate`. -/
structure BulkProductCreate where
  products : List ProductCreate
  length_le : products.length ≤ 500

/-- The response; an error is reported with the product and its reason. -/
structure BulkResult where
  created : List Product
  skipped : List ProductCreate
  errors : List (ProductCreate × String)

/-- `not p.name or not p.version`. -/
def ProductCreate.incomplete (p : ProductCreate) : Bool := p.name == "" || p.version == ""

/-- The index that `ON CONFLICT (name, vendor, version)` infers. -/
def conflictArbiter : Option UniqueIndex :=
  -- an index of the live rows is inferred only by a clause with its predicate
  productIndexes.find? fun i => !i.liveOnly && i.columns == ["name", "vendor", "version"]

/-- `INSERT … ON CONFLICT (name, vendor, version) DO NOTHING RETURNING *`; `none` is a
conflict. -/
def System.insertOrIgnore (s : System) (now : Instant) (v : ProductValues) :
    Except String (Option System) :=
  match conflictArbiter with
  | none =>
    .error "there is no unique or exclusion constraint matching the ON CONFLICT specification"
  | some index =>
    if s.db.products.rows.any (index.collides v) then .ok none
    else if s.refuses v then .error "duplicate key value violates unique constraint"
    else .ok (some (s.addProduct now v))

section Import

variable (py : PyText) (now : Instant)

/-- The body of the loop of `bulk_import`. -/
def importOne (acc : BulkResult × System) (p : ProductCreate) : BulkResult × System :=
  if p.incomplete then
    ({ acc.1 with errors := acc.1.errors ++ [(p, "missing name or version")] }, acc.2)
  else match acc.2.insertOrIgnore now (p.values py) with
    -- there is no transaction around the loop, so it goes on after an exception
    | .error e => ({ acc.1 with errors := acc.1.errors ++ [(p, e)] }, acc.2)
    | .ok none => ({ acc.1 with skipped := acc.1.skipped ++ [p] }, acc.2)
    | .ok (some s) =>
      ({ acc.1 with created := acc.1.created ++ [(p.values py).row now acc.2.db.products.seq] },
        s.enqueueSync now acc.2.db.products.seq 50)

/-- **`bulk_import`**, for a user who may write; the audit row of the batch is left out. -/
def bulkImport (body : BulkProductCreate) (s : System) : BulkResult × System :=
  body.products.foldl (importOne py now) (⟨[], [], []⟩, s)

/-! ### One creation at a time -/

/-- A product of the list, created alone: skipped if it is incomplete, or exists. The audit
row of the creation is left out. -/
def createOne (s : System) (p : ProductCreate) : System :=
  if p.incomplete then s else (s.enterProduct now 10 (p.values py)).getD s

/-- All products of the list, created one after the other. -/
def createEach (products : List ProductCreate) (s : System) : System :=
  products.foldl (createOne py now) s

end Import

namespace System

variable (s : System)

/-- The products that are not deleted. -/
def liveProducts : List Product := s.db.products.rows.filter fun p => !p.isDeleted

/-- A job for the product waits or runs. -/
def syncing (productId : ℕ) : Bool :=
  s.syncJobs.rows.any fun j => j.targetId == productId && j.active

end System

/-- **The import refines the creations.** -/
structure RefinesCreations (py : PyText) (now : Instant) (body : BulkProductCreate) (s : System) :
    Prop where
  /-- The same products are live. -/
  live : ∀ p, p ∈ (bulkImport py now body s).2.liveProducts ↔
    p ∈ (createEach py now body.products s).liveProducts
  /-- The same products have an active job. -/
  jobs : ∀ t, (bulkImport py now body s).2.syncing t =
    (createEach py now body.products s).syncing t
  /-- The lists partition the input; the products created are those of some inputs. -/
  partition : ∃ inputs : List ProductCreate,
    (bulkImport py now body s).1.created.map (fun p => (p.name, p.vendor, p.version)) =
      (inputs.map fun p => p.values py).map (fun v => (v.name, v.vendor, some v.version)) ∧
    (inputs ++ (bulkImport py now body s).1.skipped ++
      (bulkImport py now body s).1.errors.map Prod.fst).Perm body.products
  /-- Whatever is not reported as created leaves no row. -/
  errors : ∀ p ∈ (bulkImport py now body s).2.db.products.rows,
    p ∈ s.db.products.rows ∨ p ∈ (bulkImport py now body s).1.created

/-! ### What each of them does -/

section Loops

variable {py : PyText} {now : Instant} {s : System}

/-- **No index is inferred**, so the `INSERT` of the import raises. -/
theorem insertOrIgnore_eq_error (s : System) (now : Instant) (v : ProductValues) :
    ∃ e, s.insertOrIgnore now v = .error e := by
  have harbiter : conflictArbiter = none := by decide
  rw [System.insertOrIgnore, harbiter]
  exact ⟨_, rfl⟩

/-- The loop, from any point of it: every product ends under the errors. -/
theorem import_foldl (products : List ProductCreate) (acc : BulkResult × System) :
    ∃ errors : List (ProductCreate × String), errors.map Prod.fst = products ∧
      products.foldl (importOne py now) acc =
        ({ acc.1 with errors := acc.1.errors ++ errors }, acc.2) := by
  induction products generalizing acc with
  | nil => exact ⟨[], rfl, by simp⟩
  | cons p products ih =>
    -- an incomplete product is reported at once, a complete one when its statement raises
    have hone : ∃ e, importOne py now acc p =
        ({ acc.1 with errors := acc.1.errors ++ [(p, e)] }, acc.2) := by
      rw [importOne]
      split_ifs
      · exact ⟨_, rfl⟩
      · obtain ⟨e, he⟩ := insertOrIgnore_eq_error acc.2 now (p.values py)
        rw [he]
        exact ⟨e, rfl⟩
    obtain ⟨e, he⟩ := hone
    obtain ⟨errors, hmap, hfold⟩ := ih (importOne py now acc p)
    refine ⟨(p, e) :: errors, by rw [List.map_cons, hmap], ?_⟩
    rw [List.foldl_cons, hfold, he]
    simp

/-- **The import changes nothing**, and reports every product as an error. -/
theorem bulkImport_eq (body : BulkProductCreate) :
    ∃ errors : List (ProductCreate × String), errors.map Prod.fst = body.products ∧
      bulkImport py now body s = (⟨[], [], errors⟩, s) := by
  obtain ⟨errors, hmap, hfold⟩ := @import_foldl py now body.products (⟨[], [], []⟩, s)
  exact ⟨errors, hmap, by rw [bulkImport, hfold]; rfl⟩

/-- The product has nothing to add: it is incomplete, or a live row has its triple. -/
def Superfluous (py : PyText) (s : System) (p : ProductCreate) : Prop :=
  p.incomplete = true ∨ s.refuses (p.values py) = true

theorem createOne_of_superfluous {p : ProductCreate} (h : Superfluous py s p) :
    createOne py now s p = s := by
  rw [createOne]
  rcases h with hincomplete | hrefuses
  · rw [if_pos hincomplete]
  · rw [System.enterProduct, if_pos hrefuses, Option.getD_none, ite_self]

/-- A product that is not superfluous is added. -/
theorem rows_createOne {p : ProductCreate} (h : ¬Superfluous py s p) :
    (createOne py now s p).db.products.rows =
      s.db.products.rows ++ [(p.values py).row now s.db.products.seq] := by
  obtain ⟨hcomplete, htaken⟩ := not_or.mp h
  rw [createOne, if_neg hcomplete, System.enterProduct, if_neg htaken, Option.getD_some,
    System.db_enqueueSync]
  rfl

/-- A creation keeps the rows. -/
theorem mem_createOne {p : ProductCreate} {r : Product} (h : r ∈ s.db.products.rows) :
    r ∈ (createOne py now s p).db.products.rows := by
  by_cases hp : Superfluous py s p
  · rwa [createOne_of_superfluous hp]
  · rw [rows_createOne hp]
    exact List.mem_append_left _ h

theorem mem_createEach {products : List ProductCreate} {r : Product}
    (h : r ∈ s.db.products.rows) : r ∈ (createEach py now products s).db.products.rows := by
  induction products generalizing s with
  | nil => exact h
  | cons p products ih => exact ih (mem_createOne h)

theorem createEach_of_superfluous {products : List ProductCreate}
    (h : ∀ p ∈ products, Superfluous py s p) : createEach py now products s = s := by
  induction products with
  | nil => rfl
  | cons p products ih =>
    obtain ⟨hp, hrest⟩ := List.forall_mem_cons.mp h
    have hstep : createEach py now (p :: products) s =
        createEach py now products (createOne py now s p) := rfl
    rw [hstep, createOne_of_superfluous hp, ih hrest]

/-- **The creations add a live product unless all are superfluous.** -/
theorem superfluous_of_live {products : List ProductCreate}
    (h : ∀ p ∈ (createEach py now products s).liveProducts, p ∈ s.liveProducts) :
    ∀ p ∈ products, Superfluous py s p := by
  induction products with
  | nil => simp
  | cons p products ih =>
    have hstep : createEach py now (p :: products) s =
        createEach py now products (createOne py now s p) := rfl
    rw [hstep] at h
    by_cases hp : Superfluous py s p
    · rw [createOne_of_superfluous hp] at h
      exact List.forall_mem_cons.mpr ⟨hp, ih h⟩
    · -- the row of the first product that is not superfluous was not there before
      have hrow : (p.values py).row now s.db.products.seq ∈
          (createOne py now s p).db.products.rows := by
        rw [rows_createOne hp]
        exact List.mem_append_right _ (List.mem_singleton_self _)
      have hlive := h _ (List.mem_filter.mpr ⟨mem_createEach hrow, rfl⟩)
      exact absurd (s.db.products.key_lt _ (List.mem_filter.mp hlive).1) (Nat.lt_irrefl _)

end Loops

/-- **The import refines the creations exactly if these have nothing to add**: every product
of the list is incomplete, or a live row has its triple. -/
theorem refinesCreations_iff (py : PyText) (now : Instant) (body : BulkProductCreate)
    (s : System) : RefinesCreations py now body s ↔
      ∀ p ∈ body.products, p.name = "" ∨ p.version = "" ∨
        ∃ r ∈ s.db.products.rows, r.isDeleted = false ∧ r.hasTriple (p.values py) = true := by
  have hsuperfluous : ∀ p, Superfluous py s p ↔ p.name = "" ∨ p.version = "" ∨
      ∃ r ∈ s.db.products.rows, r.isDeleted = false ∧ r.hasTriple (p.values py) = true := by
    intro p
    rw [Superfluous, refuses_iff, ProductCreate.incomplete, Bool.or_eq_true, beq_iff_eq, beq_iff_eq,
      or_assoc]
  simp only [← hsuperfluous]
  obtain ⟨errors, hmap, himport⟩ := @bulkImport_eq py now s body
  constructor
  · intro h
    refine @superfluous_of_live py now s body.products fun p hp => ?_
    have := (h.live p).mpr hp
    rwa [himport] at this
  · intro h
    have hsame : createEach py now body.products s = s := createEach_of_superfluous h
    refine ⟨fun p => by rw [himport, hsame], fun t => by rw [himport, hsame], ⟨[], ?_, ?_⟩, ?_⟩
    · rw [himport]
      rfl
    · rw [himport]
      simp [hmap]
    · rw [himport]
      exact fun p hp => .inl hp

/-! ### An import that imports nothing -/

/-- A list of one product. -/
def BulkProductCreate.nginx : BulkProductCreate :=
  ⟨[⟨"nginx", "1.25.1", some "F5", none⟩], by decide⟩

/-- **A new product is refused**, where a creation would have added it. -/
theorem not_refinesCreations : ¬RefinesCreations .ascii 10 .nginx .blank := by
  intro h
  have hlive := (h.live ((⟨"nginx", "1.25.1", some "F5", none⟩ : ProductValues).row 10 1)).mpr
    List.mem_cons_self
  exact absurd hlive List.not_mem_nil

end CveManagement
