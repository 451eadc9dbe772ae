import CveManagement.Sync.System
import Mathlib

/-!
# Entering products

What `create_product` and `bulk_import` of `app/api/routers/products.py` have in common: the
values of a body, the `INSERT` and its unique constraint, and the job that is enqueued for a
new product.

The constraint is what the migrations have left of it. Migration 0001 made
`(name, vendor, version)` unique; migration 0011 dropped that constraint for a unique index on
the live rows only. A `NULL` is equal to nothing, so rows without vendor never collide.
-/

namespace CveManagement

/-! ### Values -/

/-- `ProductCreate`. -/
structure ProductCreate where
  name : String
  version : String
  vendor : Option String
  cpeKeyword : Option String

/-- The values of a new row. -/
structure ProductValues where
  name : String
  version : String
  vendor : Option String
  normalizedCpe : Option String

/-- `s.strip()`. -/
def PyText.stripped (py : PyText) (s : String) : String := String.ofList (py.strip s.toList)

/-- `s.strip() if s else None`. -/
def PyText.strippedOrNone (py : PyText) (s : Option String) : Option String :=
  (s.filter fun s => s != "").map py.stripped

/-- The arguments of the `INSERT`. -/
def ProductCreate.values (py : PyText) (body : ProductCreate) : ProductValues where
  name := py.stripped body.name
  version := py.stripped body.version
  vendor := py.strippedOrNone body.vendor
  normalizedCpe := py.strippedOrNone body.cpeKeyword

/-- The row as inserted, with the defaults of the columns that are not given. -/
def ProductValues.row (v : ProductValues) (now : Instant) (n : ℕ) : Product :=
  ⟨n, v.name, v.vendor, some v.version, v.normalizedCpe, 0, 0, now, false, none, none⟩

/-! ### Unique indexes -/

/-- A unique index of `products`: on the columns, of the live rows or of all of them. -/
structure UniqueIndex where
  name : String
  columns : List String
  liveOnly : Bool
  deriving DecidableEq

/-- The unique indexes of migration 0001. -/
def productIndexes0001 : List UniqueIndex :=
  [⟨"products_pkey", ["id"], false⟩,
    ⟨"products_name_vendor_version_key", ["name", "vendor", "version"], false⟩]

/-- Migration 0011 on the unique indexes. -/
def upgrade0011 (indexes : List UniqueIndex) : List UniqueIndex :=
  (indexes.filter fun i => i.name != "products_name_vendor_version_key") ++
    [⟨"uq_products_live_name_vendor_version", ["name", "vendor", "version"], true⟩]

/-- The unique indexes of the migrated schema. -/
def productIndexes : List UniqueIndex := upgrade0011 productIndexes0001

/-- The row has the name, the vendor and the version of the values, none of them `NULL`. -/
def Product.hasTriple (v : ProductValues) (p : Product) : Bool :=
  p.name == v.name && v.vendor.isSome && p.vendor == v.vendor && p.version == some v.version

/-- The row keeps the index from taking the values; the key is always new. -/
def UniqueIndex.collides (i : UniqueIndex) (v : ProductValues) (p : Product) : Bool :=
  i.columns == ["name", "vendor", "version"] && !(i.liveOnly && p.isDeleted) && p.hasTriple v

/-! ### Insertion -/

namespace System

variable (s : System)

/-- A unique index of the migrated schema refuses the values. -/
def refuses (v : ProductValues) : Bool :=
  productIndexes.any fun i => s.db.products.rows.any (i.collides v)

/-- The row of a product is added, under the next id. -/
def addProduct (now : Instant) (v : ProductValues) : System :=
  { s with
    db := { s.db with products := s.db.products.insert (v.row now) }
    syncColumns := Function.update s.syncColumns s.db.products.seq ⟨.pending, none⟩ }

/-- `INSERT INTO products …` and `_enqueue_sync`; `none` is a `UniqueViolationError`. -/
def enterProduct (now : Instant) (priority : ℕ) (v : ProductValues) : Option System :=
  if s.refuses v then none
  else some ((s.addProduct now v).enqueueSync now s.db.products.seq priority)

end System

/-- **The migrated schema refuses values exactly if a live row has their triple.** -/
theorem refuses_iff {s : System} {v : ProductValues} :
    s.refuses v = true ↔ ∃ p ∈ s.db.products.rows, p.isDeleted = false ∧ p.hasTriple v = true := by
  have hindexes : productIndexes = [⟨"products_pkey", ["id"], false⟩,
      ⟨"uq_products_live_name_vendor_version", ["name", "vendor", "version"], true⟩] := by
    decide
  simp [System.refuses, hindexes, UniqueIndex.collides]

/-- The database without products. -/
def System.blank : System where
  db := .ofProducts .empty
  cves := ⟨[], List.nodup_nil⟩
  syncColumns _ := ⟨.pending, none⟩
  syncJobs := .empty

end CveManagement
