import CveManagement.Sync.System
import Mathlib

/-!
# What the CIRCL fallback writes

`CirclClient.fetch_and_store` of `app/query/circl_client.py` on the database: it inserts the
CVEs that CIRCL returned and the mirror lacks, and a finding of the product for each of them;
where the CVEs are in its cache it inserts the findings only. The product is looked up for
its CPE and nothing else. The fallback is asked when a query finds nothing under its filters,
which can be in any state of the findings.
-/

namespace CveManagement

/-- What `fetch_and_store` works with: the ids in the cache, or the rows that `_store` makes
of the pages, as the columns of `cves` hold them. -/
inductive CirclAnswer
  | cached (cveIds : List String)
  | fetched (rows : List MirrorRow)

namespace System

/-- The `executemany` of `_UPSERT_FINDING_SQL`; a CVE outside the mirror violates the foreign
key, and then none is inserted. -/
def insertCirclFindings (s : System) (now : Instant) (productId : ℕ) (cveIds : List String) :
    System :=
  if cveIds.all fun cveId => (s.cves.get? cveId).isSome then
    { s with
      db := cveIds.foldl (fun db cveId => CveManagement.insertCirclFinding now productId cveId db)
        s.db }
  else s

/-- What `fetch_and_store` does to the database. -/
def storeCircl (s : System) (now : Instant) (productId : ℕ) : CirclAnswer → System
  | .cached cveIds => s.insertCirclFindings now productId cveIds
  | .fetched rows =>
    -- the rows that are new to the mirror, and then a finding of every row
    { s with cves := rows.foldl Mirror.insertMissing s.cves }.insertCirclFindings now productId
      (rows.map MirrorRow.cveId)

/-- `get_product_cpe`, and the check of `fetch_and_store` that it names a vendor and a
product. -/
def circlAsks (s : System) (productId : ℕ) : Bool :=
  (s.db.products.get? productId).any fun p => p.normalizedCpe.any fun cpe =>
    (parseCpeVendorProduct cpe.toList).isSome

end System

end CveManagement
