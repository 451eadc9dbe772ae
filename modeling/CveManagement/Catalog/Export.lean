import CveManagement.Catalog.CvePages

/-!
# What is exported

`export_csv` takes the filters that the list has been given, and builds its conditions for itself.
It knows one value of the filter of KEV where the list knows two, in any case of their letters; it
has no minimal score without a product; and with one it goes by the stored score alone, where the
list computes the score of a finding that has none. `CveManagement.exportMatchesList_iff` says when
the rows are the same all the same.
-/

namespace CveManagement

/-! ### The selection -/

/-- **The filters that the page of the list hands to both**: a product is handed over if it is
chosen, and no product has the id zero. -/
structure UiFilters extends CveFilters where
  productId_ne_zero : productId ≠ some 0

namespace CveContext

variable (ctx : CveContext)

/-- `kev == "true"`, of a row. -/
def exportsKev (kev : Option String) (c : MirrorRow) : Bool := kev != some "true" || c.isKev

/-- `f.priority_score >= …`, which is a condition only with a product. -/
def exportsPriority (filters : CveFilters) (e : CveEntry) : Bool :=
  match filters.minPriority, filters.productId.filter (· ≠ 0) with
  | some m, some _ => (e.2.bind Finding.priorityScore).any fun x => decide ((m : ℚ) ≤ x)
  | _, _ => true

/-- The conditions of `export_csv`. -/
def exports (filters : CveFilters) (e : CveEntry) : Bool :=
  ctx.admitsShared filters e.1 && exportsKev filters.kev e.1 && exportsPriority filters e

/-- **The rows of the export**, before they are cut to ten thousand: `SELECT DISTINCT`, of rows
that are about different CVEs, in the order of their ids. -/
def exported (order : RowOrder CveEntry) (filters : CveFilters) (s : System) : List CveEntry :=
  Select.orderBy (fun a b => ctx.collation.cmp a.1.cveId b.1.cveId)
    (order.arrange ((cveEntries (filters.productId.filter (· ≠ 0)) s).filter
      (ctx.exports filters)))

end CveContext

/-- The rows that pass the conditions which both have. -/
def CveContext.candidates (ctx : CveContext) (f : UiFilters) (s : System) : List CveEntry :=
  (cveEntries f.productId s).filter fun e => ctx.admitsShared f.toCveFilters e.1

section Export

variable {ctx : CveContext} {order : RowOrder CveEntry} {f : UiFilters} {q : CveListQuery}
  {s : System} {e : CveEntry}

/-- The list can be asked, and selects it. -/
def CveContext.Lists (ctx : CveContext) (f : UiFilters) (q : CveListQuery) (e : CveEntry) : Prop :=
  q.Answerable ∧ ctx.listsKev f.kev e.1 = true ∧ ctx.listsPriority f.minPriority e = true

end Export

end CveManagement
