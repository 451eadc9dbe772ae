import CveManagement.Catalog.Export
import CveManagement.Governance.Audit
import CveManagement.Library.Csv
import Mathlib

/-!
# The file of the export

`_escape_csv` of `app/api/routers/cves.py` writes a cell: an apostrophe before what a spreadsheet
would take for a formula, quotes doubled, and quotes around a text with a comma, a quote or a line
feed. A carriage return is not among them, and outside quotes a reader ends the record there. The
rows are read back exactly if no cell has one and nothing else to be quoted for
(`CveManagement.csvRoundTrips_iff`), apart from rows that are no record at all.
-/

namespace CveManagement

/-! ### The cells -/

/-- `("=", "+", "-", "@", "\t", "\r")`. -/
def formulaStarts : List Char := ['=', '+', '-', '@', '\t', '\r']

/-- `(",", '"', "\n")`. -/
def quotedFor : List Char := [',', '"', '\n']

/-- The apostrophe. -/
def apostrophe : Char := Char.ofNat 39

/-- A text that does not begin a formula. -/
def guardedCell (s : Text) : Text :=
  if s.head?.any (· ∈ formulaStarts) then apostrophe :: s else s

/-- **`_escape_csv`**, of a text. -/
def escapeCsv (v : Text) : Text :=
  let s := Csv.doubled (guardedCell v)
  if s.any (· ∈ quotedFor) then '"' :: (s ++ ['"']) else s

/-- And of a value that may be missing: `None` is written as nothing. -/
def cellOf (escape : Text → Text) (v : Option Text) : Text := (v.map escape).getD []

/-- Rows of cells, as the lines of a file. -/
def csvText (rows : List (List Text)) : Text := Csv.document (rows.map (List.map escapeCsv))

/-! ### The file -/

/-- The texts of numbers. -/
structure ExportFormat where
  /-- `str` of a number of the database. -/
  decimal : ℚ → Text
  /-- A number in percent, with four digits. -/
  percent4 : ℚ → Text
  percent4_plain : ∀ x, ∀ c ∈ percent4 x, c ∉ Csv.special
  /-- And with two. -/
  percent2 : ℚ → Text
  percent2_plain : ∀ x, ∀ c ∈ percent2 x, c ∉ Csv.special

/-- `hdrs`. -/
def exportHeader : List Text :=
  ["CVE ID", "Severity", "CVSS v3", "CVSS v2", "EPSS %", "EPSS Pct", "KEV", "KEV Date", "Published",
    "Last Modified", "Description"].map String.toList

namespace CveContext

variable (ctx : CveContext) (format : ExportFormat)

/-- The texts that are written for a CVE, where `escape` writes those that are escaped. -/
def exportCells (escape : Text → Text) (e : CveEntry) : List Text :=
  let columns := ctx.columns e.1.cveId
  [escape e.1.cveId.toList, cellOf escape (e.1.severity.map fun s => s.text.toList),
    cellOf escape (e.1.cvssV3Score.map format.decimal),
    cellOf escape (e.1.cvssV2Score.map format.decimal),
    (e.1.epssScore.map format.percent4).getD [],
    (columns.epssPercentile.map format.percent2).getD [],
    if e.1.isKev then "YES".toList else "NO".toList,
    cellOf escape (columns.kevAddedDate.map fun d => (Date.isoformat d).toList),
    escape (Date.isoformat e.1.publishedAt.date).toList,
    escape (Date.isoformat columns.lastModifiedAt.date).toList,
    cellOf escape ((descriptionOf ctx.jsonbOut e.1.rawPayload).map String.toList)]

/-- **The content that `export_csv` returns.** -/
def exportCsv (order : RowOrder CveEntry) (filters : CveFilters) (s : System) : Text :=
  '\uFEFF' :: Csv.document
    (exportHeader :: ((ctx.exported order filters s).take 10000).map
      (ctx.exportCells format escapeCsv))

end CveContext

/-! ### Reading it back -/

/-- A cell that is read is the one that was written, up to an apostrophe. -/
def SameCell (read cell : Text) : Prop := read = cell ∨ read = apostrophe :: cell

/-- **The rows are read back**, and no cell begins a formula. -/
def CsvRoundTrips (rows : List (List Text)) : Prop :=
  ∃ records, Csv.read (csvText rows) = some records ∧
    List.Forall₂ (List.Forall₂ SameCell) records rows ∧
    ∀ record ∈ records, ∀ cell ∈ record, ∀ c ∈ cell.head?, c ∉ formulaStarts

/-- A cell without a carriage return, or with something else for which it is quoted. -/
def ReturnsQuoted (cell : Text) : Prop := '\r' ∈ cell → ∃ c ∈ cell, c ∈ quotedFor

/-- **The rows that can be read back.** -/
structure CsvReadable (rows : List (List Text)) : Prop where
  returns : ∀ row ∈ rows, ∀ cell ∈ row, ReturnsQuoted cell
  cells : ∀ row ∈ rows, row ≠ []
  /-- The last line is not blank. -/
  last : rows.getLast? ≠ some [[]]

section Cells

variable {cell : Text}

/-- An apostrophe is nothing to be quoted for. -/
theorem mem_guardedCell {c : Char} (hc : c ≠ apostrophe) : c ∈ guardedCell cell ↔ c ∈ cell := by
  rw [guardedCell]
  split_ifs
  · rw [List.mem_cons, or_iff_right hc]
  · rfl

theorem apostrophe_not_mem_special : apostrophe ∉ Csv.special := by decide

/-- The carriage return is the special character that is missing. -/
theorem mem_special_iff {c : Char} : c ∈ Csv.special ↔ c ∈ quotedFor ∨ c = '\r' := by
  simp only [Csv.special, quotedFor, List.mem_cons, List.not_mem_nil, or_false, or_assoc]

/-- The special characters of a cell are those of its text. -/
theorem mem_of_mem_guardedCell {c : Char} (hc : c ∈ guardedCell cell)
    (hspecial : c ∈ Csv.special) : c ∈ cell :=
  (mem_guardedCell (ne_of_mem_of_not_mem hspecial apostrophe_not_mem_special)).mp hc

/-- **A cell is written** as it is or between quotes, with its apostrophe. -/
theorem escapeCsv_eq : escapeCsv cell =
    if ∃ c ∈ cell, c ∈ quotedFor then Csv.quoted (guardedCell cell) else guardedCell cell := by
  have hany : ((Csv.doubled (guardedCell cell)).any (· ∈ quotedFor)) = true ↔
      ∃ c ∈ cell, c ∈ quotedFor := by
    simp only [List.any_eq_true, decide_eq_true_eq, Csv.mem_doubled]
    exact exists_congr fun c => and_congr_left fun hc =>
      mem_guardedCell (ne_of_mem_of_not_mem (mem_special_iff.mpr (.inl hc))
        apostrophe_not_mem_special)
  unfold escapeCsv
  by_cases h : ∃ c ∈ cell, c ∈ quotedFor
  · rw [if_pos (hany.mpr h), if_pos h, Csv.quoted]
  · rw [if_neg fun hdoubled => h (hany.mp hdoubled), if_neg h]
    exact Csv.doubled_eq_self fun hquote =>
      h ⟨'"', mem_of_mem_guardedCell hquote (by decide), by decide⟩

/-- **A cell whose carriage returns are between quotes** is written as a field is. -/
theorem writes_escapeCsv (h : ReturnsQuoted cell) :
    Csv.Writes (guardedCell cell) (escapeCsv cell) := by
  rw [escapeCsv_eq]
  split_ifs with hquoted
  · exact .quoted
  · refine .plain fun c hc hspecial => ?_
    have hcell := mem_of_mem_guardedCell hc hspecial
    rcases mem_special_iff.mp hspecial with hfor | rfl
    · exact hquoted ⟨c, hcell, hfor⟩
    · exact hquoted (h hcell)

/-- What a reader keeps of a cell. -/
def keptCell (cell : Text) : Text :=
  if ∃ c ∈ cell, c ∈ quotedFor then guardedCell cell else (guardedCell cell).filter (· ≠ '\r')

theorem leaves_escapeCsv (cell : Text) : Csv.Reader.Leaves (escapeCsv cell) (keptCell cell) := by
  rw [escapeCsv_eq, keptCell]
  split_ifs with hquoted
  · exact Csv.Reader.leaves_quoted _
  · refine Csv.Reader.leaves_bare fun c hc hspecial => ?_
    exact (mem_special_iff.mp hspecial).resolve_left fun hfor =>
      hquoted ⟨c, mem_of_mem_guardedCell hc hspecial, hfor⟩

theorem count_guardedCell (cell : Text) : (guardedCell cell).count '\r' = cell.count '\r' := by
  rw [guardedCell]
  split_ifs
  · exact List.count_cons_of_ne (by decide)
  · rfl

theorem count_keptCell_le (cell : Text) : (keptCell cell).count '\r' ≤ cell.count '\r' := by
  rw [← count_guardedCell cell, keptCell]
  split_ifs
  · exact le_rfl
  · exact List.filter_sublist.count_le _

/-- **A lone carriage return is lost.** -/
theorem count_keptCell_lt (h : ¬ReturnsQuoted cell) :
    (keptCell cell).count '\r' < cell.count '\r' := by
  obtain ⟨hmem, hquoted⟩ := Classical.not_imp.mp h
  have hzero : (keptCell cell).count '\r' = 0 := by
    rw [keptCell, if_neg hquoted, List.count_eq_zero]
    simp
  rw [hzero]
  exact List.count_pos_iff.mpr hmem

/-- A guarded cell begins no formula. -/
theorem head_guardedCell {c : Char} (h : c ∈ (guardedCell cell).head?) : c ∉ formulaStarts := by
  rw [guardedCell] at h
  split_ifs at h with hstarts
  · obtain rfl : apostrophe = c := Option.some.inj h
    decide
  · intro hc
    exact hstarts (by rw [Option.mem_def.mp h]; simpa using hc)

theorem sameCell_guardedCell (cell : Text) : SameCell (guardedCell cell) cell := by
  rw [SameCell, guardedCell]
  split_ifs
  · exact .inr rfl
  · exact .inl rfl

/-- A cell is written as nothing if it is empty. -/
theorem escapeCsv_eq_nil_iff : escapeCsv cell = [] ↔ cell = [] := by
  constructor
  · intro h
    rw [escapeCsv_eq] at h
    split_ifs at h
    · cases h
    · rw [guardedCell] at h
      split_ifs at h
      exact h
  · rintro rfl
    rfl

/-- The texts of a cell that is read and of the one that is meant have the same returns. -/
theorem count_of_sameCell {read : Text} (h : SameCell read cell) :
    read.count '\r' = cell.count '\r' := by
  rcases h with rfl | rfl
  · rfl
  · exact List.count_cons_of_ne (by decide)

end Cells

section Rows

variable {rows : List (List Text)}

/-- **Rows whose returns are between quotes** are read, but for a last one that is a blank line. -/
theorem read_csvText (hreturns : ∀ row ∈ rows, ∀ cell ∈ row, ReturnsQuoted cell)
    (hcells : ∀ row ∈ rows, row ≠ []) :
    Csv.read (csvText rows) = some (if rows.getLast? = some [[]] then
      (rows.map (List.map guardedCell)).dropLast else rows.map (List.map guardedCell)) := by
  have hwrites : List.Forall₂ (List.Forall₂ Csv.Writes) (rows.map (List.map guardedCell))
      (rows.map (List.map escapeCsv)) := by
    simp only [List.forall₂_map_left_iff, List.forall₂_map_right_iff, List.forall₂_same]
    exact fun row hrow cell hcell => writes_escapeCsv (hreturns row hrow cell hcell)
  have hblank : (rows.map (List.map escapeCsv)).getLast? = some [[]] ↔
      rows.getLast? = some [[]] := by
    simp [List.getLast?_map, List.map_eq_singleton_iff, escapeCsv_eq_nil_iff]
  rw [csvText, Csv.read_document hwrites]
  · simp only [hblank]
  · simpa using hcells

/-- **No carriage return is lost**, if the cells are read back. -/
theorem returnsQuoted_of_sameCell {records : List (List Text)}
    (hread : Csv.read (csvText rows) = some records)
    (hsame : List.Forall₂ (List.Forall₂ SameCell) records rows) :
    ∀ row ∈ rows, ∀ cell ∈ row, ReturnsQuoted cell := by
  have hleaves : List.Forall₂ (List.Forall₂ Csv.Reader.Leaves) (rows.map (List.map escapeCsv))
      (rows.map (List.map keptCell)) := by
    simp only [List.forall₂_map_left_iff, List.forall₂_map_right_iff, List.forall₂_same]
    exact fun _ _ cell _ => leaves_escapeCsv cell
  have hle := (Csv.flatten_sublist_kept hleaves hread).count_le '\r'
  -- the cells that are read have the returns of all cells
  have hsum : (records.flatten.map (List.count '\r')) = rows.flatten.map (List.count '\r') := by
    rw [← List.forall₂_eq_eq_eq, List.forall₂_map_left_iff, List.forall₂_map_right_iff]
    exact (List.rel_flatten hsame).imp fun _ _ => count_of_sameCell
  rw [List.count_flatten, hsum, ← List.map_flatten, List.count_flatten, List.map_map] at hle
  intro row hrow cell hcell
  by_contra hlone
  have hlt : (rows.flatten.map fun c => (keptCell c).count '\r').sum <
      (rows.flatten.map (List.count '\r')).sum := by
    refine List.sum_lt_sum _ _ ?_ ⟨cell, ?_, ?_⟩
    · exact fun cell' _ => count_keptCell_le cell'
    · exact List.mem_flatten.mpr ⟨row, hrow, hcell⟩
    · exact count_keptCell_lt hlone
  rw [Function.comp_def] at hle
  exact hlt.not_ge hle

/-- **The rows are read back** exactly if they are records and no carriage return is outside
quotes. -/
theorem csvRoundTrips_iff (rows : List (List Text)) : CsvRoundTrips rows ↔ CsvReadable rows := by
  constructor
  · rintro ⟨records, hread, hsame, -⟩
    have hreturns := returnsQuoted_of_sameCell hread hsame
    have hcells : ∀ row ∈ rows, row ≠ [] := by
      rintro row hrow rfl
      -- what is read in its place has a field
      have hlengths : records.map List.length = rows.map List.length := by
        rw [← List.forall₂_eq_eq_eq, List.forall₂_map_left_iff, List.forall₂_map_right_iff]
        exact hsame.imp fun _ _ => List.Forall₂.length_eq
      have hzero : 0 ∈ records.map List.length := by
        rw [hlengths]
        exact List.mem_map.mpr ⟨[], hrow, rfl⟩
      obtain ⟨record, hrecord, hlength⟩ := List.mem_map.mp hzero
      exact Csv.ne_nil_of_read hread record hrecord (List.length_eq_zero_iff.mp hlength)
    refine ⟨hreturns, hcells, fun hlast => ?_⟩
    rw [read_csvText hreturns hcells, if_pos hlast] at hread
    obtain rfl := Option.some.inj hread
    have hlength := hsame.length_eq
    have hpos : 0 < rows.length :=
      List.length_pos_of_mem (List.mem_of_getLast? hlast)
    rw [List.length_dropLast, List.length_map] at hlength
    omega
  · intro h
    refine ⟨rows.map (List.map guardedCell), ?_, ?_, ?_⟩
    · rw [read_csvText h.returns h.cells, if_neg h.last]
    · simp only [List.forall₂_map_left_iff, List.forall₂_same]
      exact fun _ _ cell _ => sameCell_guardedCell cell
    · simp only [List.forall_mem_map]
      exact fun _ _ cell _ c hc => head_guardedCell hc

/-- **A formula gets through** after a carriage return, as a record of its own. -/
theorem not_csvRoundTrips_return : ¬CsvRoundTrips [["a\r=1+1".toList]] := by
  have hread : Csv.read (csvText [["a\r=1+1".toList]]) =
      some [["a".toList], ["=1+1".toList]] := by decide
  rintro ⟨records, hrecords, hsame, -⟩
  rw [hread] at hrecords
  obtain rfl := Option.some.inj hrecords
  exact absurd hsame.length_eq (by decide)

end Rows

/-! ### Reading the file back -/

section File

variable {ctx : CveContext} {format : ExportFormat} {order : RowOrder CveEntry}
  {filters : CveFilters} {s : System} {e : CveEntry}

theorem writes_plain? {α : Type} {text : α → Text} (h : ∀ x, ∀ c ∈ text x, c ∉ Csv.special)
    (v : Option α) : Csv.Writes ((v.map text).getD []) ((v.map text).getD []) := by
  cases v with
  | none => exact .plain fun c hc => by cases hc
  | some x => exact .plain (h x)

theorem writes_cellOf {v : Option Text} (h : ReturnsQuoted (cellOf id v)) :
    Csv.Writes (cellOf guardedCell v) (cellOf escapeCsv v) := by
  cases v with
  | none => exact .plain fun c hc => by cases hc
  | some x => exact writes_escapeCsv h

/-- **A CVE is written** as fields are, if the carriage returns of its texts are between quotes. -/
theorem writes_exportCells (h : ∀ cell ∈ ctx.exportCells format id e, ReturnsQuoted cell) :
    List.Forall₂ Csv.Writes (ctx.exportCells format guardedCell e)
      (ctx.exportCells format escapeCsv e) := by
  simp only [CveContext.exportCells, id_eq, List.forall_mem_cons] at h
  obtain ⟨hid, hseverity, hv3, hv2, -, -, -, hkev, hpublished, hmodified, hdescription, -⟩ := h
  refine .cons (writes_escapeCsv hid) (.cons (writes_cellOf hseverity)
    (.cons (writes_cellOf hv3) (.cons (writes_cellOf hv2) (.cons ?_ (.cons ?_ (.cons ?_
      (.cons (writes_cellOf hkev) (.cons (writes_escapeCsv hpublished)
        (.cons (writes_escapeCsv hmodified) (.cons (writes_cellOf hdescription)
          .nil))))))))))
  · exact writes_plain? format.percent4_plain _
  · exact writes_plain? format.percent2_plain _
  · split_ifs
    · exact .of_all (by decide)
    · exact .of_all (by decide)

/-- **The file is read back** as its header and a record for each CVE, if the carriage returns of
their texts are between quotes. -/
theorem read_exportCsv
    (h : ∀ e ∈ (ctx.exported order filters s).take 10000,
      ∀ cell ∈ ctx.exportCells format id e, ReturnsQuoted cell) :
    Csv.read (ctx.exportCsv format order filters s).tail =
      some (exportHeader :: ((ctx.exported order filters s).take 10000).map
        (ctx.exportCells format guardedCell)) := by
  have hplain :
      (exportHeader.all fun cell => cell.all fun c => decide (c ∉ Csv.special)) = true := by
    decide +kernel
  have hheader : List.Forall₂ Csv.Writes exportHeader exportHeader :=
    List.forall₂_same.mpr fun cell hcell => .of_all (List.all_eq_true.mp hplain cell hcell)
  have hwrites : List.Forall₂ (List.Forall₂ Csv.Writes)
      (((ctx.exported order filters s).take 10000).map (ctx.exportCells format guardedCell))
      (((ctx.exported order filters s).take 10000).map (ctx.exportCells format escapeCsv)) := by
    rw [List.forall₂_map_left_iff, List.forall₂_map_right_iff, List.forall₂_same]
    exact fun e he => writes_exportCells (h e he)
  -- no line is blank, as each has eleven fields
  have hlast : (exportHeader :: ((ctx.exported order filters s).take 10000).map
      (ctx.exportCells format escapeCsv)).getLast? ≠ some [[]] := by
    intro hlast
    rcases List.mem_cons.mp (List.mem_of_getLast? hlast) with hheader | hrow
    · exact absurd (congrArg List.length hheader) (by decide)
    · obtain ⟨e, -, hcells⟩ := List.mem_map.mp hrow
      exact absurd (congrArg List.length hcells) (by simp [CveContext.exportCells])
  rw [CveContext.exportCsv, List.tail_cons, Csv.read_document (.cons hheader hwrites),
    if_neg hlast]
  rw [List.forall_mem_cons, List.forall_mem_map]
  exact ⟨by decide, fun e _ => List.cons_ne_nil _ _⟩

end File

end CveManagement
