import CveManagement.Library.Register
import CveManagement.Sync.FixedPoint
import Mathlib

/-!
# Findings by their targets

The findings of the database as a register: each product and CVE with the status of its
finding (`CveManagement.Db.entries`), or with another column that the sync does not update
(`CveManagement.Db.column`). The statements by which findings appear enter a new finding unless
there is one, and keep the column of one that exists, so a sync is a batch of entries
(`CveManagement.column_syncProduct`).
-/

namespace CveManagement

open Register

/-- The findings, each by its target, with its status. -/
def Db.entries (db : Db) : List ((ℕ × String) × FindingStatus) :=
  db.findings.rows.map fun f => (f.target, f.status)

/-- **A column that a sync does not update**, and what it is in a new finding. -/
structure FindingColumn (ν : Type) where
  read : Finding → ν
  initial : ν
  read_rematch : ∀ now confidence reason priority f,
    read ((Finding.rematch now confidence reason priority).set f) = read f
  read_newFinding : ∀ now productId cveId confidence reason priority n,
    read (newFinding now productId cveId confidence reason priority n) = initial

/-- `findings.status`. -/
def FindingColumn.status : FindingColumn FindingStatus where
  read := Finding.status
  initial := .opened
  read_rematch _ _ _ _ _ := rfl
  read_newFinding _ _ _ _ _ _ _ := rfl

/-- The findings, each by its target, with what the column says. -/
def Db.column {ν : Type} (db : Db) (col : FindingColumn ν) : List ((ℕ × String) × ν) :=
  db.findings.rows.map fun f => (f.target, col.read f)

section Entries

variable {ν : Type} {col : FindingColumn ν} {db : Db} {now : Instant} {productId : ℕ}
  {cveId : String}

theorem keys_column : (db.column col).map Prod.fst = db.findings.rows.map Finding.target := by
  rw [Db.column, List.map_map]
  rfl

theorem mem_keys_column :
    (productId, cveId) ∈ (db.column col).map Prod.fst ↔
      (db.findingAt productId cveId).isSome := by
  rw [keys_column, List.mem_map]
  constructor
  · rintro ⟨f, hf, ht⟩
    obtain ⟨hp, hc⟩ := Prod.mk.inj ht
    rw [Option.isSome_iff_ne_none, ne_eq, findingAt_eq_none_iff]
    exact fun h => h f hf hp hc
  · intro h
    obtain ⟨f, hf⟩ := Option.isSome_iff_exists.mp h
    obtain ⟨hmem, hp, hc⟩ := Db.findingAt_mem hf
    exact ⟨f, hmem, Prod.ext hp hc⟩

/-- A finding is the one of its target. -/
theorem findingAt_of_mem {f : Finding} (hf : f ∈ db.findings.rows)
    (htarget : f.target = (productId, cveId)) : db.findingAt productId cveId = some f := by
  obtain ⟨hp, hc⟩ := Prod.mk.inj htarget
  refine Table.find_eq_some_of_unique hf (by simp [hp, hc]) fun g hg hgt => ?_
  rw [Bool.and_eq_true, beq_iff_eq, beq_iff_eq] at hgt
  exact Db.finding_unique hg hf ((Prod.ext hgt.1 hgt.2).trans htarget.symm)

variable (col)

/-- A finding that is inserted is entered. -/
theorem column_insertFinding (confidence : Confidence) (reason : String) (priority : Option ℚ) :
    (db.insertFinding (newFinding now productId cveId confidence reason priority)).column col =
      enter col.initial (db.column col) (productId, cveId) := by
  rw [enter, keys_column]
  split_ifs with h
  · have hsame : db.insertFinding (newFinding now productId cveId confidence reason priority) =
        db := dif_pos h
    rw [hsame]
  · have hrows : (db.insertFinding (newFinding now productId cveId confidence reason
        priority)).findings.rows = db.findings.rows ++
          [newFinding now productId cveId confidence reason priority db.findings.seq] :=
      @rows_insertFinding db _ _ h
    rw [Db.column, hrows, List.map_append, List.map_singleton, col.read_newFinding]
    rfl

/-- So is one that the sync upserts. -/
theorem column_upsertFinding (confidence : Confidence) (reason : String) (priority : ℚ) :
    (upsertFinding now productId cveId confidence reason priority db).column col =
      enter col.initial (db.column col) (productId, cveId) := by
  rw [upsertFinding]
  cases hf : db.findingAt productId cveId with
  | none => exact column_insertFinding col confidence reason (some priority)
  | some f =>
    rw [enter, if_pos (mem_keys_column.mpr (by rw [hf]; rfl))]
    -- the update of an existing finding keeps its target and the column
    simp only [Db.column, Db.updateFindings, Table.update, List.map_map]
    refine List.map_congr_left fun g _ => ?_
    rw [Function.comp_apply]
    split_ifs
    · exact Prod.ext rfl (col.read_rematch now confidence reason priority g)
    · rfl

theorem column_upsertFindings (s : System) (rows : List FindingRow) :
    (s.upsertFindings now productId rows).db.column col =
      enterAll col.initial (s.db.column col) (rows.map fun row => (productId, row.cveId)) := by
  induction rows generalizing s with
  | nil => rfl
  | cons row rows ih =>
    have hrow : (s.upsertFinding now productId row).db.column col =
        enter col.initial (s.db.column col) (productId, row.cveId) :=
      column_upsertFinding col _ _ _
    rw [List.map_cons, enterAll_cons, ← hrow]
    exact ih _

end Entries

/-! ### What a sync enters -/

namespace System

variable (s : System) (ctx : SyncContext) (now : Instant) (productId : ℕ)

/-- The CVEs of which a sync of the product writes findings. -/
def affecting : List String :=
  match s.db.products.get? productId with
  | none => []
  | some product =>
    match s.matches ctx now product with
    | .error _ => []
    | .ok rows => rows.map FindingRow.cveId

end System

section Enter

variable {s : System} {ctx : SyncContext} {now : Instant} {productId : ℕ}

variable (s ctx now productId) in
/-- **A sync writes no finding, or one of each CVE that affects the product.** -/
theorem syncProduct_affecting :
    (s.affecting ctx now productId = [] ∧
      (syncProduct ctx now productId s).2.db.findings = s.db.findings ∧
      (syncProduct ctx now productId s).2.cves = s.cves) ∨
    ∃ product rows, s.matches ctx now product = .ok rows ∧
      s.affecting ctx now productId = rows.map FindingRow.cveId ∧
      (syncProduct ctx now productId s).2 = ((s.updateStatus now .syncing productId).upsertFindings
        now productId rows).updateStats now productId := by
  rw [System.affecting]
  rcases syncProduct_cases ctx now productId s with
    ⟨hproduct, hrun⟩ | ⟨product, e, hproduct, hmatches, hrun⟩ |
      ⟨product, rows, r, hproduct, hmatches, hrun⟩
  · rw [hproduct, hrun]
    exact .inl ⟨rfl, rfl, rfl⟩
  · rw [hproduct, hrun]
    dsimp only
    rw [hmatches]
    exact .inl ⟨rfl, rfl, rfl⟩
  · rw [hproduct, hrun, System.written]
    dsimp only
    rw [hmatches]
    rcases rows with _ | ⟨row, rows⟩
    · exact .inl ⟨rfl, rfl, rfl⟩
    · exact .inr ⟨product, row :: rows, hmatches, rfl, rfl⟩

theorem column_syncProduct {ν : Type} (col : FindingColumn ν) :
    (syncProduct ctx now productId s).2.db.column col = enterAll col.initial (s.db.column col)
      ((s.affecting ctx now productId).map fun c => (productId, c)) := by
  rcases syncProduct_affecting s ctx now productId with
    ⟨hnone, hfindings, -⟩ | ⟨product, rows, -, hrows, hend⟩
  · rw [hnone, Db.column, hfindings]
    rfl
  · rw [hrows, hend, List.map_map]
    exact column_upsertFindings col (s.updateStatus now .syncing productId) rows

end Enter

end CveManagement
