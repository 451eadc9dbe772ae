import CveManagement.Governance.Sla
import CveManagement.Query.CirclAnswers
import CveManagement.Sync.Deleted
import CveManagement.Sync.Prefilter
import Mathlib

/-!
# The due dates of new findings

Findings are inserted by `sync_product` and by the CIRCL fallback. Neither statement names
`due_date`, and nothing calls `compute_due_date`: a finding that is inserted has no due date
(`CveManagement.dueOnInsertion_iff`), and stays on track however old it gets.
-/

namespace CveManagement

open Register

/-! ### What inserts findings -/

/-- **The calls that insert findings**, at the time of the state. -/
inductive FindingSource
  | syncProduct (ctx : SyncContext) (productId : ℕ)
  | fetchAndStore (py : PyParse) (productId : ℕ) (normalizedCpe : Text)
      (pages : Except CirclError (List Json))

namespace FindingSource

/-- The state that the call leaves. -/
def run (s : CirclState) : FindingSource → CirclState
  | .syncProduct ctx productId =>
    { s with system := (CveManagement.syncProduct ctx s.now productId s.system).2 }
  | .fetchAndStore py productId normalizedCpe pages =>
    (CirclClient.fetchAndStore py productId normalizedCpe pages s).2

/-- The product and the CVEs that the call links: those of which the matcher says that they affect
the product, or those that CIRCL or the cache lists. -/
def linked (s : CirclState) : FindingSource → List (ℕ × String)
  | .syncProduct ctx productId =>
    (s.system.affecting ctx s.now productId).map fun cveId => (productId, cveId)
  | .fetchAndStore py productId normalizedCpe pages =>
    ((s.answer py normalizedCpe pages).elim [] s.system.linked).map fun cveId => (productId, cveId)

end FindingSource

/-- The call has inserted the finding. -/
def Inserted (source : FindingSource) (s : CirclState) (f : Finding) : Prop :=
  f ∈ (source.run s).system.db.findings.rows ∧
    s.system.db.findingAt f.productId f.cveId = none

/-- The due date that `compute_due_date` gives for a finding of the CVE. -/
def MirrorRow.dueDate (now : Instant) (c : MirrorRow) (f : Finding) : Option Date :=
  computeDueDate now c.severity c.isKev (some c.publishedAt) (some f.createdAt)

/-- **Due on insertion**: every finding that the call inserts has the due date of its CVE. -/
def DueOnInsertion (source : FindingSource) (s : CirclState) : Prop :=
  ∀ f, Inserted source s f → ∃ c due, (source.run s).system.cves.get? f.cveId = some c ∧
    c.dueDate s.now f = some due ∧ f.dueDate = some due

/-! ### What a call inserts -/

/-- `findings.due_date`: neither statement that inserts or updates sets it. -/
def FindingColumn.dueDate : FindingColumn (Option Date) where
  read := Finding.dueDate
  initial := none
  read_rematch _ _ _ _ _ := rfl
  read_newFinding _ _ _ _ _ _ _ := rfl

section Calls

variable {s : CirclState} {source : FindingSource}

/-- **A call enters a new finding of each CVE that it links**, unless the product has one. -/
theorem FindingSource.column_run {ν : Type} (col : FindingColumn ν) :
    (source.run s).system.db.column col =
      enterAll col.initial (s.system.db.column col) (source.linked s) := by
  cases source with
  | syncProduct ctx productId => exact column_syncProduct col
  | fetchAndStore py productId normalizedCpe pages =>
    rw [run, linked, CirclClient.system_fetchAndStore]
    cases s.answer py normalizedCpe pages with
    | none => rfl
    | some answer => exact column_storeCircl col answer

/-- What has been inserted is as a new finding is. -/
theorem read_of_inserted {ν : Type} (col : FindingColumn ν) {f : Finding}
    (h : Inserted source s f) : col.read f = col.initial := by
  have hentry : (f.target, col.read f) ∈ (source.run s).system.db.column col :=
    List.mem_map.mpr ⟨f, h.1, rfl⟩
  rw [FindingSource.column_run] at hentry
  rcases mem_enterAll.mp hentry with hold | ⟨-, -, hnew⟩
  · have hkey := (@mem_keys_column _ col _ _ _).mp (List.mem_map.mpr ⟨_, hold, rfl⟩)
    rw [h.2] at hkey
    cases hkey
  · exact hnew

/-- **A call inserts a finding exactly if** it links a CVE of which the product has none. -/
theorem exists_inserted_iff {productId : ℕ} {cveId : String} :
    (∃ f, Inserted source s f ∧ f.target = (productId, cveId)) ↔
      (productId, cveId) ∈ source.linked s ∧ s.system.db.findingAt productId cveId = none := by
  have hkeys : ((source.run s).system.db.findingAt productId cveId).isSome = true ↔
      (s.system.db.findingAt productId cveId).isSome = true ∨
        (productId, cveId) ∈ source.linked s := by
    rw [← @mem_keys_column _ .dueDate, ← @mem_keys_column _ .dueDate, FindingSource.column_run,
      mem_keys_enterAll]
  constructor
  · rintro ⟨f, ⟨hf, hnone⟩, htarget⟩
    obtain ⟨rfl, rfl⟩ := Prod.mk.inj htarget
    have hafter := hkeys.mp (by rw [findingAt_of_mem hf rfl]; rfl)
    rw [hnone] at hafter
    exact ⟨hafter.resolve_left Bool.false_ne_true, hnone⟩
  · rintro ⟨hlinked, hnone⟩
    obtain ⟨f, hf⟩ := Option.isSome_iff_exists.mp (hkeys.mpr (.inr hlinked))
    obtain ⟨hmem, rfl, rfl⟩ := Db.findingAt_mem hf
    exact ⟨f, ⟨hmem, hnone⟩, rfl⟩

end Calls

/-- **The due date is enforced exactly if nothing is inserted**: if the product has a finding
already of every CVE that the call links. What is inserted has no due date, and is on track on
every day. -/
theorem dueOnInsertion_iff (source : FindingSource) (s : CirclState) :
    (DueOnInsertion source s ↔
      ∀ target ∈ source.linked s, (s.system.db.findingAt target.1 target.2).isSome) ∧
      ∀ f, Inserted source s f → f.dueDate = none ∧
        ∀ today, computeSlaState f.status f.dueDate today = .onTrack := by
  have hundue : ∀ f, Inserted source s f → f.dueDate = none := fun f hf =>
    read_of_inserted .dueDate hf
  refine ⟨⟨fun h => ?_, fun h f hf => ?_⟩, fun f hf => ⟨hundue f hf, fun today => ?_⟩⟩
  · rintro ⟨productId, cveId⟩ hlinked
    by_contra hnot
    obtain ⟨f, hf, -⟩ := exists_inserted_iff.mpr ⟨hlinked, Option.not_isSome_iff_eq_none.mp hnot⟩
    obtain ⟨c, due, -, -, hdue⟩ := h f hf
    rw [hundue f hf] at hdue
    cases hdue
  · obtain ⟨hlinked, hnone⟩ := exists_inserted_iff.mp ⟨f, hf, rfl⟩
    have hsome := h _ hlinked
    rw [hnone] at hsome
    cases hsome
  · have hopen : f.status = .opened := read_of_inserted .status hf
    rw [hundue f hf, hopen]
    exact computeSlaState_of_noDueDate rfl today

/-- A known exploited CVE that affects the product. -/
def System.withExploited : System :=
  { System.withCpe with
    cves := .single { MirrorRow.bare "CVE-2024-0001" with
      severity := some .critical
      isKev := true
      rawPayload := .ofEntries [.ofCriteria "cpe:2.3:a:f5:nginx:*:*:*:*:*:*:*:*"] } }

/-- **Neither call sets the due date**: not the sync that finds the CVE to affect the product, and
not the fallback that fetches one. -/
theorem not_dueOnInsertion :
    ¬DueOnInsertion (.syncProduct .ascii 1) (.start 10 .withExploited) ∧
      ¬DueOnInsertion (.fetchAndStore .none 1 nginxCpe (.ok [bareItem "CVE-2024-0001"]))
        (.start 10 .withCpe) := by
  constructor
  · intro h
    obtain ⟨c, due, -, -, hdue⟩ := h _ ⟨List.mem_cons_self, rfl⟩
    cases hdue
  · intro h
    obtain ⟨c, due, -, -, hdue⟩ := h _ ⟨List.mem_cons_self, rfl⟩
    cases hdue

end CveManagement
