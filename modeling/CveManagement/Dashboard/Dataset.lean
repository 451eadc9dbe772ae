import CveManagement.Query.Local
import CveManagement.Sync.FixedPoint
import Mathlib

/-!
# The database that is read

The tables with all columns that the readers return, and the foreign keys between them
(`CveManagement.Dataset`). Two databases are the same but for deleted products if they agree on the
live products, and on the findings, acceptances and histories of these
(`CveManagement.SameButDeleted`).
-/

namespace CveManagement

/-! ### The tables -/

/-- The values of `products.cpe_confidence`. -/
inductive CpeConfidence
  | certain
  | uncertain
  | manual
  deriving DecidableEq, Repr

/-- The other columns of `products`. -/
structure ProductDetails where
  cpeConfidence : Option CpeConfidence
  createdAt : Instant

/-- **The database**, with its foreign keys. -/
structure Dataset extends System where
  productDetails : ℕ → ProductDetails
  cveDetails : String → CveDetails
  finding_product : ∀ f ∈ db.findings.rows, (db.products.get? f.productId).isSome
  finding_cve : ∀ f ∈ db.findings.rows, (cves.get? f.cveId).isSome
  acceptance_finding : ∀ a ∈ db.riskAcceptances.rows, (db.findings.get? a.findingId).isSome
  history_finding : ∀ h ∈ db.findingsHistory.rows, (db.findings.get? h.findingId).isSome

namespace Dataset

variable (s : Dataset)

/-- The live products. -/
def live : List Product := s.db.products.select fun p => !p.isDeleted

/-- The product is there, and is not deleted. -/
def isLive (productId : ℕ) : Bool := (s.db.products.get? productId).any fun p => !p.isDeleted

/-- The finding is one of a live product. -/
def isOfLive (findingId : ℕ) : Bool :=
  (s.db.findings.get? findingId).any fun f => s.isLive f.productId

end Dataset

/-- **The same but for deleted products**, and their findings with what belongs to these. -/
structure SameButDeleted (s s' : Dataset) : Prop where
  products : s.live = s'.live
  columns : ∀ p ∈ s.live, s.syncColumns p.id = s'.syncColumns p.id ∧
    s.productDetails p.id = s'.productDetails p.id
  findings : (s.db.findings.select fun f => s.isLive f.productId) =
    s'.db.findings.select fun f => s'.isLive f.productId
  acceptances : (s.db.riskAcceptances.select fun a => s.isOfLive a.findingId) =
    s'.db.riskAcceptances.select fun a => s'.isOfLive a.findingId
  history : (s.db.findingsHistory.select fun h => s.isOfLive h.findingId) =
    s'.db.findingsHistory.select fun h => s'.isOfLive h.findingId
  auditLog : s.db.auditLog = s'.db.auditLog
  cves : s.cves = s'.cves
  cveDetails : s.cveDetails = s'.cveDetails
  syncJobs : s.syncJobs = s'.syncJobs

theorem SameButDeleted.trans {s s' s'' : Dataset} (h : SameButDeleted s s')
    (h' : SameButDeleted s' s'') : SameButDeleted s s'' where
  products := h.products.trans h'.products
  columns p hp :=
    have hcolumns := h'.columns p (h.products ▸ hp)
    ⟨(h.columns p hp).1.trans hcolumns.1, (h.columns p hp).2.trans hcolumns.2⟩
  findings := h.findings.trans h'.findings
  acceptances := h.acceptances.trans h'.acceptances
  history := h.history.trans h'.history
  auditLog := h.auditLog.trans h'.auditLog
  cves := h.cves.trans h'.cves
  cveDetails := h.cveDetails.trans h'.cveDetails
  syncJobs := h.syncJobs.trans h'.syncJobs

/-! ### A deleted product more -/

namespace Dataset

variable {s : Dataset} {productId : ℕ} {cveId : String}

/-- A product that has been deleted. -/
def deletedProduct (n : ℕ) : Product :=
  ⟨n, "retired", none, none, none, 0, 0, 0, true, some 0, some "admin"⟩

theorem id_deletedProduct (n : ℕ) : (deletedProduct n).id = n := rfl

/-- A finding as it is inserted. -/
def insertedFinding (productId : ℕ) (cveId : String) (n : ℕ) : Finding :=
  newFinding 0 productId cveId .uncertain "circl_fallback" none n

theorem id_insertedFinding (productId : ℕ) (cveId : String) (n : ℕ) :
    (insertedFinding productId cveId n).id = n := rfl

theorem isSome_get?_insert {ρ : Type} {key : ρ → ℕ} {t : Table ρ key} {row : ℕ → ρ}
    (hkey : ∀ n, key (row n) = n) {k : ℕ} (h : (t.get? k).isSome) :
    ((t.insert row hkey).get? k).isSome := by
  rw [Table.get?_insert]
  split_ifs
  · rfl
  · exact h

variable (s) in
/-- The database with a deleted product more. -/
def addDeleted : Dataset where
  db := { s.db with products := s.db.products.insert deletedProduct id_deletedProduct }
  cves := s.cves
  syncColumns := s.syncColumns
  syncJobs := s.syncJobs
  productDetails := s.productDetails
  cveDetails := s.cveDetails
  finding_product f hf := isSome_get?_insert id_deletedProduct (s.finding_product f hf)
  finding_cve := s.finding_cve
  acceptance_finding := s.acceptance_finding
  history_finding := s.history_finding

theorem rows_addDeleted (s : Dataset) : s.addDeleted.db.products.rows =
    s.db.products.rows ++ [deletedProduct s.db.products.seq] := rfl

theorem isLive_addDeleted (productId : ℕ) : s.addDeleted.isLive productId = s.isLive productId := by
  have hget : s.addDeleted.db.products.get? productId =
      if productId = s.db.products.seq then some (deletedProduct s.db.products.seq)
      else s.db.products.get? productId := Table.get?_insert _ _ id_deletedProduct _
  rw [isLive, isLive, hget]
  split_ifs with hseq
  · rw [hseq, Table.get?_seq]
    rfl
  · rfl

/-- **A deleted product more is the same but for deleted products.** -/
theorem sameButDeleted_addDeleted (s : Dataset) : SameButDeleted s s.addDeleted := by
  have hlive : s.addDeleted.isLive = s.isLive := funext isLive_addDeleted
  have hofLive : s.addDeleted.isOfLive = s.isOfLive := by
    funext findingId
    have hfindings : s.addDeleted.db.findings = s.db.findings := rfl
    rw [isOfLive, isOfLive, hlive, hfindings]
  refine ⟨?_, fun _ _ => ⟨rfl, rfl⟩, ?_, ?_, ?_, rfl, rfl, rfl, rfl⟩
  · rw [live, live, Table.select, Table.select, rows_addDeleted, List.filter_append]
    exact (List.append_nil _).symm
  · rw [hlive]
    rfl
  · rw [hofLive]
    rfl
  · rw [hofLive]
    rfl

variable (s) in
/-- The database with a finding more. -/
def addFinding (productId : ℕ) (cveId : String) (hproduct : (s.db.products.get? productId).isSome)
    (hcve : (s.cves.get? cveId).isSome)
    (hnew : (productId, cveId) ∉ s.db.findings.rows.map Finding.target) : Dataset where
  db := { s.db with
    findings := s.db.findings.insert (insertedFinding productId cveId)
      (id_insertedFinding productId cveId)
    uniqueFinding := by
      rw [Table.rows_insert, List.map_append, List.map_singleton]
      refine List.Nodup.append s.db.uniqueFinding (List.nodup_singleton _) ?_
      rwa [List.disjoint_singleton] }
  cves := s.cves
  syncColumns := s.syncColumns
  syncJobs := s.syncJobs
  productDetails := s.productDetails
  cveDetails := s.cveDetails
  finding_product f hf := by
    rcases List.mem_append.mp hf with hf | hf
    · exact s.finding_product f hf
    · rw [List.mem_singleton.mp hf]
      exact hproduct
  finding_cve f hf := by
    rcases List.mem_append.mp hf with hf | hf
    · exact s.finding_cve f hf
    · rw [List.mem_singleton.mp hf]
      exact hcve
  acceptance_finding a ha := isSome_get?_insert (id_insertedFinding _ _) (s.acceptance_finding a ha)
  history_finding h hh := isSome_get?_insert (id_insertedFinding _ _) (s.history_finding h hh)

/-- **So is a finding more of a deleted product.** -/
theorem sameButDeleted_addFinding {hproduct : (s.db.products.get? productId).isSome}
    {hcve : (s.cves.get? cveId).isSome}
    {hnew : (productId, cveId) ∉ s.db.findings.rows.map Finding.target}
    (hdeleted : s.isLive productId = false) :
    SameButDeleted s (s.addFinding productId cveId hproduct hcve hnew) := by
  have hofLive : (s.addFinding productId cveId hproduct hcve hnew).isOfLive = s.isOfLive := by
    funext findingId
    have hget : (s.addFinding productId cveId hproduct hcve hnew).db.findings.get? findingId =
        if findingId = s.db.findings.seq then
          some (insertedFinding productId cveId s.db.findings.seq)
        else s.db.findings.get? findingId :=
      Table.get?_insert _ _ (id_insertedFinding productId cveId) _
    rw [isOfLive, isOfLive, hget]
    split_ifs with hseq
    · rw [hseq, Table.get?_seq]
      exact hdeleted
    · rfl
  refine ⟨rfl, fun _ _ => ⟨rfl, rfl⟩, ?_, ?_, ?_, rfl, rfl, rfl, rfl⟩
  · have hrows : (s.addFinding productId cveId hproduct hcve hnew).db.findings.rows =
        s.db.findings.rows ++ [insertedFinding productId cveId s.db.findings.seq] := rfl
    have hdropped : [insertedFinding productId cveId s.db.findings.seq].filter
        (fun f => s.isLive f.productId) = [] :=
      List.filter_cons_of_neg (Bool.eq_false_iff.mp hdeleted)
    have hlive : (s.addFinding productId cveId hproduct hcve hnew).isLive = s.isLive := rfl
    rw [Table.select, Table.select, hrows, hlive, List.filter_append, hdropped, List.append_nil]
  · rw [hofLive]
    rfl
  · rw [hofLive]
    rfl

/-- **A CVE can have a finding of a deleted product more.** -/
theorem exists_more_findings {c : MirrorRow} (hc : c ∈ s.cves.rows) :
    ∃ s', SameButDeleted s s' ∧ s.db.findings.rows.length < s'.db.findings.rows.length := by
  have hproduct : (s.addDeleted.db.products.get? s.db.products.seq).isSome := by
    have hget : s.addDeleted.db.products.get? s.db.products.seq =
        if s.db.products.seq = s.db.products.seq then some (deletedProduct s.db.products.seq)
        else s.db.products.get? s.db.products.seq := Table.get?_insert _ _ id_deletedProduct _
    rw [hget, if_pos rfl]
    rfl
  have hcve : (s.addDeleted.cves.get? c.cveId).isSome := by
    have hget : s.addDeleted.cves.get? c.cveId = some c := Mirror.get?_of_mem hc
    rw [hget]
    rfl
  have hnew : (s.db.products.seq, c.cveId) ∉ s.addDeleted.db.findings.rows.map Finding.target := by
    intro hmem
    obtain ⟨f, hf, htarget⟩ := List.mem_map.mp hmem
    have hid : f.productId = s.db.products.seq := congrArg Prod.fst htarget
    have hsome := s.finding_product f hf
    rw [hid, Table.get?_seq] at hsome
    cases hsome
  have hdeleted : s.addDeleted.isLive s.db.products.seq = false := by
    rw [isLive_addDeleted, isLive, Table.get?_seq]
    rfl
  refine ⟨s.addDeleted.addFinding s.db.products.seq c.cveId hproduct hcve hnew,
    (sameButDeleted_addDeleted s).trans (sameButDeleted_addFinding hdeleted), ?_⟩
  have hrows : (s.addDeleted.addFinding s.db.products.seq c.cveId hproduct hcve
      hnew).db.findings.rows =
        s.db.findings.rows ++ [insertedFinding s.db.products.seq c.cveId s.db.findings.seq] := rfl
  rw [hrows, List.length_append]
  exact Nat.lt_succ_self _

end Dataset

end CveManagement
