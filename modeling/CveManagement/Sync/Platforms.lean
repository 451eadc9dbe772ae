import CveManagement.Resolution.Verdicts
import CveManagement.Sync.ConfigTree
import CveManagement.Sync.Counts

/-!
# Platforms in the configurations

An entry of a configuration names software that the CVE makes vulnerable, or the platform that the
software runs on; the boolean `vulnerable` tells the two apart. The matcher is to determine the
*affected* versions, but nothing reads the flag: `extract_affected_cpes` returns the entries of
platforms among the others, and the loop of the matcher is certain of the first one that fits.

Hence only vulnerable entries make a product affected (`CveManagement.OnlyVulnerableAffect`) exactly
when there is one that fits, or when no platform is what the loop stops at
(`CveManagement.onlyVulnerableAffect_iff`).
-/

namespace CveManagement

section Verdict

variable (py : PyText) (product : Product)

/-- The entry is one of vulnerable software. -/
def Vulnerable (entry : Json) : Prop := entry.get "vulnerable" = .ok (.bool true)

/-- **The entry fits the product**: it matches, and has the version in its range. -/
def Fits (entry : Json) : Prop :=
  MatchesProduct py product entry ∧
    isVersionInRange py (installedVersion py product) entry = .ok true

/-- **Only vulnerable entries make the product affected.** -/
def OnlyVulnerableAffect (row : MirrorRow) : Prop :=
  ∀ r, judgeCandidate py product row = .ok r → r.affected = true → r.confidence = .certain →
    ∃ entry ∈ payloadEntries row.rawPayload, Vulnerable entry ∧ Fits py product entry

/-- **A platform comes first**: an entry fits that is not one of vulnerable software, and those
before it are entries of other products, or out of range. -/
def PlatformFirst (cpes : List Json) : Prop :=
  ∃ before entry after, cpes = before ++ entry :: after ∧
    (∀ e ∈ before, MatchesOther py product e ∨
      MatchesProduct py product e ∧ OutOfRange py product e) ∧
    Fits py product entry ∧ ¬Vulnerable entry

end Verdict

/-! ### What is flattened is in the payload -/

section Entries

variable {j rawPayload entry : Json} {key : String}

/-- An object that a loop comes to is an element of a list. -/
theorem mem_elements_of_iterOr {v : Json} {items : List Json} {members : List (String × Json)}
    (hget : j.get key = .ok v) (hiter : v.iterOr = .ok items) (hmem : .obj members ∈ items) :
    .obj members ∈ j.elements key := by
  rw [Json.iterOr] at hiter
  cases j with
  | obj ms =>
    split at hiter
    · cases v with
      | arr l =>
        obtain rfl := Except.ok.inj hiter
        have hmember : Json.member? key ms = some (.arr l) := by
          rw [Json.get] at hget
          cases hm : Json.member? key ms with
          | none =>
            rw [hm] at hget
            cases hget
          | some v =>
            rw [hm, Option.getD_some] at hget
            rw [Except.ok.inj hget]
        rwa [Json.elements_of_arrow (j := .obj ms) hmember]
      | obj ms' =>
        -- the elements of an object are its keys
        obtain rfl := Except.ok.inj hiter
        obtain ⟨m, -, hm⟩ := List.mem_map.mp hmem
        cases hm
      | str s =>
        obtain rfl := Except.ok.inj hiter
        obtain ⟨c, -, hc⟩ := List.mem_map.mp hmem
        cases hc
      | null => cases hiter
      | bool b => cases hiter
      | num q => cases hiter
    · obtain rfl := Except.ok.inj hiter
      cases hmem
  | _ => cases hget

theorem obj_of_get {v : Json} (h : j.get key = .ok v) : ∃ members, j = .obj members := by
  cases j with
  | obj members => exact ⟨members, rfl⟩
  | _ => cases h

theorem obj_of_nodeCpes {node : Json} {cpes : List Json} (h : nodeCpes node = .ok cpes) :
    ∃ members, node = .obj members := by
  rw [nodeCpes] at h
  obtain ⟨v, hv, -⟩ := bind_eq_ok_iff.mp h
  exact obj_of_get hv

theorem obj_of_configCpes {config : Json} {cpes : List Json} (h : configCpes config = .ok cpes) :
    ∃ members, config = .obj members := by
  rw [configCpes] at h
  obtain ⟨v, hv, -⟩ := bind_eq_ok_iff.mp h
  exact obj_of_get hv

/-- An entry that the flattening returns is one of the payload, if it is an object. -/
theorem mem_treeEntries_of_nodeCpes {node : Json} {members : List (String × Json)}
    {cpes : List Json} (h : nodeCpes node = .ok cpes) (hmem : .obj members ∈ cpes) :
    .obj members ∈ treeEntries node := by
  rw [nodeCpes] at h
  obtain ⟨v, hv, h⟩ := bind_eq_ok_iff.mp h
  obtain ⟨own, hown, h⟩ := bind_eq_ok_iff.mp h
  obtain ⟨w, hw, h⟩ := bind_eq_ok_iff.mp h
  obtain ⟨children, hchildren, h⟩ := bind_eq_ok_iff.mp h
  obtain ⟨nested, hnested, h⟩ := bind_eq_ok_iff.mp h
  obtain rfl := Except.ok.inj h
  rw [treeEntries_eq, List.mem_append, List.mem_flatMap]
  rcases List.mem_append.mp hmem with hmem | hmem
  · exact .inl (mem_elements_of_iterOr hv hown hmem)
  · obtain ⟨entries, hentries, hmem⟩ := List.mem_flatten.mp hmem
    obtain ⟨child, hchild, h⟩ := exists_of_mem_mapM hnested hentries
    obtain ⟨x, hx, hiter⟩ := bind_eq_ok_iff.mp h
    obtain ⟨ms, rfl⟩ := obj_of_get hx
    refine .inr ⟨.obj ms, mem_elements_of_iterOr hw hchildren hchild, ?_⟩
    exact (own_sublist_treeEntries _).subset (mem_elements_of_iterOr hx hiter hmem)

theorem mem_treeEntries_of_configCpes {config : Json} {members : List (String × Json)}
    {cpes : List Json} (h : configCpes config = .ok cpes) (hmem : .obj members ∈ cpes) :
    .obj members ∈ (config.elements "nodes").flatMap treeEntries := by
  rw [configCpes] at h
  obtain ⟨v, hv, h⟩ := bind_eq_ok_iff.mp h
  obtain ⟨nodes, hnodes, h⟩ := bind_eq_ok_iff.mp h
  obtain ⟨entries, hentries, h⟩ := bind_eq_ok_iff.mp h
  obtain rfl := Except.ok.inj h
  obtain ⟨l, hl, hmem⟩ := List.mem_flatten.mp hmem
  obtain ⟨node, hnode, hcpes⟩ := exists_of_mem_mapM hentries hl
  obtain ⟨ms, rfl⟩ := obj_of_nodeCpes hcpes
  exact List.mem_flatMap.mpr ⟨.obj ms, mem_elements_of_iterOr hv hnodes hnode,
    mem_treeEntries_of_nodeCpes hcpes hmem⟩

theorem mem_payloadEntries {members : List (String × Json)} {cpes : List Json}
    (h : extractAffectedCpes rawPayload = .ok cpes) (hmem : .obj members ∈ cpes) :
    .obj members ∈ payloadEntries rawPayload := by
  rw [extractAffectedCpes] at h
  obtain ⟨v, hv, h⟩ := bind_eq_ok_iff.mp h
  obtain ⟨configs, hconfigs, h⟩ := bind_eq_ok_iff.mp h
  obtain ⟨entries, hentries, h⟩ := bind_eq_ok_iff.mp h
  obtain rfl := Except.ok.inj h
  obtain ⟨l, hl, hmem⟩ := List.mem_flatten.mp hmem
  obtain ⟨config, hconfig, hcpes⟩ := exists_of_mem_mapM hentries hl
  obtain ⟨ms, rfl⟩ := obj_of_configCpes hcpes
  exact List.mem_flatMap.mpr ⟨.obj ms, mem_elements_of_iterOr hv hconfigs hconfig,
    mem_treeEntries_of_configCpes hcpes hmem⟩

end Entries

/-! ### When only vulnerable entries count -/

section Platforms

variable {py : PyText} {product : Product} {entry : Json}

/-- An entry that fits is an object. -/
theorem Fits.obj (h : Fits py product entry) : ∃ members, entry = .obj members := by
  obtain ⟨⟨name, hname, -⟩, -⟩ := h
  rw [cpeName] at hname
  obtain ⟨v, hv, -⟩ := bind_eq_ok_iff.mp hname
  exact obj_of_get hv

/-- The loop stops at an entry exactly if it fits. -/
theorem judgeEntry_inRange_iff :
    (∃ name, judgeEntry py product (installedVersion py product) entry = .ok (.inRange name)) ↔
      Fits py product entry := by
  rcases judgeEntry_cases py product entry with ⟨hother, hjudge⟩ | ⟨-, hout, hjudge⟩ |
    ⟨hmatch, hrange, hjudge⟩ | ⟨hnot, e, hjudge⟩
  · rw [hjudge]
    refine iff_of_false (fun ⟨_, h⟩ => by cases h) fun h => ?_
    exact h.1.not_matchesOther hother
  · rw [hjudge]
    refine iff_of_false (fun ⟨_, h⟩ => by cases h) fun h => ?_
    exact absurd (Except.ok.inj (hout.symm.trans h.2)) (by decide)
  · exact iff_of_true hjudge ⟨hmatch, hrange⟩
  · rw [hjudge]
    refine iff_of_false (fun ⟨_, h⟩ => by cases h) fun h => ?_
    exact hnot (.inr ⟨h.1, true, h.2⟩)

/-- The loop goes past an entry exactly if it is of another product, or out of range. -/
theorem passedOver_iff :
    PassedOver py product (installedVersion py product) entry ↔
      MatchesOther py product entry ∨ MatchesProduct py product entry ∧
        OutOfRange py product entry := by
  rw [PassedOver]
  rcases judgeEntry_cases py product entry with ⟨hother, hjudge⟩ | ⟨hmatch, hout, hjudge⟩ |
    ⟨hmatch, hrange, name, hjudge⟩ | ⟨hnot, e, hjudge⟩
  · exact iff_of_true (.inl hjudge) (.inl hother)
  · exact iff_of_true (.inr hjudge) (.inr ⟨hmatch, hout⟩)
  · rw [hjudge]
    refine iff_of_false (by simp) ?_
    rintro (hother | ⟨-, hout⟩)
    · exact hmatch.not_matchesOther hother
    · exact absurd (Except.ok.inj (hrange.symm.trans hout)) (by decide)
  · rw [hjudge]
    refine iff_of_false (by simp) ?_
    rintro (hother | ⟨hmatch, hout⟩)
    · exact hnot (.inl hother)
    · exact hnot (.inr ⟨hmatch, false, hout⟩)

/-- The matcher is certain that a product is affected exactly if the loop stops at an entry. -/
theorem certain_iff_fits {cpes : List Json} :
    (∃ r, isCveAffectingProduct py product cpes = .ok r ∧ r.affected = true ∧
      r.confidence = .certain) ↔ ∃ before entry after, cpes = before ++ entry :: after ∧
        (∀ e ∈ before, MatchesOther py product e ∨
          MatchesProduct py product e ∧ OutOfRange py product e) ∧ Fits py product entry := by
  rw [certain_isCveAffectingProduct_iff]
  refine exists_congr fun before => exists_congr fun entry => exists_congr fun after => ?_
  rw [← judgeEntry_inRange_iff, exists_and_left, exists_and_left]
  exact and_congr_right fun _ => and_congr_left fun _ => forall₂_congr fun e _ => passedOver_iff

/-- The same, of a CVE that the sync judges. -/
theorem certain_judgeCandidate_iff {row : MirrorRow} :
    (∃ r, judgeCandidate py product row = .ok r ∧ r.affected = true ∧ r.confidence = .certain) ↔
      ∃ cpes, extractAffectedCpes row.rawPayload = .ok cpes ∧
        ∃ before entry after, cpes = before ++ entry :: after ∧
          (∀ e ∈ before, MatchesOther py product e ∨
            MatchesProduct py product e ∧ OutOfRange py product e) ∧ Fits py product entry := by
  simp only [← certain_iff_fits]
  rw [judgeCandidate]
  cases extractAffectedCpes row.rawPayload with
  | error e => simp [bind, Except.bind]
  | ok cpes => simp [bind, Except.bind]

/-- Only vulnerable entries make a product affected if one of them fits, or the loop does not stop
at a platform. -/
theorem onlyVulnerableAffect_iff_extracted (py : PyText) (product : Product) (row : MirrorRow) :
    OnlyVulnerableAffect py product row ↔
      (∃ entry ∈ payloadEntries row.rawPayload, Vulnerable entry ∧ Fits py product entry) ∨
        ∀ cpes, extractAffectedCpes row.rawPayload = .ok cpes → ¬PlatformFirst py product cpes := by
  constructor
  · intro h
    refine or_iff_not_imp_right.mpr fun hplatform => ?_
    obtain ⟨cpes, hplatform⟩ := not_forall.mp hplatform
    obtain ⟨hcpes, hplatform⟩ := Classical.not_imp.mp hplatform
    obtain ⟨before, entry, after, hsplit, hbefore, hfits, -⟩ := not_not.mp hplatform
    obtain ⟨r, hr, haffected, hcertain⟩ :=
      certain_judgeCandidate_iff.mpr ⟨cpes, hcpes, before, entry, after, hsplit, hbefore, hfits⟩
    exact h r hr haffected hcertain
  · rintro (hvulnerable | hnone) r hr haffected hcertain
    · exact hvulnerable
    · obtain ⟨cpes, hcpes, before, entry, after, hsplit, hbefore, hfits⟩ :=
        certain_judgeCandidate_iff.mp ⟨r, hr, haffected, hcertain⟩
      -- what the loop stops at is vulnerable, and is in the payload
      have hvulnerable : Vulnerable entry := by
        by_contra hnot
        exact hnone cpes hcpes ⟨before, entry, after, hsplit, hbefore, hfits, hnot⟩
      obtain ⟨members, rfl⟩ := hfits.obj
      have hmem : .obj members ∈ cpes := by
        rw [hsplit]
        exact List.mem_append_right before List.mem_cons_self
      exact ⟨.obj members, mem_payloadEntries hcpes hmem, hvulnerable, hfits⟩

/-- **Only vulnerable entries make a product affected exactly when one of them fits, or no platform
comes first** among the entries of the topmost nodes and their children. -/
theorem onlyVulnerableAffect_iff (py : PyText) (product : Product) {row : MirrorRow}
    (h : IsConfigTree row.rawPayload) :
    OnlyVulnerableAffect py product row ↔
      (∃ entry ∈ payloadEntries row.rawPayload, Vulnerable entry ∧ Fits py product entry) ∨
        ¬PlatformFirst py product ((topNodes row.rawPayload).flatMap reachedEntries) := by
  rw [onlyVulnerableAffect_iff_extracted, extractAffectedCpes_of_isConfigTree h]
  simp only [Except.ok.injEq, forall_eq']

end Platforms

/-- An entry, with its flag. -/
def Json.ofEntry (criteria : String) (vulnerable : Bool) : Json :=
  .obj [("criteria", .str criteria), ("vulnerable", .bool vulnerable)]

/-- A CVE in nginx where it runs on the kernel: the flags as NVD has them. -/
def MirrorRow.nginxOnLinux : MirrorRow :=
  { MirrorRow.bare "CVE-2024-0001" with
    rawPayload := .ofNodes
      [.ofNode [.ofEntry "cpe:2.3:a:f5:nginx:1.25.1:*:*:*:*:*:*:*" true] [],
        .ofNode [.ofEntry "cpe:2.3:o:linux:linux_kernel:-:*:*:*:*:*:*:*" false] []] }

theorem payloadEntries_nginxOnLinux : payloadEntries MirrorRow.nginxOnLinux.rawPayload =
    [.ofEntry "cpe:2.3:a:f5:nginx:1.25.1:*:*:*:*:*:*:*" true,
      .ofEntry "cpe:2.3:o:linux:linux_kernel:-:*:*:*:*:*:*:*" false] := by
  simp [MirrorRow.nginxOnLinux, payloadEntries, treeEntries_eq, Json.ofNodes, Json.ofNode,
    Json.elements, Json.arrow, Json.member?]

/-- The web server and the kernel that it runs on. -/
def Product.webServer : Product :=
  { Product.openSsl with name := "nginx", vendor := some "F5", version := some "1.25.1" }

@[inherit_doc Product.webServer]
def Product.kernel : Product :=
  { Product.openSsl with name := "Linux Kernel", vendor := some "Linux", version := some "6.1" }

theorem isConfigTree_nginxOnLinux : IsConfigTree MirrorRow.nginxOnLinux.rawPayload := by
  refine isConfigTree_ofNodes fun node hnode => ?_
  rcases List.mem_pair.mp hnode with rfl | rfl <;>
  · exact isNode_ofNode (List.forall_mem_nil _)

theorem onlyVulnerableAffect_webServer :
    IsConfigTree MirrorRow.nginxOnLinux.rawPayload ∧
      OnlyVulnerableAffect .ascii .webServer .nginxOnLinux := by
  refine ⟨isConfigTree_nginxOnLinux,
    (onlyVulnerableAffect_iff .ascii .webServer isConfigTree_nginxOnLinux).mpr (.inl ?_)⟩
  refine ⟨.ofEntry "cpe:2.3:a:f5:nginx:1.25.1:*:*:*:*:*:*:*" true, ?_, rfl,
    ⟨_, rfl, by decide +kernel⟩, by decide +kernel⟩
  rw [payloadEntries_nginxOnLinux]
  exact List.mem_cons_self

/-- **A platform makes a product affected**: the kernel is found to be affected by a CVE in software
that runs on it. -/
theorem not_onlyVulnerableAffect_kernel :
    ∃ py product row, IsConfigTree (MirrorRow.rawPayload row) ∧
      (∀ entry ∈ payloadEntries row.rawPayload, ∃ b, entry.get "vulnerable" = .ok (.bool b)) ∧
      ¬OnlyVulnerableAffect py product row := by
  refine ⟨.ascii, .kernel, .nginxOnLinux, isConfigTree_nginxOnLinux, ?_, fun h => ?_⟩
  · rw [payloadEntries_nginxOnLinux, List.forall_mem_cons, List.forall_mem_singleton]
    exact ⟨⟨true, rfl⟩, ⟨false, rfl⟩⟩
  · have hjudge : judgeCandidate .ascii .kernel .nginxOnLinux = .ok
        ⟨true, .certain, "version_in_range:cpe:2.3:o:linux:linux_kernel:-:*:*:*:*:*:*:*"⟩ := by
      decide +kernel
    have hother : MatchesOther .ascii .kernel
        (.ofEntry "cpe:2.3:a:f5:nginx:1.25.1:*:*:*:*:*:*:*" true) :=
      ⟨_, rfl, by decide +kernel⟩
    obtain ⟨entry, hentry, hvulnerable, hfits⟩ := h _ hjudge rfl rfl
    rw [payloadEntries_nginxOnLinux, List.mem_pair] at hentry
    rcases hentry with rfl | rfl
    · exact hfits.1.not_matchesOther hother
    · cases hvulnerable

end CveManagement
